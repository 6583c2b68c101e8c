/-
Signatures of both curves.

An engine hands out a signature as bytes: two numbers of 32 bytes, and for ECDSA one
byte more from which the key could be recovered.  The response to the caller spells
them in hexadecimal together with the form that is written into transactions, which
for ECDSA is a sequence of two integers in the distinguished encoding and for Ed25519
the 64 bytes as they are.

The response can be checked against a public key.  Key and signature are refused
before anything is computed if they cannot be what they claim to be.
-/
import QuorumVault.Curve.Edwards25519
import QuorumVault.Curve.Secp256k1
import QuorumVault.Encoding.Hex
import QuorumVault.Error

namespace QuorumVault

/-- The curve a key lives on. -/
inductive Family where
  | ecdsa
  | eddsa
deriving DecidableEq, Repr

/-- How messages name it. -/
def Family.label : Family → String
  | .ecdsa => "ecdsa"
  | .eddsa => "eddsa"

/-- A signature as the caller gets it. -/
structure KeysignResponse where
  msg : String
  r : String
  s : String
  derSignature : String
  recoveryId : String
deriving DecidableEq, Repr

namespace Signature

/-- Why no response can be made of an engine's bytes. -/
inductive OutputFault where
  | length (family : Family) (length : Nat)
  | outOfRange
deriving DecidableEq, Repr

/-- How many bytes an engine hands out. -/
def outputLength : Family → Nat
  | .ecdsa => 65
  | .eddsa => 64

def OutputFault.error : OutputFault → Error
  | .length .ecdsa n => .of .engine ("ECDSA signature must be 65 bytes, got " ++ toString n)
  | .length .eddsa n => .of .engine ("EdDSA signature must be 64 bytes, got " ++ toString n)
  | .outOfRange => .of .engine "Invalid ECDSA signature: signature error"

/-! ### The distinguished encoding -/

/-- An integer: its tag, its length and its bytes.  There are as few bytes as leave the highest bit
of the first one clear. -/
def derInteger (n : Nat) : Bytes :=
  let length := n.log2 / 8 + 1
  let length := if n.testBit (8 * length - 1) then length + 1 else length
  0x02 :: UInt8.ofNat length :: Bytes.ofBigEndian length n

/-- A sequence of two integers. -/
def der (r s : Nat) : Bytes :=
  let body := derInteger r ++ derInteger s
  0x30 :: UInt8.ofNat body.length :: body

/-! ### Responses -/

/-- The response for the bytes of an engine. -/
def respond (family : Family) (message : String) (raw : Bytes) : Except OutputFault KeysignResponse :=
  if raw.length ≠ outputLength family then .error (.length family raw.length)
  else
    let r := raw.take 32
    let s := (raw.drop 32).take 32
    match family with
    | .ecdsa =>
      match Secp256k1.Signature.ofBytes? (raw.take 64) with
      | none => .error .outOfRange
      | some signature => .ok
        { msg := message
          r := Hex.encode r
          s := Hex.encode s
          derSignature := Hex.encode (der signature.r signature.s)
          recoveryId := Hex.encode (raw.drop 64) }
    | .eddsa => .ok
        { msg := message
          r := Hex.encode r
          s := Hex.encode s
          derSignature := Hex.encode raw
          recoveryId := "" }

/-! ### Checking -/

/-- Why a signature is not accepted. -/
inductive Fault where
  | notHex (fault : Hex.Fault)
  | ecdsaKey
  | ecdsaFormat
  | ecdsaMismatch
  | eddsaKeyLength
  | eddsaKey
  | eddsaFormat
  | eddsaNumber
  | eddsaMismatch
deriving DecidableEq, Repr

def Fault.error : Fault → Error
  | .notHex fault => .of .serialization ("hex: " ++ fault.message)
  | .ecdsaKey => .of .crypto "Invalid public key: signature error"
  | .ecdsaFormat => .of .crypto "Invalid signature format: signature error"
  | .ecdsaMismatch => .of .crypto "Signature verification failed: signature error"
  | .eddsaKeyLength => .of .crypto "EdDSA public key must be 32 bytes"
  | .eddsaKey => .of .crypto "Invalid public key: signature error: Cannot decompress Edwards point"
  | .eddsaFormat => .of .crypto "Invalid signature format: signature error"
  | .eddsaNumber =>
    .of .crypto
      "Signature verification failed: signature error: Cannot use scalar with high-bit set"
  | .eddsaMismatch =>
    .of .crypto
      "Signature verification failed: signature error: Verification equation was not satisfied"

def hex (text : String) : Except Fault Bytes :=
  (Hex.decode text).mapError .notHex

/-- The two numbers of a signature, one behind the other. -/
def joined (r s : String) : Except Fault Bytes := do
  let first ← hex r
  return first ++ (← hex s)

/-- Checks an ECDSA signature of a digest. -/
def checkEcdsa (publicKey : String) (digest : Bytes) (r s : String) : Except Fault Unit := do
  match Secp256k1.Point.ofBytes? (← hex publicKey) with
  | none => throw .ecdsaKey
  | some key =>
    match Secp256k1.Signature.ofBytes? (← joined r s) with
    | none => throw .ecdsaFormat
    | some signature =>
      if Secp256k1.verify key digest signature then return () else throw .ecdsaMismatch

/-- Checks an Ed25519 signature of a message. -/
def checkEddsa (publicKey : String) (message : Bytes) (r s : String) : Except Fault Unit := do
  let keyBytes ← hex publicKey
  if keyBytes.length ≠ 32 then throw .eddsaKeyLength
  match Edwards25519.Point.ofBytes? keyBytes with
  | none => throw .eddsaKey
  | some key =>
    let signature ← joined r s
    if signature.length ≠ 64 then throw .eddsaFormat
    match Edwards25519.verify keyBytes key message signature with
    | .good => return ()
    | .numberTooLarge => throw .eddsaNumber
    | .mismatch => throw .eddsaMismatch

/-- Checks a signature on the curve of a family. -/
def check : Family → String → Bytes → String → String → Except Fault Unit
  | .ecdsa => checkEcdsa
  | .eddsa => checkEddsa

end Signature

end QuorumVault
