/-
Sealed data.

Whatever leaves the machine is sealed: a nonce of its own, the hidden text and its
tag, one behind the other.  Messages of a session are sealed with the key that the
members share, which is handed around in hexadecimal, and travel in base64; vaults are
sealed with the hash of a password.  Sealing cannot fail but for the key.  Opening
can, and a message in transit that is no base64 fails in a way of its own, because
then asking again would not help.
-/
import QuorumVault.Cipher.Gcm
import QuorumVault.Encoding.Base64
import QuorumVault.Encoding.Hex
import QuorumVault.Error
import QuorumVault.Hash.Sha2
import QuorumVault.Text.Blank

namespace QuorumVault.Sealing

/-- Twelve bytes that no two sealings under one key may share. -/
abbrev Nonce := Vector UInt8 12

/-- Why something cannot be sealed or opened. -/
inductive Fault where
  | keyText (fault : Hex.Fault)
  | sessionKeyLength (length : Nat)
  | keyLength
  | tooShort
  | wrongTag
  | encoding (fault : Base64.Fault)
deriving DecidableEq, Repr

def Fault.error : Fault → Error
  | .keyText fault => .of .crypto ("Invalid session key: " ++ fault.message)
  | .sessionKeyLength n => .of .crypto ("Session key must be 32 bytes, got " ++ toString n)
  | .keyLength => .of .crypto "AES-256 key must be 32 bytes"
  | .tooShort => .of .crypto "Invalid sealed data"
  | .wrongTag => .of .crypto "Decryption failed: Error"
  | .encoding fault => .of .serialization ("base64: " ++ fault.message)

/-! ### Keys -/

/-- A key. -/
structure Key where
  bytes : Bytes
  length_bytes : bytes.length = 32
deriving DecidableEq

/-- The key with the given bytes. -/
def Key.ofBytes (bytes : Bytes) : Except Fault Key :=
  if h : bytes.length = 32 then .ok ⟨bytes, h⟩ else .error .keyLength

/-- The key of a session from its text, white space around it aside. -/
def Key.ofText (text : String) : Except Fault Key :=
  match Hex.decode (Text.trim text) with
  | .error fault => .error (.keyText fault)
  | .ok bytes =>
    if h : bytes.length = 32 then .ok ⟨bytes, h⟩ else .error (.sessionKeyLength bytes.length)

/-- The key of a password. -/
def Key.ofPassword (password : String) : Key :=
  ⟨Sha2.sha256.hash (Utf8.encode password), Sha2.Variant.length_hash ..⟩

/-- The block cipher of a key. -/
def Key.cipher (key : Key) : Aes.Block → Aes.Block :=
  Aes.encrypt (Aes.schedule key.bytes)

/-! ### Bytes -/

def Key.seal (key : Key) (nonce : Nonce) (text : Bytes) : Bytes :=
  nonce.toList ++ Gcm.encrypt key.cipher nonce.toList text

/-- Opens what was sealed, if it is long enough to hold a nonce. -/
def Key.unseal (key : Key) (sealed : Bytes) : Except Fault Bytes :=
  if sealed.length < Gcm.nonceLength then .error .tooShort
  else
    match Gcm.decrypt key.cipher (sealed.take Gcm.nonceLength) (sealed.drop Gcm.nonceLength) with
    | some text => .ok text
    | none => .error .wrongTag

/-- Opens with the key of the given bytes; whether there is a nonce is looked at first. -/
def unsealWith (key sealed : Bytes) : Except Fault Bytes :=
  if sealed.length < Gcm.nonceLength then .error .tooShort
  else do (← Key.ofBytes key).unseal sealed

/-! ### Messages of a session -/

/-- Seals a message for transit under the session key with the given text. -/
def encode (keyText : String) (nonce : Nonce) (message : Bytes) : Except Fault String := do
  return Base64.encode ((← Key.ofText keyText).seal nonce message)

/-- Opens a message in transit. -/
def decode (keyText text : String) : Except Fault Bytes := do
  let key ← Key.ofText keyText
  let sealed ← (Base64.decode (Text.trim text)).mapError .encoding
  key.unseal sealed

/-! ### Opening undoes sealing -/

@[simp] theorem Key.length_seal (key : Key) (nonce : Nonce) (text : Bytes) :
    (key.seal nonce text).length = text.length + 28 := by
  simp [Key.seal, Gcm.tagLength]
  omega

/-- What was sealed opens under the same key. -/
@[simp] theorem Key.unseal_seal (key : Key) (nonce : Nonce) (text : Bytes) :
    key.unseal (key.seal nonce text) = .ok text := by
  simp [Key.unseal, Key.seal, Gcm.nonceLength]

/-- A session key is read from its own digits. -/
theorem Key.ofText_encode (key : Key) : Key.ofText (Hex.encode key.bytes) = .ok key := by
  unfold Key.ofText
  rw [Hex.trim_encode, Hex.decode_encode]
  exact dif_pos key.length_bytes

/-- A message that was sealed for transit opens under the same key. -/
theorem decode_eq_ok_of_encode {keyText text : String} {nonce : Nonce} {message : Bytes}
    (h : encode keyText nonce message = .ok text) : decode keyText text = .ok message := by
  unfold encode at h
  unfold decode
  cases hk : Key.ofText keyText with
  | error fault => simp [hk, bind, Except.bind] at h
  | ok key =>
    simp only [hk, bind, Except.bind, pure, Except.pure, Except.ok.injEq] at h ⊢
    simp [← h, mapError_ok]

/-- Messages that were sealed with different nonces are different. -/
theorem nonce_eq_of_encode {keyText text : String} {nonce nonce' : Nonce} {message message' : Bytes}
    (h : encode keyText nonce message = .ok text) (h' : encode keyText nonce' message' = .ok text) :
    nonce = nonce' := by
  unfold encode at h h'
  cases hk : Key.ofText keyText with
  | error fault => simp [hk, bind, Except.bind] at h
  | ok key =>
    simp only [hk, bind, Except.bind, pure, Except.pure, Except.ok.injEq] at h h'
    have same : key.seal nonce message = key.seal nonce' message' := by
      have decoded := Base64.decode_encode (key.seal nonce message)
      rw [h, ← h', Base64.decode_encode] at decoded
      exact (Except.ok.inj decoded).symm
    have lengths : nonce.toList.length = nonce'.toList.length := by simp
    exact Vector.toList_inj.1 (List.append_inj_left same lengths)

end QuorumVault.Sealing
