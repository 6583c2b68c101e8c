/-
Requests to sign messages, and the answers to them.

Every message has a name, under which its signature is returned, and the bytes to
sign.  The round that signs it goes by the hash of those bytes, so neither a name nor
the bytes may come twice.
-/
import QuorumVault.Dictionary
import QuorumVault.Hash.Blake3
import QuorumVault.Request.Keygen
import QuorumVault.Signature

namespace QuorumVault

/-- The shape of a family. -/
def Family.decoder : Json.Decoder Family :=
  .choice [("ecdsa", .ecdsa), ("eddsa", .eddsa)]

/-- A message to sign. -/
structure KeysignMessage where
  message : String
  hash : String
  family : Family
deriving DecidableEq, Repr

namespace KeysignMessage

/-- A message with nothing filled in. -/
def blank : KeysignMessage :=
  ⟨"", "", .ecdsa⟩

/-- The shape of a message. -/
def decoder : Json.Decoder KeysignMessage :=
  open Json.Decoder in
  record "KeysignMessage"
    [field "message" string fun x m => { m with message := x },
      field "hash" string fun x m => { m with hash := x },
      field "family" Family.decoder fun x m => { m with family := x }]
    blank

def bytes (m : KeysignMessage) : Except Hex.Fault Bytes :=
  Hex.decode m.message

/-- The scope of the round for some bytes. -/
def scopeOf (body : Bytes) : String :=
  Hex.encode (Blake3.hash body)

/-- The scope of the round that signs the message. -/
def scope (m : KeysignMessage) : Except Hex.Fault String :=
  m.bytes.map scopeOf

end KeysignMessage

/-- A request to sign messages. -/
structure KeysignRequest where
  publicKey : String
  messages : List KeysignMessage
  sessionId : String
  hexEncryptionKey : String
  /-- The path to the child key under which ECDSA signatures are checked; blank for the vault's own. -/
  derivePath : String
  pluginId : String
deriving DecidableEq, Repr

namespace KeysignRequest

/-- A request with nothing filled in. -/
def blank : KeysignRequest :=
  ⟨"", [], "", "", "", ""⟩

/-- The shape of a request. -/
def decoder : Json.Decoder KeysignRequest :=
  open Json.Decoder in
  record "KeysignRequest"
    [field "public_key" string fun x r => { r with publicKey := x },
      field "messages" (list KeysignMessage.decoder) fun x r => { r with messages := x },
      field "session_id" string fun x r => { r with sessionId := x },
      field "hex_encryption_key" string fun x r => { r with hexEncryptionKey := x },
      optional "derive_path" string fun x r => { r with derivePath := x },
      optional "plugin_id" string fun x r => { r with pluginId := x }]
    blank

/-- Checks messages against the names and bytes of those before them. -/
def checkMessages (hashes : List String) (bodies : List Bytes) :
    List KeysignMessage → Except RequestFault Unit
  | [] => .ok ()
  | m :: rest => do
    RequestFault.require "message" m.message
    RequestFault.require "hash" m.hash
    if m.hash ∈ hashes then throw (.duplicateHash m.hash)
    let body ← m.bytes.mapError fun _ => .notHex m.hash
    if body ∈ bodies then throw (.repeatedBody m.hash)
    checkMessages (m.hash :: hashes) (body :: bodies) rest

/-- Demands all that nothing can be signed without, and messages that can be told apart. -/
def check (r : KeysignRequest) : Except RequestFault Unit := do
  RequestFault.require "public_key" r.publicKey
  RequestFault.require "session_id" r.sessionId
  RequestFault.require "hex_encryption_key" r.hexEncryptionKey
  if r.messages = [] then throw .noMessages
  checkMessages [] [] r.messages

end KeysignRequest

namespace KeysignResponse

/-- A response with nothing filled in. -/
def blank : KeysignResponse :=
  ⟨"", "", "", "", ""⟩

/-- The shape of a response. -/
def decoder : Json.Decoder KeysignResponse :=
  open Json.Decoder in
  record "KeysignResponse"
    [field "msg" string fun x r => { r with msg := x },
      field "r" string fun x r => { r with r := x },
      field "s" string fun x r => { r with s := x },
      field "der_signature" string fun x r => { r with derSignature := x },
      field "recovery_id" string fun x r => { r with recoveryId := x }]
    blank

def toJson (r : KeysignResponse) : Json :=
  .object [("msg", .string r.msg), ("r", .string r.r), ("s", .string r.s),
    ("der_signature", .string r.derSignature), ("recovery_id", .string r.recoveryId)]

end KeysignResponse

/-- The responses under the names of their messages. -/
abbrev KeysignResults := Dictionary KeysignResponse

namespace KeysignResults

/-- Why responses cannot be put in the order of a request. -/
inductive Fault where
  | count (expected got : Nat)
  | missing (hash : String)
deriving DecidableEq, Repr

def Fault.error : Fault → Error
  | .count expected got =>
    .of .validation ("expected " ++ toString expected ++ " signatures, got " ++ toString got)
  | .missing hash => .of .validation ("missing signature for message " ++ hash)

/-- The responses to messages, one by one. -/
def pick (results : KeysignResults) (messages : List KeysignMessage) :
    Except Fault (List KeysignResponse) :=
  messages.mapM fun m =>
    match results.get? m.hash with
    | some response => .ok response
    | none => .error (.missing m.hash)

/-- The responses in the order of the request's messages. -/
def inOrder (results : KeysignResults) (request : KeysignRequest) :
    Except Fault (List KeysignResponse) :=
  if results.size ≠ request.messages.length then
    .error (.count request.messages.length results.size)
  else pick results request.messages

end KeysignResults

end QuorumVault
