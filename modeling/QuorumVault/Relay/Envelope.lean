/-
Messages on the relay.

The relay sees who sends a message to whom in which session, and a body that it cannot
read.  It knows a message by the hash of its body.
-/
import QuorumVault.Encoding.Hex
import QuorumVault.Hash.Blake3
import QuorumVault.Json.Decoder

namespace QuorumVault

/-- A message on the relay. -/
structure Envelope where
  sessionId : String
  sender : String
  recipients : List String
  body : String
  hash : String
  sequenceNo : Nat
deriving DecidableEq, Repr

namespace Envelope

/-- The hash of a body. -/
def contentHash (body : String) : String :=
  Hex.encode (Blake3.hash (Utf8.encode body))

/-- The shape of a message. -/
def decoder : Json.Decoder Envelope :=
  open Json.Decoder in
  record "RelayMessage"
    [field "session_id" string fun x m => { m with sessionId := x },
      field "from" string fun x m => { m with sender := x },
      field "to" (list string) fun x m => { m with recipients := x },
      field "body" string fun x m => { m with body := x },
      field "hash" string fun x m => { m with hash := x },
      optional "sequence_no" (natural 64) fun x m => { m with sequenceNo := x }]
    ⟨"", "", [], "", "", 0⟩

def toJson (m : Envelope) : Json :=
  .object [("session_id", .string m.sessionId), ("from", .string m.sender),
    ("to", .strings m.recipients), ("body", .string m.body), ("hash", .string m.hash),
    ("sequence_no", .nat m.sequenceNo)]

end Envelope

end QuorumVault
