/-
What happens in a run.

A run is a run of calls: to engines, to the relay and to the storage, together with
the records it leaves.  Its trace tells them in order, and reports are read off it.
-/
import QuorumVault.Audit
import QuorumVault.Engine.Basic
import QuorumVault.Relay.Basic
import QuorumVault.Signature
import QuorumVault.Vault.Storage

namespace QuorumVault

/-- Something that happens in a run. -/
inductive Event where
  | engine (family : Family) (call : Engine.Call) (answer : Except Error call.Answer)
  | query (family : Family) (query : Engine.Query) (answer : Except Error Bytes)
  | asked (call : Relay.Call)
  | answered (call : Relay.Call) (answer : Except Error call.Answer)
  | storing (call : Storage.Call)
  | stored (call : Storage.Call) (answer : Except Error call.Answer)
  | noted (record : Audit.Record)
  | queued (taskType : String) (payload : Bytes)
  | attempt (label : String) (number : Nat)

/-- What happened and when, the latest in front. -/
abbrev Trace := List (Time × Event)

namespace Trace

def events (t : Trace) : List Event :=
  t.reverse.map (·.2)

/-- The records that were made, in order. -/
def records (t : Trace) : List Audit.Record :=
  t.events.filterMap fun
    | .noted r => some r
    | _ => none

/-- The calls to the engine of a family that were served, with their answers, in order. -/
def engineCalls (t : Trace) (family : Family) :
    List ((c : Engine.Call) × Except Error c.Answer) :=
  t.events.filterMap fun
    | .engine f c answer => if f = family then some ⟨c, answer⟩ else none
    | _ => none

/-- The calls to the relay that began, in order. -/
def relayCalls (t : Trace) : List Relay.Call :=
  t.events.filterMap fun
    | .asked c => some c
    | _ => none

/-- How a call to an engine changes the number of sessions it holds open. -/
def openAfter (count : Nat) : (c : Engine.Call) → Except Error c.Answer → Nat
  | .openKeygen .., .ok _ => count + 1
  | .openSign .., .ok _ => count + 1
  | .free _, _ => count - 1
  | _, _ => count

/-- How many sessions the engine of a family holds open. -/
def live (t : Trace) (family : Family) : Nat :=
  (t.engineCalls family).foldl (fun count c => openAfter count c.1 c.2) 0

end Trace

end QuorumVault
