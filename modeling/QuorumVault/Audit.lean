/-
The audit trail.

What happens to keys and signatures is recorded.  The trail keeps the latest records
only: a new one drives out the oldest when the trail is full, and a trail has room for
at least one.
-/
import QuorumVault.Error

namespace QuorumVault.Audit

/-- What a record is about. -/
inductive Kind where
  | keygen
  | keysign
  | timeout
  | verification
  | failure
deriving DecidableEq, Repr

/-- How reports name it. -/
def Kind.label : Kind → String
  | .keygen => "KEYGEN"
  | .keysign => "KEYSIGN"
  | .timeout => "TIMEOUT"
  | .verification => "VERIFY"
  | .failure => "ERROR"

/-- What a record of a failed operation is about: what its last attempt failed with. -/
def Kind.ofError : Error → Kind
  | .of .timeout _ => .timeout
  | .of _ _ => .failure
  | .exhausted _ _ last => Kind.ofError last

/-- A record, but for the date and time at which it was made. -/
structure Record where
  kind : Kind
  sessionId : String
  /-- The member to whom it happened, if it was one. -/
  partyId : Option String
  message : String
deriving DecidableEq, Repr

/-- A record of what happened to a member. -/
def Record.make (kind : Kind) (sessionId partyId message : String) : Record :=
  ⟨kind, sessionId, some partyId, message⟩

/-- A trail that keeps the latest records. -/
structure Trail where
  capacity : Nat
  records : List Record
  capacity_pos : 0 < capacity
  /-- There are no more of them than there is room for. -/
  length_le : records.length ≤ capacity
deriving DecidableEq

namespace Trail

def make (capacity : Nat) : Trail :=
  ⟨max capacity 1, [], by omega, Nat.zero_le _⟩

/-- The usual trail. -/
instance : Inhabited Trail :=
  ⟨make 500⟩

/-- The records with one more; the oldest one makes room if they fill the capacity. -/
def push (capacity : Nat) (records : List Record) (r : Record) : List Record :=
  (if records.length = capacity then records.drop 1 else records) ++ [r]

/-- A full trail does not grow. -/
theorem length_push {capacity : Nat} {records : List Record} (r : Record) (pos : 0 < capacity)
    (le : records.length ≤ capacity) :
    (push capacity records r).length = min (records.length + 1) capacity := by
  unfold push
  split <;> simp <;> omega

/-- What is kept is the end of all there was. -/
theorem push_eq_drop {capacity : Nat} {records : List Record} (r : Record) (pos : 0 < capacity)
    (le : records.length ≤ capacity) :
    push capacity records r = (records ++ [r]).drop (records.length + 1 - capacity) := by
  unfold push
  split
  · rw [List.drop_append_of_le_length (by omega)]
    congr 2
    omega
  · rw [show records.length + 1 - capacity = 0 by omega, List.drop_zero]

def log (t : Trail) (r : Record) : Trail where
  capacity := t.capacity
  records := push t.capacity t.records r
  capacity_pos := t.capacity_pos
  length_le := by
    rw [length_push r t.capacity_pos t.length_le]
    exact Nat.min_le_right ..

/-- Up to a number of records, the newest in front. -/
def recent (t : Trail) (count : Nat) : List Record :=
  t.records.reverse.take count

/-- How many records are about something. -/
def count (t : Trail) (kind : Kind) : Nat :=
  t.records.countP fun r => r.kind = kind

end Trail

end QuorumVault.Audit
