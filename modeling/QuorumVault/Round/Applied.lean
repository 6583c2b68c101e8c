/-
The messages that a round has applied.

A relay may serve a message again and again.  The round remembers what it has handed
to the engine, under a name made of session, member, scope and hash.
-/
namespace QuorumVault

/-- The messages that a round has applied. -/
structure Applied where
  names : List String
deriving DecidableEq, Repr

namespace Applied

/-- The name of a message. -/
def key (session party : String) (scope : Option String) (hash : String) : String :=
  match scope with
  | some scope => session ++ "-" ++ party ++ "-" ++ scope ++ "-" ++ hash
  | none => session ++ "-" ++ party ++ "-" ++ hash

def empty : Applied :=
  ⟨[]⟩

/-- Whether a message was applied. -/
def contains (a : Applied) (name : String) : Bool :=
  a.names.contains name

def insert (a : Applied) (name : String) : Applied :=
  if a.contains name then a else ⟨name :: a.names⟩

/-- Remembers a message, and tells whether it is a new one. -/
def remember (a : Applied) (name : String) : Bool × Applied :=
  (!a.contains name, a.insert name)

/-- How many messages were applied. -/
def size (a : Applied) : Nat :=
  a.names.length

/-- Among the messages of a round the name tells the hash. -/
theorem key_inj {session party : String} {scope : Option String} {hash hash' : String} :
    key session party scope hash = key session party scope hash' ↔ hash = hash' := by
  cases scope <;> exact String.append_right_inj _

@[simp] theorem contains_empty (name : String) : empty.contains name = false := rfl

/-- After an insertion exactly one more name may be found. -/
@[simp] theorem contains_insert (a : Applied) (name other : String) :
    (a.insert name).contains other = (other == name || a.contains other) := by
  unfold insert
  split
  · by_cases h : other = name <;> simp_all
  · rfl

end Applied

end QuorumVault
