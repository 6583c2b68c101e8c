/-
Values under names.

Each name stands once.  A new name goes to the end and an old one keeps its place, so
that the order tells when a name was first used.
-/
namespace QuorumVault

/-- Values under names. -/
structure Dictionary (α : Type) where
  entries : List (String × α)
  nodup : (entries.map (·.1)).Nodup

namespace Dictionary

variable {α : Type}

def empty : Dictionary α :=
  ⟨[], by simp⟩

def names (d : Dictionary α) : List String :=
  d.entries.map (·.1)

/-- How many names there are. -/
def size (d : Dictionary α) : Nat :=
  d.entries.length

/-- The value under a name. -/
def get? (d : Dictionary α) (name : String) : Option α :=
  d.entries.lookup name

/-- Whether there is a value under a name. -/
def contains (d : Dictionary α) (name : String) : Bool :=
  (d.get? name).isSome

/-- Puts a value in the place of another one or at the end. -/
def put (name : String) (x : α) : List (String × α) → List (String × α)
  | [] => [(name, x)]
  | (other, y) :: rest => if other = name then (name, x) :: rest else (other, y) :: put name x rest

theorem mem_names_put {name other : String} {x : α} {entries : List (String × α)} :
    other ∈ (put name x entries).map (·.1) ↔ other = name ∨ other ∈ entries.map (·.1) := by
  induction entries with
  | nil => simp [put]
  | cons e rest ih =>
    simp only [put]
    split <;> grind

theorem nodup_put {name : String} {x : α} {entries : List (String × α)}
    (h : (entries.map (·.1)).Nodup) : ((put name x entries).map (·.1)).Nodup := by
  induction entries with
  | nil => simp [put]
  | cons e rest ih =>
    simp only [List.map_cons, List.nodup_cons] at h
    simp only [put]
    split
    · rename_i hn
      simp only [List.map_cons, List.nodup_cons]
      exact ⟨hn ▸ h.1, h.2⟩
    · rename_i hn
      simp only [List.map_cons, List.nodup_cons, mem_names_put, not_or]
      exact ⟨⟨hn, h.1⟩, ih h.2⟩

/-- Puts a value under a name, in place of the one that may be there. -/
def insert (d : Dictionary α) (name : String) (x : α) : Dictionary α :=
  ⟨put name x d.entries, nodup_put d.nodup⟩

/-- The values under their names; of several under one name the last one counts. -/
def ofList (entries : List (String × α)) : Dictionary α :=
  entries.foldl (fun d e => d.insert e.1 e.2) empty

theorem lookup_put (name other : String) (x : α) (entries : List (String × α)) :
    (put name x entries).lookup other = if other = name then some x else entries.lookup other := by
  have beq (a b : String) : (a == b) = decide (a = b) := rfl
  induction entries with
  | nil => by_cases h : other = name <;> simp [put, List.lookup_cons, beq, h]
  | cons e rest ih =>
    obtain ⟨first, y⟩ := e
    simp only [put]
    split <;> rename_i hn
    · by_cases h : other = name <;> simp [List.lookup_cons, beq, h, hn]
    · by_cases h : other = name
      · subst h
        simp [List.lookup_cons, beq, Ne.symm hn, ih]
      · by_cases hf : other = first <;> simp [List.lookup_cons, beq, h, hf, hn, ih]

/-- After an insertion the new value is found under its name, and all else as before. -/
@[simp] theorem get?_insert (d : Dictionary α) (name other : String) (x : α) :
    (d.insert name x).get? other = if other = name then some x else d.get? other :=
  lookup_put ..

theorem size_eq (d : Dictionary α) : d.size = d.names.length :=
  (List.length_map ..).symm

/-- A new name and its value go to the end. -/
theorem put_of_not_mem {name : String} {x : α} {entries : List (String × α)}
    (new : name ∉ entries.map (·.1)) : put name x entries = entries ++ [(name, x)] := by
  induction entries with
  | nil => rfl
  | cons e rest ih =>
    have other : e.1 ≠ name := fun same => new (same ▸ List.mem_cons_self)
    have later : name ∉ rest.map (·.1) := fun mem => new (List.mem_cons_of_mem _ mem)
    rw [put, if_neg other, ih later, List.cons_append]

/-- A new name goes to the end. -/
theorem names_insert_of_not_mem {d : Dictionary α} {name : String} (new : name ∉ d.names) (x : α) :
    (d.insert name x).names = d.names ++ [name] := by
  show (put name x d.entries).map (·.1) = _
  rw [put_of_not_mem new, List.map_append]
  rfl

end Dictionary

end QuorumVault
