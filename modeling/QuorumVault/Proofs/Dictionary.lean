/-
What stands in a dictionary.

No name stands twice, so what is found under names is all that there is to a dictionary but for the
order of its names: dictionaries in which the same is found have the same entries, and whatever the order
in which it was filled, the same is found.
-/
import QuorumVault.Dictionary
import Mathlib.Data.List.Perm.Subperm

namespace QuorumVault.Dictionary

variable {α : Type} {d d' : Dictionary α} {name : String} {x : α} {entries : List (String × α)}

theorem mem_entries_iff : (name, x) ∈ d.entries ↔ d.get? name = some x := by
  constructor
  · intro mem
    -- The first entry of the name is found, and there is no other in front of this one.
    obtain ⟨before, after, split⟩ := List.append_of_mem mem
    have apart := d.nodup
    rw [split, List.map_append, List.map_cons] at apart
    refine List.lookup_eq_some_iff.2 ⟨before, after, split, fun e he => ?_⟩
    have other : e.1 ≠ name :=
      (List.nodup_append.1 apart).2.2 e.1 (List.mem_map_of_mem he) name List.mem_cons_self
    simpa using other.symm
  · intro found
    obtain ⟨before, after, split, -⟩ := List.lookup_eq_some_iff.1 found
    rw [split]
    exact List.mem_append_right _ List.mem_cons_self

theorem mem_names_iff : name ∈ d.names ↔ ∃ x, d.get? name = some x := by
  simp only [← mem_entries_iff]
  constructor
  · intro mem
    obtain ⟨⟨_, x⟩, entry, rfl⟩ := List.mem_map.1 mem
    exact ⟨x, entry⟩
  · rintro ⟨x, mem⟩
    exact List.mem_map_of_mem mem

theorem nodup_entries (d : Dictionary α) : d.entries.Nodup :=
  (List.pairwise_map.1 d.nodup).imp fun other same => other (congrArg _ same)

/-- Dictionaries have the same entries exactly if the same is found in them. -/
theorem perm_iff : d.entries.Perm d'.entries ↔ ∀ name, d.get? name = d'.get? name := by
  rw [List.perm_ext_iff_of_nodup d.nodup_entries d'.nodup_entries]
  simp only [Prod.forall, mem_entries_iff]
  exact forall_congr' fun name => Option.ext_iff.symm

theorem size_eq_of_perm (perm : d.entries.Perm d'.entries) : d.size = d'.size :=
  perm.length_eq

/-! ### Filling -/

theorem entries_foldl_insert (d : Dictionary α)
    (nodup : ((d.entries ++ entries).map (·.1)).Nodup) :
    (entries.foldl (fun d e => d.insert e.1 e.2) d).entries = d.entries ++ entries := by
  induction entries generalizing d with
  | nil => exact (List.append_nil _).symm
  | cons e rest ih =>
      have regroup : d.entries ++ e :: rest = d.entries ++ [e] ++ rest := by simp
      have new : e.1 ∉ d.entries.map (·.1) := by
        intro mem
        rw [List.map_append] at nodup
        exact (List.nodup_append.1 nodup).2.2 e.1 mem e.1 List.mem_cons_self rfl
      have put : (d.insert e.1 e.2).entries = d.entries ++ [e] := put_of_not_mem new
      rw [regroup] at nodup ⊢
      rw [List.foldl_cons, ih (d.insert e.1 e.2) (put ▸ nodup), put]

/-- What has no name twice is filled in as it stands. -/
theorem entries_ofList (nodup : (entries.map (·.1)).Nodup) : (ofList entries).entries = entries :=
  entries_foldl_insert empty nodup

end QuorumVault.Dictionary
