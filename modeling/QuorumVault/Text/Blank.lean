/-
White space.

Requests, keys and encoded payloads are typed by people and pasted from other
tools, so blank fields are refused and the ends of encoded text are trimmed.  Both
use the Unicode property White_Space: the no-break space counts, the zero-width
space and the byte order mark do not.
-/
namespace QuorumVault.Text

/-- A character of the Unicode property White_Space. -/
def isBlank (c : Char) : Bool :=
  let n := c.toNat
  (9 ≤ n && n ≤ 13) || n == 0x20 || n == 0x85 || n == 0xA0 || n == 0x1680
    || (0x2000 ≤ n && n ≤ 0x200A) || n == 0x2028 || n == 0x2029 || n == 0x202F
    || n == 0x205F || n == 0x3000

/-- Drops the white space in front. -/
def dropBlank (cs : List Char) : List Char :=
  cs.dropWhile isBlank

/-- Drops the white space at both ends. -/
def trimChars (cs : List Char) : List Char :=
  (dropBlank (dropBlank cs).reverse).reverse

/-- Drops the white space at both ends. -/
def trim (s : String) : String :=
  String.ofList (trimChars s.toList)

/-- A text that holds nothing but white space. -/
def Blank (s : String) : Prop :=
  ∀ c ∈ s.toList, isBlank c = true

instance (s : String) : Decidable (Blank s) :=
  List.decidableBAll (fun c => isBlank c = true) s.toList

/-- Drops a given character at the end, as often as it stands there. -/
def trimEndOf (c : Char) (s : String) : String :=
  String.ofList (s.toList.reverse.dropWhile (· == c)).reverse

theorem dropBlank_eq_self {cs : List Char} (h : ∀ c ∈ cs, isBlank c = false) : dropBlank cs = cs := by
  cases cs with
  | nil => rfl
  | cons c rest => simp [dropBlank, h c (by simp)]

/-- A text without white space stays as it is. -/
theorem trim_eq_self {s : String} (h : ∀ c ∈ s.toList, isBlank c = false) : trim s = s := by
  have back : ∀ c ∈ s.toList.reverse, isBlank c = false := fun c hc => h c (List.mem_reverse.1 hc)
  rw [trim, trimChars, dropBlank_eq_self h, dropBlank_eq_self back, List.reverse_reverse,
    String.ofList_toList]

theorem dropBlank_append {blank : List Char} (h : ∀ c ∈ blank, isBlank c = true) (cs : List Char) :
    dropBlank (blank ++ cs) = dropBlank cs :=
  List.dropWhile_append_of_pos h

/-- White space around a text that has none is dropped. -/
theorem trim_append_append {before s after : String} (hbefore : Blank before) (hafter : Blank after)
    (h : ∀ c ∈ s.toList, isBlank c = false) : trim (before ++ s ++ after) = s := by
  have back : ∀ c ∈ after.toList.reverse, isBlank c = true := by
    intro c hc
    exact hafter c (List.mem_reverse.1 hc)
  have solid : ∀ c ∈ s.toList.reverse, isBlank c = false := by
    intro c hc
    exact h c (List.mem_reverse.1 hc)
  have front : dropBlank (s.toList ++ after.toList) = s.toList ++ after.toList ∨ s.toList = [] := by
    cases hs : s.toList with
    | nil => exact .inr rfl
    | cons c rest =>
      have hc : isBlank c = false := h c (by simp [hs])
      exact .inl (by simp [dropBlank, hc])
  rw [trim, trimChars, String.toList_append, String.toList_append, List.append_assoc,
    dropBlank_append hbefore]
  obtain front | empty := front
  · rw [front, List.reverse_append, dropBlank_append back, dropBlank_eq_self solid,
      List.reverse_reverse, String.ofList_toList]
  · have none : dropBlank after.toList = [] := by
      simpa [dropBlank] using dropBlank_append hafter []
    have same : s = "" := String.toList_inj.1 empty
    rw [same, String.toList_empty, List.nil_append, none]
    rfl

/-- Nothing is left of a text exactly if it holds nothing but white space. -/
theorem dropBlank_eq_nil_iff {cs : List Char} : dropBlank cs = [] ↔ ∀ c ∈ cs, isBlank c = true := by
  induction cs with
  | nil => exact ⟨nofun, fun _ => rfl⟩
  | cons c rest ih =>
      unfold dropBlank at ih ⊢
      rw [List.forall_mem_cons, List.dropWhile_cons]
      by_cases blank : isBlank c = true
      · rw [if_pos blank, ih]
        exact (and_iff_right blank).symm
      · rw [if_neg blank]
        exact iff_of_false nofun fun h => blank h.1

/-- So it is when both ends are trimmed. -/
theorem trim_eq_empty_iff {s : String} : trim s = "" ↔ Blank s := by
  rw [trim, trimChars, ← String.toList_inj, String.toList_ofList, String.toList_empty,
    List.reverse_eq_nil_iff, dropBlank_eq_nil_iff]
  constructor
  · intro blank
    have front : ∀ c ∈ s.toList.takeWhile isBlank, isBlank c = true :=
      fun c mem => List.all_eq_true.1 List.all_takeWhile c mem
    have back : ∀ c ∈ s.toList.dropWhile isBlank, isBlank c = true :=
      fun c mem => blank c (List.mem_reverse.2 mem)
    unfold Blank
    rw [← List.takeWhile_append_dropWhile (p := isBlank) (l := s.toList)]
    exact List.forall_mem_append.2 ⟨front, back⟩
  · intro blank c mem
    rw [dropBlank_eq_nil_iff.2 blank] at mem
    cases mem

end QuorumVault.Text
