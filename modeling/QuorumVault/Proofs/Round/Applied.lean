/-
Which messages a round takes for applied.

A message is told by its session, member, scope and hash, and the round remembers one text for the four,
with dashes in between.  Dashes inside of them look the same.  So what is remembered is the pieces
between all the dashes, and messages whose four parts come to the same pieces are taken for each other:
one without a scope for one of another scope, if its hash begins with that scope and a dash.  Messages
that have session, member and scope in common, as all of one round have, are not mixed up, nor are those
of one session and member whose hashes have no dashes in them.
-/
import Mathlib.Data.List.Dedup
import QuorumVault.Round.Applied

namespace QuorumVault.Applied

/-- What a message is told by. -/
structure Mark where
  session : String
  party : String
  scope : Option String
  hash : String
deriving DecidableEq

/-- The text that is remembered. -/
def Mark.name (m : Mark) : String :=
  key m.session m.party m.scope m.hash

/-- A text cut at its dashes. -/
def cut (text : String) : List (List Char) :=
  text.toList.splitOn '-'

/-- What is left of a message when its parts are cut at their dashes. -/
def Mark.pieces (m : Mark) : List (List Char) :=
  cut m.session ++ cut m.party ++ m.scope.toList.flatMap cut ++ cut m.hash

/-- What is done with the messages that were applied. -/
inductive Step where
  | insert (m : Mark)
  | contains (m : Mark)

/-- The message that is remembered, if one is. -/
def Step.mark? : Step → Option Mark
  | .insert m => some m
  | .contains _ => none

/-- All messages that were to be remembered. -/
def inserted (steps : List Step) : List Mark :=
  steps.filterMap Step.mark?

/-- Takes a step: the answer, and what is remembered then. -/
def step (a : Applied) : Step → Bool × Applied
  | .insert m => a.remember m.name
  | .contains m => (a.contains m.name, a)

/-- What is remembered after some steps. -/
def after (a : Applied) (steps : List Step) : Applied :=
  steps.foldl (fun a s => (a.step s).2) a

variable {a : Applied} {marks : List Mark} {m m' : Mark}

/-! ### Pieces -/

theorem cut_inj {text text' : String} (same : cut text = cut text') : text = text' := by
  have joined := congrArg ['-'].intercalate same
  unfold cut at joined
  rw [List.intercalate_splitOn, List.intercalate_splitOn] at joined
  exact String.toList_inj.1 joined

theorem cut_dash (text text' : String) : cut (text ++ "-" ++ text') = cut text ++ cut text' := by
  have dash : (text ++ "-" ++ text').toList = text.toList ++ '-' :: text'.toList := by
    rw [String.toList_append, String.toList_append, List.append_assoc]
    rfl
  unfold cut
  rw [dash]
  exact List.splitOnP_append_cons _ _ (beq_self_eq_true _)

theorem cut_name (m : Mark) : cut m.name = m.pieces := by
  obtain ⟨session, party, scope, hash⟩ := m
  unfold Mark.name key Mark.pieces
  cases scope with
  | none => simp [cut_dash]
  | some scope => simp [cut_dash]

/-- Messages have one name exactly if they come to the same pieces. -/
theorem name_eq_iff : m.name = m'.name ↔ m.pieces = m'.pieces := by
  rw [← cut_name, ← cut_name]
  exact ⟨congrArg cut, cut_inj⟩

theorem pieces_scope_inj {scope scope' : Option String}
    (same : scope.toList.flatMap cut = scope'.toList.flatMap cut) : scope = scope' := by
  cases scope with
  | none =>
      cases scope' with
      | none => rfl
      | some scope' => simp [cut] at same
  | some scope =>
      cases scope' with
      | none => simp [cut] at same
      | some scope' => exact congrArg some (cut_inj (by simpa using same))

/-! ### What is remembered -/

/-- The names that are remembered are those of some messages, each of them once. -/
structure Holds (a : Applied) (marks : List Mark) : Prop where
  nodup : a.names.Nodup
  mem_iff : ∀ name, name ∈ a.names ↔ name ∈ marks.map Mark.name

theorem holds_empty : empty.Holds [] :=
  ⟨List.nodup_nil, fun _ => Iff.rfl⟩

theorem contains_iff {name : String} : a.contains name = true ↔ name ∈ a.names :=
  List.contains_iff_mem

theorem Holds.insert (holds : a.Holds marks) (m : Mark) :
    (a.insert m.name).Holds (marks ++ [m]) := by
  constructor
  · unfold Applied.insert
    split
    · exact holds.nodup
    · next other =>
        rw [contains_iff] at other
        exact List.nodup_cons.2 ⟨other, holds.nodup⟩
  · intro name
    rw [← contains_iff, contains_insert, Bool.or_eq_true, contains_iff, holds.mem_iff, List.map_append,
      List.mem_append, List.map_singleton, List.mem_singleton, beq_iff_eq]
    exact or_comm

theorem Holds.step (holds : a.Holds marks) (s : Step) :
    (a.step s).2.Holds (marks ++ s.mark?.toList) := by
  cases s with
  | insert m => exact holds.insert m
  | contains m =>
      rw [Step.mark?, Option.toList_none, List.append_nil]
      exact holds

theorem Holds.after (holds : a.Holds marks) (steps : List Step) :
    (a.after steps).Holds (marks ++ inserted steps) := by
  induction steps generalizing a marks with
  | nil =>
      rw [inserted, List.filterMap_nil, List.append_nil]
      exact holds
  | cons s rest ih =>
      have front : inserted (s :: rest) = s.mark?.toList ++ inserted rest := by
        unfold inserted
        cases h : s.mark? <;> simp [h]
      rw [front, ← List.append_assoc]
      exact ih (holds.step s)

theorem Holds.contains_iff (holds : a.Holds marks) :
    a.contains m.name = true ↔ ∃ m' ∈ marks, m'.name = m.name := by
  rw [Applied.contains_iff, holds.mem_iff, List.mem_map]

theorem Holds.size_eq (holds : a.Holds marks) : a.size = (marks.map Mark.name).dedup.length := by
  refine List.Perm.length_eq ((List.perm_ext_iff_of_nodup holds.nodup (List.nodup_dedup _)).2 ?_)
  intro name
  rw [List.mem_dedup, holds.mem_iff]

/-! ### Messages that are not mixed up -/

/-- Messages of some kind that all have names of their own. -/
def Apart (kind : Mark → Prop) : Prop :=
  ∀ m m', kind m → kind m' → m.name = m'.name → m = m'

/-- The messages of a round. -/
def InRound (session party : String) (scope : Option String) (m : Mark) : Prop :=
  m.session = session ∧ m.party = party ∧ m.scope = scope

/-- The messages for a member of a session, in whatever round, with hashes that have no dashes. -/
def Undashed (session party : String) (m : Mark) : Prop :=
  m.session = session ∧ m.party = party ∧ '-' ∉ m.hash.toList

theorem apart_inRound (session party : String) (scope : Option String) :
    Apart (InRound session party scope) := by
  rintro ⟨_, _, _, hash⟩ ⟨_, _, _, hash'⟩ ⟨rfl, rfl, rfl⟩ ⟨rfl, rfl, rfl⟩ same
  exact congrArg _ (key_inj.1 same)

theorem apart_undashed (session party : String) : Apart (Undashed session party) := by
  rintro ⟨_, _, scope, hash⟩ ⟨_, _, scope', hash'⟩ ⟨rfl, rfl, solid⟩ ⟨rfl, rfl, solid'⟩ same
  rw [name_eq_iff] at same
  -- Behind session and member, the hash is the last piece and the scope is the others.
  simp only [Mark.pieces, List.append_assoc, List.append_cancel_left_eq] at same
  have whole : cut hash = [hash.toList] := List.splitOn_eq_singleton solid
  have whole' : cut hash' = [hash'.toList] := List.splitOn_eq_singleton solid'
  obtain ⟨scopes, hashes⟩ := List.append_inj' same (by rw [whole, whole']; rfl)
  cases pieces_scope_inj scopes
  cases cut_inj hashes
  rfl

theorem Holds.contains_iff_mem {kind : Mark → Prop} (holds : a.Holds marks) (apart : Apart kind)
    (all : ∀ m ∈ marks, kind m) (one : kind m) : a.contains m.name = true ↔ m ∈ marks := by
  rw [holds.contains_iff]
  constructor
  · rintro ⟨m', mem, same⟩
    exact apart m' m (all m' mem) one same ▸ mem
  · intro mem
    exact ⟨m, mem, rfl⟩

theorem Holds.size_eq_dedup {kind : Mark → Prop} (holds : a.Holds marks) (apart : Apart kind)
    (all : ∀ m ∈ marks, kind m) : a.size = marks.dedup.length := by
  have alone : (marks.dedup.map Mark.name).Nodup :=
    (List.nodup_dedup marks).map_on fun m mem m' mem' =>
      apart m m' (all m (List.mem_dedup.1 mem)) (all m' (List.mem_dedup.1 mem'))
  have perm : a.names.Perm (marks.dedup.map Mark.name) := by
    refine (List.perm_ext_iff_of_nodup holds.nodup alone).2 fun name => ?_
    simp only [holds.mem_iff, List.mem_map, List.mem_dedup]
  rw [← List.length_map]
  exact perm.length_eq

/-! ### What is answered -/

/-- What is answered about messages when those of some list are to be remembered. -/
structure Answers (a : Applied) (marks : List Mark) : Prop where
  /-- A message is said to be there exactly if one of the same pieces is. -/
  contains : ∀ m, (a.step (.contains m)).1 = true ↔ ∃ m' ∈ marks, m'.pieces = m.pieces
  insert : ∀ m, (a.step (.insert m)).1 = true ↔ ∀ m' ∈ marks, m'.pieces ≠ m.pieces
  size : a.size = (marks.map Mark.pieces).dedup.length
  asking : ∀ m, (a.step (.contains m)).2 = a

/-- What is answered as far as messages of some kind go, if they are not mixed up. -/
structure AnswersFor (kind : Mark → Prop) (a : Applied) (marks : List Mark) : Prop where
  contains : ∀ m, kind m → ((a.step (.contains m)).1 = true ↔ m ∈ marks)
  insert : ∀ m, kind m → ((a.step (.insert m)).1 = true ↔ m ∉ marks)
  size : a.size = marks.dedup.length

theorem remember_fst_iff {name : String} :
    (a.remember name).1 = true ↔ ¬a.contains name = true := by
  unfold remember
  cases a.contains name <;> simp

theorem Holds.answers (holds : a.Holds marks) : a.Answers marks where
  contains m := by
    simp only [← name_eq_iff]
    exact holds.contains_iff
  insert m := by
    show (a.remember m.name).1 = true ↔ _
    simp [remember_fst_iff, holds.contains_iff, name_eq_iff]
  size := by
    have pieces : marks.map Mark.pieces = (marks.map Mark.name).map cut := by
      rw [List.map_map]
      exact List.map_congr_left fun m _ => (cut_name m).symm
    rw [pieces, List.dedup_map_of_injective fun _ _ => cut_inj, List.length_map]
    exact holds.size_eq
  asking _ := rfl

theorem Holds.answersFor {kind : Mark → Prop} (holds : a.Holds marks) (apart : Apart kind)
    (all : ∀ m ∈ marks, kind m) : a.AnswersFor kind marks where
  contains _ one := holds.contains_iff_mem apart all one
  insert _ one := remember_fst_iff.trans (not_congr (holds.contains_iff_mem apart all one))
  size := holds.size_eq_dedup apart all

/-- Whatever was remembered and asked, messages are told apart by their pieces; so in a round, or for a
member of a session and hashes without dashes, every message is told from every other. -/
theorem messages_told_by_pieces (steps : List Step) :
    let a := empty.after steps
    a.Answers (inserted steps) ∧
      (∀ session party scope, (∀ m ∈ inserted steps, InRound session party scope m) →
        a.AnswersFor (InRound session party scope) (inserted steps)) ∧
      (∀ session party, (∀ m ∈ inserted steps, Undashed session party m) →
        a.AnswersFor (Undashed session party) (inserted steps)) := by
  intro a
  have holds : a.Holds (inserted steps) := holds_empty.after steps
  exact ⟨holds.answers, fun _ _ _ => holds.answersFor (apart_inRound _ _ _),
    fun _ _ => holds.answersFor (apart_undashed _ _)⟩

/-- In two rounds of a session, hashes without dashes are told apart although the scope has one. -/
theorem messages_told_by_pieces_scoped :
    let mark : Mark := ⟨"s-1", "server-1", some "m-1", "ab12"⟩
    let other : Mark := ⟨"s-1", "server-1", none, "ab12"⟩
    (∀ m ∈ inserted [.insert mark], Undashed "s-1" "server-1" m) ∧
      ((empty.after [.insert mark]).step (.contains mark)).1 = true ∧
      ((empty.after [.insert mark]).step (.contains other)).1 ≠ true := by
  intro mark other
  have kind : Undashed "s-1" "server-1" mark := ⟨rfl, rfl, by decide⟩
  have kind' : Undashed "s-1" "server-1" other := ⟨rfl, rfl, by decide⟩
  have all : ∀ m ∈ inserted [.insert mark], Undashed "s-1" "server-1" m :=
    List.forall_mem_singleton.2 kind
  have answers := (messages_told_by_pieces [.insert mark]).2.2 "s-1" "server-1" all
  refine ⟨all, (answers.contains mark kind).2 List.mem_cons_self, ?_⟩
  rw [ne_eq, answers.contains other kind']
  decide

/-- A message without a scope is taken for one of another round, whose scope its hash begins with. -/
theorem messages_mixed_up :
    let mark : Mark := ⟨"s-1", "server-1", some "eddsa", "ab12"⟩
    let other : Mark := ⟨"s-1", "server-1", none, "eddsa-ab12"⟩
    let a := empty.after [.insert mark]
    other ∉ inserted [.insert mark] ∧
      (a.step (.contains other)).1 = true ∧
      (a.step (.insert other)).1 = false ∧ (a.step (.insert other)).2.size = 1 := by
  refine ⟨by decide, ?_⟩
  decide +kernel

end QuorumVault.Applied
