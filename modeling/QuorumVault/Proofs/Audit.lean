/-
A trail shows the end of what was logged.

However much was logged, a trail holds the latest records and no others, as many of them as it has room
for.  One more record drives out the oldest one only when the trail is full, and it is never more than
full, so this is kept by every step.  What is asked of a trail is then a question about the end of all
that was logged, and asking changes nothing.
-/
import Mathlib.Algebra.BigOperators.Group.Finset.Piecewise
import Mathlib.Data.Fintype.Basic
import Mathlib.Data.List.DropRight
import QuorumVault.Audit

namespace QuorumVault.Audit

instance : Fintype Kind where
  elems := {.keygen, .keysign, .timeout, .verification, .failure}
  complete kind := by cases kind <;> decide

/-- What is done with a trail. -/
inductive Step where
  | log (r : Record)
  | recent (count : Nat)
  | count (kind : Kind)

/-- What comes of it. -/
inductive Reply where
  | taken
  | records (found : List Record)
  | number (n : Nat)

/-- The record that is added, if one is. -/
def Step.record? : Step → Option Record
  | .log r => some r
  | .recent _ | .count _ => none

/-- All records that were added, the oldest in front. -/
def logged (steps : List Step) : List Record :=
  steps.filterMap Step.record?

namespace Trail

variable {t : Trail} {all : List Record}

/-- Takes a step: what comes of it, and the trail afterwards. -/
def step (t : Trail) : Step → Reply × Trail
  | .log r => (.taken, t.log r)
  | .recent count => (.records (t.recent count), t)
  | .count kind => (.number (t.count kind), t)

/-- The trail after some steps. -/
def after (t : Trail) (steps : List Step) : Trail :=
  steps.foldl (fun t s => (t.step s).2) t

/-! ### The end of the log -/

/-- The trail shows the end of all that was logged, as much of it as there is room for. -/
def Shows (t : Trail) (all : List Record) : Prop :=
  t.records = all.rtake t.capacity

theorem shows_make (capacity : Nat) : (make capacity).Shows [] :=
  (List.rtake_nil _).symm

/-- A record more is shown behind the others. -/
theorem Shows.log (shows : t.Shows all) (r : Record) : (t.log r).Shows (all ++ [r]) := by
  unfold Shows at shows ⊢
  show push t.capacity t.records r = (all ++ [r]).rtake t.capacity
  rw [push_eq_drop r t.capacity_pos t.length_le, shows]
  unfold List.rtake
  rw [← List.drop_append_of_le_length (Nat.sub_le ..), List.drop_drop, List.length_append,
    List.length_drop, List.length_singleton]
  congr 1
  omega

theorem Shows.step (shows : t.Shows all) (s : Step) :
    (t.step s).2.Shows (all ++ s.record?.toList) := by
  cases s with
  | log r => exact shows.log r
  | recent | count =>
      rw [Step.record?, Option.toList_none, List.append_nil]
      exact shows

theorem Shows.after (shows : t.Shows all) (steps : List Step) :
    (t.after steps).Shows (all ++ logged steps) := by
  induction steps generalizing t all with
  | nil =>
      rw [logged, List.filterMap_nil, List.append_nil]
      exact shows
  | cons s rest ih =>
      have front : logged (s :: rest) = s.record?.toList ++ logged rest := by
        unfold logged
        cases h : s.record? <;> simp [h]
      rw [front, ← List.append_assoc]
      exact ih (shows.step s)

theorem capacity_after (t : Trail) (steps : List Step) : (t.after steps).capacity = t.capacity := by
  induction steps generalizing t with
  | nil => rfl
  | cons s rest ih => exact (ih _).trans (by cases s <;> rfl)

/-- Only what is logged makes a difference. -/
theorem after_eq_foldl (t : Trail) (steps : List Step) :
    t.after steps = (logged steps).foldl Trail.log t := by
  induction steps generalizing t with
  | nil => rfl
  | cons s rest ih => cases s <;> exact ih _

/-! ### What is told of it -/

theorem Shows.length (shows : t.Shows all) : t.records.length = min t.capacity all.length := by
  rw [shows, List.rtake, List.length_drop]
  omega

theorem rtake_min (all : List Record) (n : Nat) : all.rtake (min n all.length) = all.rtake n := by
  unfold List.rtake
  congr 1
  omega

theorem Shows.recent (shows : t.Shows all) (count : Nat) :
    t.recent count = (all.rtake (min count (min t.capacity all.length))).reverse := by
  rw [← Nat.min_assoc, rtake_min]
  unfold Trail.recent
  rw [shows, List.rtake_eq_reverse_take_reverse, List.rtake_eq_reverse_take_reverse,
    List.reverse_reverse, List.reverse_reverse, List.take_take]

theorem Shows.count (shows : t.Shows all) (kind : Kind) :
    t.count kind = (all.rtake (min t.capacity all.length)).countP fun r => r.kind = kind := by
  rw [rtake_min]
  unfold Trail.count
  rw [shows]

/-- Every record is about one thing. -/
theorem sum_count (t : Trail) : ∑ kind, t.count kind = t.records.length := by
  unfold Trail.count
  induction t.records with
  | nil => simp
  | cons r rest ih =>
      simp only [List.countP_cons, Finset.sum_add_distrib, ih, List.length_cons]
      simp

/-- What is left in the trail after more steps is not less. -/
theorem length_le_after (t : Trail) (steps : List Step) :
    t.records.length ≤ (t.after steps).records.length := by
  induction steps generalizing t with
  | nil => exact Nat.le_refl _
  | cons s rest ih =>
      refine Nat.le_trans ?_ (ih _)
      cases s with
      | recent | count => exact Nat.le_refl _
      | log r =>
          have grown : (t.log r).records.length = min (t.records.length + 1) t.capacity :=
            length_push r t.capacity_pos t.length_le
          have fits := t.length_le
          show t.records.length ≤ (t.log r).records.length
          omega

end Trail

/-! ### The latest records -/

/-- What a trail with so much room tells of all that was logged. -/
structure Trail.Tells (t : Trail) (room : Nat) (all : List Record) : Prop where
  /-- Whoever looks is shown the latest records, the newest in front, and changes nothing. -/
  recent : ∀ count,
    t.step (.recent count) = (.records (all.rtake (min count (min room all.length))).reverse, t)
  /-- Whoever asks is told how many of the latest records are about something, and changes nothing. -/
  count : ∀ kind,
    t.step (.count kind) = (.number ((all.rtake (min room all.length)).countP (·.kind = kind)), t)
  /-- There are as many records as there is room for, or all of them. -/
  length : t.records.length = min room all.length
  total : ∑ kind, t.count kind = t.records.length

/-- A trail for any number of records tells of the latest of those that were logged, after any steps.
There is room for one record at least, the records never get fewer, and it makes no difference what was
asked in between. -/
theorem latest_told (capacity : Nat) (steps : List Step) :
    let t := (Trail.make capacity).after steps
    t.Tells (max capacity 1) (logged steps) ∧
      (∀ more, t.records.length ≤ (t.after more).records.length) ∧
      t = (Trail.make capacity).after ((logged steps).map Step.log) := by
  intro t
  have shows : t.Shows (logged steps) := (Trail.shows_make capacity).after steps
  have room : t.capacity = max capacity 1 := Trail.capacity_after _ steps
  refine ⟨⟨fun count => ?_, fun kind => ?_, ?_, t.sum_count⟩, t.length_le_after, ?_⟩
  · rw [← room, ← shows.recent]
    rfl
  · rw [← room, ← shows.count]
    rfl
  · rw [← room]
    exact shows.length
  · have alone : logged ((logged steps).map Step.log) = logged steps := by
      simp [logged, List.filterMap_map, Function.comp_def, Step.record?]
    rw [Trail.after_eq_foldl _ (List.map ..), alone]
    exact Trail.after_eq_foldl _ steps

/-- Three records in a trail with room for two, looked at twice. -/
example :
    let r : String → Record := .make .keygen "s" "p"
    let t := (Trail.make 2).after [.log (r "a"), .recent 1, .log (r "b"), .log (r "c")]
    t.step (.recent 5) = (.records [r "c", r "b"], t) ∧ t.step (.count .keygen) = (.number 2, t) :=
  ⟨rfl, rfl⟩

end QuorumVault.Audit
