/-
Runs that take their time.

A run that nothing limits comes out sooner or later, or never.  `Run.Timed` says that
this is all a limit looks at: a run that comes out by the limit, be it at the last
moment, is the same under it, and one that does not is cut off just then.  What waits
and answers is such a run, and such runs may follow one another.
-/
import QuorumVault.Proofs.Run.Log

namespace QuorumVault.Run

variable {ε ρ σ α β : Type}

/-- What comes out does so by a moment, if one is given. -/
def ComesBy (due : Option Time) (out : Ending α × World ε ρ σ) : Prop :=
  out.1 ≠ .endless ∧ ∀ last, due = some last → out.2.now ≤ last

/-- A limit lets the run come out as it does by itself, or is too short for that and cuts it off. -/
structure Timed (m : Run ε ρ σ α) : Prop where
  onward : ∀ w, w.now ≤ (m none w).2.now
  uncut : ∀ w, (m none w).1 ≠ .cut
  same : ∀ last w, w.now ≤ last → ComesBy (some last) (m none w) → m (some last) w = m none w
  late : ∀ last w, w.now ≤ last → ¬ComesBy (some last) (m none w) →
    ∃ w', m (some last) w = (.cut, w') ∧ w'.now = last

theorem comesBy_some {last : Time} {out : Ending α × World ε ρ σ} :
    ComesBy (some last) out ↔ out.1 ≠ .endless ∧ out.2.now ≤ last :=
  ⟨fun comes => ⟨comes.1, comes.2 last rfl⟩, fun comes => ⟨comes.1, by rintro _ ⟨⟩; exact comes.2⟩⟩

theorem comesBy_none {out : Ending α × World ε ρ σ} : ComesBy none out ↔ out.1 ≠ .endless :=
  ⟨And.left, fun ends => ⟨ends, nofun⟩⟩

namespace Timed

section

variable {m : Run ε ρ σ α} {due : Option Time} {w : World ε ρ σ}

theorem eq_of_comesBy (timed : m.Timed) (left : ∀ last, due = some last → w.now ≤ last)
    (comes : ComesBy due (m none w)) : m due w = m none w := by
  cases due with
  | none => rfl
  | some last => exact timed.same last w (left last rfl) comes

/-- What does not come out by a moment is cut off then, or never comes out if there is none. -/
theorem late_cases (timed : m.Timed) (left : ∀ last, due = some last → w.now ≤ last)
    (late : ¬ComesBy due (m none w)) :
    (due = none ∧ ∃ w', m none w = (.endless, w')) ∨
      ∃ w', due = some w'.now ∧ m due w = (.cut, w') := by
  cases due with
  | none =>
      have never : (m none w).1 = .endless :=
        Classical.byContradiction fun ends => late (comesBy_none.2 ends)
      exact .inl ⟨rfl, (m none w).2, Prod.ext never rfl⟩
  | some last =>
      obtain ⟨w', cut, rfl⟩ := timed.late last w (left last rfl) late
      exact .inr ⟨w', rfl, cut⟩

end

theorem ofExcept (x : Except Error α) : (Run.ofExcept x : Run ε ρ σ α).Timed := by
  have at_once (limit : Option Time) (w : World ε ρ σ) :
      (Run.ofExcept x : Run ε ρ σ α) limit w = (Run.ofExcept x : Run ε ρ σ α) none w := by
    cases x <;> rfl
  have now_eq (w : World ε ρ σ) : ((Run.ofExcept x : Run ε ρ σ α) none w).2.now = w.now := by
    cases x <;> rfl
  constructor
  case onward => exact fun w => Nat.le_of_eq (now_eq w).symm
  case uncut => intro w; cases x <;> nofun
  case same => exact fun last w _ _ => at_once (some last) w
  case late =>
    intro last w left late
    refine absurd (comesBy_some.2 ⟨?_, Nat.le_trans (Nat.le_of_eq (now_eq w)) left⟩) late
    cases x <;> nofun

theorem wait (span : Option Duration) : (Run.wait span : Run ε ρ σ Unit).Timed := by
  cases span with
  | none =>
      constructor
      case onward => exact fun w => Nat.le_refl _
      case uncut => intro w cut; cases cut
      case same => exact fun last w _ comes => absurd rfl comes.1
      case late => exact fun last w left _ => ⟨w.advanceTo last, rfl, Nat.max_eq_right left⟩
  | some d =>
      have now_eq (w : World ε ρ σ) : (w.advanceTo (w.now + d)).now = w.now + d :=
        Nat.max_eq_right (Nat.le_add_right _ _)
      constructor
      case onward => exact fun w => Nat.le_max_left _ _
      case uncut => intro w cut; cases cut
      case same =>
        intro last w _ comes
        have soon : (w.advanceTo (w.now + d)).now ≤ last := (comesBy_some.1 comes).2
        rw [now_eq] at soon
        exact if_neg (by simpa [exceeds] using soon)
      case late =>
        intro last w left late
        have short : last < w.now + d := by
          refine Nat.not_le.1 fun soon => late (comesBy_some.2 ⟨?_, (now_eq w).symm ▸ soon⟩)
          exact fun endless => by cases endless
        exact ⟨w.advanceTo last, if_pos (by simpa [exceeds] using short), Nat.max_eq_right left⟩

theorem bind {m : Run ε ρ σ α} {f : α → Run ε ρ σ β} (first : m.Timed) (next : ∀ x, (f x).Timed) :
    (m >>= f).Timed := by
  constructor
  case onward =>
    intro w
    have onward := first.onward w
    rcases bind_cases m f none w with ⟨x, w₁, run, goes⟩ | ⟨e, e', w₁, run, stopped, stops⟩
    · rw [goes]
      rw [run] at onward
      exact Nat.le_trans onward ((next x).onward w₁)
    · rw [stopped]
      rwa [run] at onward
  case uncut =>
    intro w
    have uncut := first.uncut w
    rcases bind_cases m f none w with ⟨x, w₁, run, goes⟩ | ⟨e, e', w₁, run, stopped, stops⟩
    · rw [goes]
      exact (next x).uncut w₁
    · rw [stopped]
      rw [run] at uncut
      rintro rfl
      cases stops
      exact uncut rfl
  case same =>
    intro last w left comes
    rcases bind_cases m f none w with ⟨x, w₁, run, goes⟩ | ⟨e, e', w₁, run, stopped, stops⟩
    · rw [goes] at comes ⊢
      -- the second run ends in time, so the first one has
      have soon : w₁.now ≤ last := Nat.le_trans ((next x).onward w₁) (comesBy_some.1 comes).2
      have same := first.same last w left
      rw [run] at same
      rw [bind_of_done (same (comesBy_some.2 ⟨nofun, soon⟩))]
      exact (next x).same last w₁ soon comes
    · rw [stopped] at comes ⊢
      have same := first.same last w left
      rw [run] at same
      refine bind_of_stops (same (comesBy_some.2 ⟨?_, (comesBy_some.1 comes).2⟩)) stops
      rintro rfl
      cases stops
      exact comes.1 rfl
  case late =>
    intro last w left late
    by_cases comes : ComesBy (some last) (m none w)
    · have same := first.same last w left comes
      rcases bind_cases m f none w with ⟨x, w₁, run, goes⟩ | ⟨e, e', w₁, run, stopped, stops⟩
      · rw [goes] at late
        rw [run] at same comes
        rw [bind_of_done same]
        exact (next x).late last w₁ (comesBy_some.1 comes).2 late
      · rw [stopped] at late
        rw [run] at comes
        have stopsInTime : ComesBy (some last) (e', w₁) := by
          refine comesBy_some.2 ⟨?_, (comesBy_some.1 comes).2⟩
          rintro rfl
          cases stops
          exact comes.1 rfl
        exact absurd stopsInTime late
    · obtain ⟨w', cut, now_eq⟩ := first.late last w left comes
      exact ⟨w', bind_of_stops cut .cut, now_eq⟩

end Timed

end QuorumVault.Run
