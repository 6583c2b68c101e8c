/-
Runs that end in time.

`Run.EndsIn` says that a run ends, with a result or a failure, after a given time at
most, and that no limit makes a difference to it that leaves it that much.  This need
only be so if the log is of some kind, say if the engine has not given too many messages
in it.  The kind has to be one that a log hands down to its parts; then what is done one
after the other needs the times of both.
-/
import QuorumVault.Proofs.Engine.Sessions
import QuorumVault.Proofs.Run.InTime

namespace QuorumVault

/-- The ending of a run with a result or a failure. -/
def Ending.ofResult {α : Type} : Except Error α → Ending α
  | .ok x => .done x
  | .error e => .failed e

/-- A log hands the property down to its parts. -/
def Hereditary (H : List Event → Prop) : Prop :=
  ∀ log log', H (log ++ log') → H log ∧ H log'

theorem Hereditary.and {H H' : List Event → Prop} (h : Hereditary H) (h' : Hereditary H') :
    Hereditary fun log => H log ∧ H' log := by
  intro log log' both
  obtain ⟨front, back⟩ := h log log' both.1
  obtain ⟨front', back'⟩ := h' log log' both.2
  exact ⟨⟨front, front'⟩, back, back'⟩

namespace Run

variable {ε ρ σ α β : Type} {site : Site ε ρ σ} {H : List Event → Prop} {m : Run ε ρ σ α}
  {f : α → Run ε ρ σ β} {d d' : Duration} {Q Q' : Except Error α → Prop} {R : Except Error β → Prop}

/-- If the log is of this kind, the run ends like this after some time at most, whatever limit leaves
it that much. -/
def EndsIn (m : Run ε ρ σ α) (H : List Event → Prop) (d : Duration) (Q : Except Error α → Prop) :
    Prop :=
  ∀ w, ∃ log, w.Since (m none w).2 log ∧ (H log → ∃ result w', Q result ∧ w'.now ≤ w.now + d ∧
    ∀ limit, Leaves limit w.now d → m limit w = (.ofResult result, w'))

namespace EndsIn

theorem mono (h : m.EndsIn H d Q) (le : d ≤ d') (imp : ∀ result, Q result → Q' result) :
    m.EndsIn H d' Q' := by
  intro w
  obtain ⟨log, since, ends⟩ := h w
  refine ⟨log, since, fun kind => ?_⟩
  obtain ⟨result, w', known, soon, same⟩ := ends kind
  exact ⟨result, w', imp result known, Nat.le_trans soon (Nat.add_le_add_left le _),
    fun limit left => same limit (left.mono le)⟩

theorem ofExcept (x : Except Error α) : (Run.ofExcept x : Run ε ρ σ α).EndsIn H 0 (· = x) := by
  intro w
  refine ⟨[], ?_, fun _ => ⟨x, w, rfl, Nat.le_refl _, fun limit _ => ?_⟩⟩
  · cases x <;> exact .refl w
  · cases x <;> rfl

theorem done (x : α) : (pure x : Run ε ρ σ α).EndsIn H 0 (· = .ok x) :=
  ofExcept (.ok x)

/-- A run of some length behind another one. -/
theorem bind (first : m.EndsIn H d Q) (hereditary : Hereditary H)
    (next : ∀ x, (f x).EndsIn H d' fun result => Q (.ok x) → R result)
    (fails : ∀ e, Q (.error e) → R (.error e)) : (m >>= f).EndsIn H (d + d') R := by
  intro w
  obtain ⟨log, since, ends⟩ := first w
  -- which way it goes is seen without a limit, and then the same under every other
  rcases bind_cases m f none w with ⟨x, w₁, run, goes⟩ | ⟨e, e', w₁, run, stopped, stops⟩
  · rw [run] at since
    obtain ⟨log', since', ends'⟩ := next x w₁
    rw [goes]
    refine ⟨log ++ log', since.trans since', fun kind => ?_⟩
    obtain ⟨kind, kind'⟩ := hereditary log log' kind
    obtain ⟨result, w₂, known, soon, same⟩ := ends kind
    have first_eq : (Ending.ofResult result, w₂) = (.done x, w₁) := (same none nofun).symm.trans run
    obtain ⟨rfl, rfl⟩ : result = .ok x ∧ w₂ = w₁ := by cases result <;> cases first_eq; exact ⟨rfl, rfl⟩
    obtain ⟨result', w₃, known', soon', same'⟩ := ends' kind'
    refine ⟨result', w₃, known' known, ?_, fun limit left => ?_⟩
    · calc w₃.now ≤ w₂.now + d' := soon'
        _ ≤ w.now + d + d' := Nat.add_le_add_right soon d'
        _ = w.now + (d + d') := Nat.add_assoc ..
    · rw [bind_of_done (same limit (left.mono (Nat.le_add_right d d')))]
      exact same' limit (left.rest soon)
  · rw [run] at since
    rw [stopped]
    refine ⟨log, since, fun kind => ?_⟩
    obtain ⟨result, w₂, known, soon, same⟩ := ends kind
    have first_eq : (Ending.ofResult result, w₂) = (e, w₁) := (same none nofun).symm.trans run
    cases result with
    | ok x =>
        cases first_eq
        cases stops
    | error failure =>
        refine ⟨.error failure, w₂, fails failure known, ?_, fun limit left => ?_⟩
        · exact Nat.le_trans soon (Nat.add_le_add_left (Nat.le_add_right d d') _)
        · exact bind_of_stops (same limit (left.mono (Nat.le_add_right d d'))) (.failed failure)

theorem after (first : m.EndsIn H 0 Q) (hereditary : Hereditary H)
    (next : ∀ x, (f x).EndsIn H d fun result => Q (.ok x) → R result)
    (fails : ∀ e, Q (.error e) → R (.error e)) : (m >>= f).EndsIn H d R := by
  have both := first.bind hereditary next fails
  rwa [Nat.zero_add] at both

theorem before (first : m.EndsIn H d Q) (hereditary : Hereditary H)
    (next : ∀ x, (f x).EndsIn H 0 fun result => Q (.ok x) → R result)
    (fails : ∀ e, Q (.error e) → R (.error e)) : (m >>= f).EndsIn H d R :=
  first.bind hereditary next fails

/-! ### Calls -/

theorem callEngine (family : Family) (c : Engine.Call) :
    (Run.callEngine site family c).EndsIn H 0 fun answer => H [.engine family c answer] := by
  intro w
  rcases call : w.callEngine site family c with ⟨answer, w'⟩
  have answers (limit : Option Time) :
      Run.callEngine site family c limit w = (.ofResult answer, w') := by
    unfold Run.callEngine
    rw [call]
    cases answer <;> rfl
  rw [answers]
  refine ⟨_, World.since_callEngine call, fun kind => ⟨answer, w', kind, ?_, fun limit _ => answers limit⟩⟩
  exact Nat.le_of_eq (World.now_callEngine call)

theorem queryEngine (family : Family) (q : Engine.Query) :
    (Run.queryEngine site family q).EndsIn H 0 fun answer => H [.query family q answer] := by
  intro w
  rcases ask : w.queryEngine site family q with ⟨answer, w'⟩
  have answers (limit : Option Time) :
      Run.queryEngine site family q limit w = (.ofResult answer, w') := by
    unfold Run.queryEngine
    rw [ask]
    cases answer <;> rfl
  rw [answers]
  refine ⟨_, World.since_queryEngine ask, fun kind => ⟨answer, w', kind, ?_, fun limit _ => answers limit⟩⟩
  cases ask
  exact Nat.le_refl _

theorem askRelay {c : Relay.Call}
    (soon : ∀ s now, ∃ took, (site.relay.ask s now c).1 = some took ∧ took ≤ d) :
    (Run.askRelay site c).EndsIn H d fun answer => H [.asked c, .answered c answer] := by
  intro w
  obtain ⟨took, takes, soon⟩ := soon w.relay w.now
  rcases ask : w.askRelay site c with ⟨took', answer, w₁⟩
  have now_eq : w₁.now = w.now := World.now_askRelay ask
  obtain rfl : took' = some took := by
    cases ask
    exact takes
  let w' := (w₁.advanceTo (w₁.now + took)).record (.answered c answer)
  have answers (limit : Option Time) (left : Leaves limit w.now d) :
      Run.askRelay site c limit w = (.ofResult answer, w') := by
    have waits : Run.wait (some took) limit w₁ = (.done (), w₁.advanceTo (w₁.now + took)) := by
      refine if_neg ?_
      rw [now_eq, left.not_exceeds (Nat.add_le_add_left soon _)]
      exact Bool.false_ne_true
    unfold Run.askRelay
    rw [ask]
    dsimp only
    rw [bind_of_done waits]
    cases answer <;> rfl
  rw [answers none nofun]
  have logged : w.Since w' [.asked c, .answered c answer] :=
    ((World.since_askRelay ask).advanceTo _).record _
  refine ⟨_, logged, fun kind => ⟨answer, w', kind, ?_, answers⟩⟩
  show max w₁.now (w₁.now + took) ≤ _
  rw [now_eq]
  exact Nat.max_le.2 ⟨Nat.le_add_right _ _, Nat.add_le_add_left soon _⟩

/-! ### Sessions -/

theorem start (hereditary : Hereditary H) (family : Family) (opening : Session.Opening) :
    (Session.start site family opening).EndsIn H 0 fun result =>
      ∀ e, result = .error e → H [opening.refused family e] := by
  have opens {c : Engine.Call} (session : c.Answer → Session) :
      (Run.callEngine site family c >>= fun handle => pure (session handle)).EndsIn H 0
        fun result => ∀ e, result = .error e → H [.engine family c (.error e)] := by
    refine (callEngine family c).after hereditary (fun handle => ?_) ?_
    · refine (done (session handle)).mono (Nat.le_refl 0) fun result known _ e failed => ?_
      cases known.symm.trans failed
    · intro e refused e' same
      cases same
      exact refused
  cases opening with
  | keygen => exact opens _
  | sign => exact opens _

theorem use (hereditary : Hereditary H) (s : Session) (h : m.EndsIn H d Q) :
    (s.use site m).EndsIn H d Q := by
  intro w
  obtain ⟨log, since, ends⟩ := h w
  obtain ⟨log', since', kept⟩ : ∃ log', w.Since (s.use site m none w).2 log' ∧ (H log' → H log) := by
    rcases Session.use_cases site s m none w with ⟨answer, -, -, freed⟩ | ⟨same, -⟩
    · exact ⟨_, since.trans freed, fun kind => (hereditary _ _ kind).1⟩
    · rw [same]
      exact ⟨log, since, id⟩
  refine ⟨log', since', fun kind => ?_⟩
  obtain ⟨result, w', known, soon, same⟩ := ends (kept kind)
  refine ⟨result, s.free site w', known, soon, fun limit left => ?_⟩
  unfold Session.use
  rw [same limit left]
  cases result <;> rfl

theorem withSession (hereditary : Hereditary H) {family : Family} {opening : Session.Opening}
    {work : Session → Run ε ρ σ α} (h : ∀ s, (work s).EndsIn H d Q)
    (fails : ∀ e, H [opening.refused family e] → Q (.error e)) :
    (Session.withSession site family opening work).EndsIn H d Q := by
  refine (start hereditary family opening).after hereditary (fun s => ?_) fun e refused => ?_
  · exact ((h s).use hereditary s).mono (Nat.le_refl d) fun _ known _ => known
  · exact fails e (refused e rfl)

end EndsIn

end Run

end QuorumVault
