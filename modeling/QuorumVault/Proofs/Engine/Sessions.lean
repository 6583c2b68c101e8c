/-
Work in sessions.

`Session.Within` says what work in a session of its own logs, given what the work may
log: the opening stands in front and the freeing behind, unless the opening fails or the
work never ends.
-/
import QuorumVault.Proofs.Run.Log

namespace QuorumVault.Session

variable {ε ρ σ α : Type}

/-- The session is opened. -/
def Opening.opened (family : Family) (handle : Engine.Handle) : Opening → Event
  | .keygen setup party => .engine family (.openKeygen setup party) (.ok handle)
  | .sign setup party share => .engine family (.openSign setup party share) (.ok handle)

/-- The session cannot be opened. -/
def Opening.refused (family : Family) (e : Error) : Opening → Event
  | .keygen setup party => .engine family (.openKeygen setup party) (.error e)
  | .sign setup party share => .engine family (.openSign setup party share) (.error e)

/-- How work in a session of its own comes out and what it logs; `L` is what the work may do under a
handle. -/
inductive Within (family : Family) (opening : Opening)
    (L : Engine.Handle → Ending α → List Event → Prop) : Ending α → List Event → Prop
  | refused {e} : Within family opening L (.failed e) [opening.refused family e]
  | freed {handle e log answer} (h : L handle e log) (ended : e.isEndless = false) :
      Within family opening L e
        (opening.opened family handle :: log ++ [.engine family (.free handle) answer])
  | endless {handle log} (h : L handle .endless log) :
      Within family opening L .endless (opening.opened family handle :: log)

/-- Opening a session succeeds or fails. -/
theorem start_cases (site : Site ε ρ σ) (family : Family) (opening : Opening)
    (limit : Option Time) (w : World ε ρ σ) :
    ∃ w', (∃ handle, start site family opening limit w = (.done ⟨family, handle, false⟩, w') ∧
        w.Since w' [opening.opened family handle]) ∨
      ∃ e, start site family opening limit w = (.failed e, w') ∧
        w.Since w' [opening.refused family e] := by
  cases opening with
  | keygen setup party =>
      rcases call : w.callEngine site family (.openKeygen setup party) with ⟨answer, w'⟩
      have opened : Run.callEngine site family (.openKeygen setup party) limit w
          = Run.ofExcept answer limit w' := by
        unfold Run.callEngine
        rw [call]
      have since := World.since_callEngine call
      cases answer with
      | ok handle => exact ⟨w', .inl ⟨handle, Run.bind_of_done opened, since⟩⟩
      | error e => exact ⟨w', .inr ⟨e, Run.bind_of_stops opened (.failed e), since⟩⟩
  | sign setup party share =>
      rcases call : w.callEngine site family (.openSign setup party share) with ⟨answer, w'⟩
      have opened : Run.callEngine site family (.openSign setup party share) limit w
          = Run.ofExcept answer limit w' := by
        unfold Run.callEngine
        rw [call]
      have since := World.since_callEngine call
      cases answer with
      | ok handle => exact ⟨w', .inl ⟨handle, Run.bind_of_done opened, since⟩⟩
      | error e => exact ⟨w', .inr ⟨e, Run.bind_of_stops opened (.failed e), since⟩⟩

/-- A session is freed whatever becomes of the work in it, unless that never ends. -/
theorem use_cases (site : Site ε ρ σ) (s : Session) (work : Run ε ρ σ α) (limit : Option Time)
    (w : World ε ρ σ) :
    (∃ answer, (s.use site work limit w).1 = (work limit w).1 ∧ (work limit w).1.isEndless = false ∧
        (work limit w).2.Since (s.use site work limit w).2
          [.engine s.family (.free s.handle) answer]) ∨
      s.use site work limit w = (.endless, (work limit w).2) ∧ (work limit w).1 = .endless := by
  unfold use
  rcases work limit w with ⟨e, w₁⟩
  have freed : w₁.Since (s.free site w₁) [.engine s.family (.free s.handle) _] :=
    World.since_callEngine rfl
  cases e with
  | endless => exact .inr ⟨rfl, rfl⟩
  | done _ | failed _ | cut | overflow => exact .inl ⟨_, rfl, rfl, freed⟩

/-- Work in a session of its own comes out in one of the ways there are. -/
theorem withSession_logs (site : Site ε ρ σ) {family : Family} {opening : Opening}
    {work : Session → Run ε ρ σ α} {L : Engine.Handle → Ending α → List Event → Prop}
    (h : ∀ handle, (work ⟨family, handle, false⟩).Logs (L handle)) :
    (withSession site family opening work).Logs (Within family opening L) := by
  intro limit w
  unfold withSession
  obtain ⟨w₁, ⟨handle, started, opened⟩ | ⟨e, started, refused⟩⟩ :=
    start_cases site family opening limit w
  · rw [Run.bind_of_done started]
    obtain ⟨log, since, hL⟩ := h handle limit w₁
    rcases use_cases site ⟨family, handle, false⟩ (work ⟨family, handle, false⟩) limit w₁ with
      ⟨answer, same, ended, freed⟩ | ⟨same, endless⟩
    · rw [same]
      exact ⟨_, (opened.trans since).trans freed, .freed hL ended⟩
    · rw [endless] at hL
      rw [same]
      exact ⟨_, opened.trans since, .endless hL⟩
  · rw [Run.bind_of_stops started (.failed e)]
    exact ⟨_, refused, .refused⟩

end QuorumVault.Session
