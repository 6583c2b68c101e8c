/-
Ceremonies handle the sessions of the engines as they are to be.

A session is opened and freed in one place only, and the round in between uses it in
order, so nothing that happens around it can leave it open: no failure, no attempt that
is cut off, no other attempt behind it.
-/
import QuorumVault.Proofs.Ceremony.Keeping
import QuorumVault.Proofs.Round.Discipline

namespace QuorumVault

variable {ε ρ σ : Type}

/-- The events other than calls to engines do nothing to sessions. -/
theorem disciplined_of_calm (e : Event) (calm : e.Calm) : Disciplined false (deeds [e]) := by
  cases e with
  | engine => cases calm
  | query | asked | answered | storing | stored | noted | queued | attempt => exact .nil

/-- Whatever engines, relay and storage do and however it ends, creating a vault or signing messages
opens at most one session at a time, uses sessions in order and only while they are open, and frees
each once; when it ends, none is open. -/
theorem ceremonies_disciplined (site : Site ε ρ σ) (config : EngineConfig) (keygen : KeygenRequest)
    (keysign : KeysignRequest) :
    ((Keygen.createVault site config keygen).Keeps fun unended log =>
      Disciplined unended (deeds log)) ∧
    (Keysign.signMessages site config keysign).Keeps fun unended log =>
      Disciplined unended (deeds log) := by
  have sessions (family : Family) (opening : Session.Opening) (r : Round) :
      (Session.withSession site family opening (r.run site)).Keeps fun unended log =>
        Disciplined unended (deeds log) :=
    Session.withSession_keeps fun handle => Round.run_work site r family handle
  constructor
  · exact Keygen.createVault_keeps steady_disciplined disciplined_of_calm sessions config keygen
  · exact Keysign.signMessages_keeps steady_disciplined disciplined_of_calm sessions config keysign

end QuorumVault
