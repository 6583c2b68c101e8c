/-
A trace tells the truth.

Whatever a trace says that engine and relay answered, they have answered in some state.
In a round an answer of the relay may be waited for; it is then known to the pump that
waits, and is what the relay said as well.  So what engine and relay never do is never
found in a trace.
-/
import QuorumVault.Proofs.Ceremony.Keeping
import QuorumVault.Proofs.Engine.Sessions
import QuorumVault.Proofs.Round.Steps

namespace QuorumVault

variable {ε ρ σ : Type} {site : Site ε ρ σ}

/-- It is what engine or relay answer in some state. -/
def Event.Honest (site : Site ε ρ σ) : Event → Prop
  | .engine family c answer => ∃ s, ((site.engine family).call s c).1 = answer
  | .answered c answer => ∃ s now, (site.relay.ask s now c).2.1 = answer
  | .query .. | .asked _ | .storing _ | .stored .. | .noted _ | .queued .. | .attempt .. => True

/-- All of it is. -/
def Honest (site : Site ε ρ σ) (log : List Event) : Prop :=
  ∀ e ∈ log, e.Honest site

theorem honest_nil : Honest site [] :=
  List.forall_mem_nil _

theorem honest_append {log log' : List Event} :
    Honest site (log ++ log') ↔ Honest site log ∧ Honest site log' :=
  List.forall_mem_append

theorem honest_singleton {e : Event} : Honest site [e] ↔ e.Honest site :=
  List.forall_mem_singleton

theorem World.honest_callEngine {w w' : World ε ρ σ} {family : Family} {c : Engine.Call}
    {answer : Except Error c.Answer} (h : w.callEngine site family c = (answer, w')) :
    (Event.engine family c answer).Honest site := by
  cases h
  exact ⟨w.engines family, rfl⟩

theorem World.honest_askRelay {w w' : World ε ρ σ} {c : Relay.Call} {took : Option Duration}
    {answer : Except Error c.Answer} (h : w.askRelay site c = (took, answer, w')) :
    (Event.answered c answer).Honest site := by
  cases h
  exact ⟨w.relay, w.now, rfl⟩

namespace Round

variable {r : Round} {deadline : Time} {log log' : List Event}

/-! ### Answers on their way -/

/-- The answer that a sender waits for. -/
def Sender.owed (r : Round) : Sender → List Event
  | .uploading _ _ _ envelope answer _ => [.answered (.upload envelope r.scope) answer]
  | .asking | .pausing _ | .lingering _ | .left _ => []

/-- The answer that is on its way in its turn. -/
def Sending.owed (r : Round) (p : Pumps) : Sending → List Event
  | .idle => p.sender.owed r
  | .uploading _ _ _ envelope answer => [.answered (.upload envelope r.scope) answer]
  | .delivering .. => []

/-- The answer that a receiver waits for. -/
def Receiver.owed (r : Round) : Receiver → List Event
  | .downloading answer _ => [.answered (downloadCall r) answer]
  | .deleting _ _ hash answer _ => [.answered (deleteCall r hash) answer]
  | .starting | .asking | .pausing _ | .left _ => []

/-- The answer that is on its way in its turn. -/
def Receiving.owed (r : Round) (p : Pumps) : Receiving → List Event
  | .idle => p.receiver.owed r
  | .fetching answer => [.answered (downloadCall r) answer]
  | .clearing _ _ hash answer => [.answered (deleteCall r hash) answer]
  | .applying _ | .finishing => []

theorem SenderMove.honest {s s' : SenderAt ε ρ σ} (move : SenderMove site r s log s')
    (h : Honest site (s.doing.owed r s.pumps)) :
    Honest site log ∧ Honest site (s'.doing.owed r s'.pumps) := by
  cases move with
  | outputFails asks call | lingers asks call | quits asks call | unsealable asks call
  | seals asks call => exact ⟨honest_singleton.2 (World.honest_callEngine call), honest_nil⟩
  | pauses asks call =>
      unfold Pumps.senderPauses
      refine ⟨honest_singleton.2 (World.honest_callEngine call), ?_⟩
      split <;> exact honest_nil
  | receiverFails call | skips call =>
      exact ⟨honest_singleton.2 (World.honest_callEngine call), honest_nil⟩
  | delivered | leaves => exact ⟨honest_nil, honest_nil⟩
  | uploads call somebody ask =>
      refine ⟨?_, honest_singleton.2 (World.honest_askRelay ask)⟩
      exact List.forall_mem_cons.2 ⟨World.honest_callEngine call, honest_singleton.2 trivial⟩
  | uploadWaits => exact ⟨honest_nil, h⟩
  | uploadResumes doing =>
      refine ⟨honest_nil, ?_⟩
      dsimp only [Sending.owed] at h
      rw [doing] at h
      exact h
  | uploaded => exact ⟨h, honest_nil⟩

theorem ReceiverMove.honest {s s' : ReceiverAt ε ρ σ} (move : ReceiverMove site r deadline s log s')
    (h : Honest site (s.doing.owed r s.pumps)) :
    Honest site log ∧ Honest site (s'.doing.owed r s'.pumps) := by
  cases move with
  | begins => exact ⟨honest_nil, h⟩
  | aborts | unreadable | finishedTwice | timesOut | passesOver => exact ⟨honest_nil, honest_nil⟩
  | asks asks signal ask =>
      exact ⟨honest_singleton.2 trivial, honest_singleton.2 (World.honest_askRelay ask)⟩
  | fetchWaits | clearWaits => exact ⟨honest_nil, h⟩
  | fetchResumes doing | clearResumes doing =>
      refine ⟨honest_nil, ?_⟩
      dsimp only [Receiving.owed] at h
      rw [doing] at h
      exact h
  | fetchFails | fetched | goesOn | hasAll => exact ⟨h, honest_nil⟩
  | pauses =>
      unfold Pumps.receiverPauses
      refine ⟨honest_nil, ?_⟩
      split <;> exact honest_nil
  | refused new opened call | finishes first call =>
      exact ⟨honest_singleton.2 (World.honest_callEngine call), honest_nil⟩
  | applies new opened call ask =>
      refine ⟨?_, honest_singleton.2 (World.honest_askRelay ask)⟩
      exact List.forall_mem_cons.2 ⟨World.honest_callEngine call, honest_singleton.2 trivial⟩

/-! ### Rounds and attempts -/

theorem run_honest (r : Round) (session : Session) :
    (r.run site session).Keeps fun _ log => Honest site log := by
  intro limit w
  -- what a pump waits for is already known, so it has to be honest before it is in the trace
  obtain ⟨log, p, since, honest, -⟩ := run_invariant site r session limit w
    (I := fun s log => Honest site log ∧ Honest site (s.pumps.sender.owed r) ∧
      Honest site (s.pumps.receiver.owed r))
    (S := fun s log => Honest site log ∧ Honest site (s.doing.owed r s.pumps) ∧
      Honest site (s.pumps.receiver.owed r))
    (R := fun s log => Honest site log ∧ Honest site (s.pumps.sender.owed r) ∧
      Honest site (s.doing.owed r s.pumps))
    ⟨honest_nil, honest_nil, honest_nil⟩
    (fun _ h => h)
    (fun now later pump h => by simpa using h)
    id id
    (fun h move => by
      obtain ⟨honest, owed⟩ := move.honest h.2.1
      obtain ⟨-, receiver, -⟩ := move.frame
      exact ⟨honest_append.2 ⟨h.1, honest⟩, owed, receiver ▸ h.2.2⟩)
    id id
    (fun h move => by
      obtain ⟨honest, owed⟩ := move.honest h.2.2
      obtain ⟨sender, -⟩ := move.frame
      exact ⟨honest_append.2 ⟨h.1, honest⟩, sender ▸ h.2.1, owed⟩)
  exact ⟨log, since, honest.1⟩

end Round

theorem steady_honest (site : Site ε ρ σ) : Run.Steady fun _ log => Honest site log :=
  Run.steady_forall _

namespace Run

theorem honest_callEngine (site : Site ε ρ σ) (family : Family) (c : Engine.Call) :
    (Run.callEngine site family c).Keeps fun _ log => Honest site log := by
  intro limit w
  rcases call : w.callEngine site family c with ⟨answer, w'⟩
  have since : w.Since (Run.callEngine site family c limit w).2 [.engine family c answer] := by
    unfold Run.callEngine
    rw [call]
    cases answer <;> exact World.since_callEngine call
  exact ⟨_, since, honest_singleton.2 (World.honest_callEngine call)⟩

theorem honest_askRelay (site : Site ε ρ σ) (c : Relay.Call) :
    (Run.askRelay site c).Keeps fun _ log => Honest site log := by
  intro limit w
  unfold Run.askRelay
  rcases ask : w.askRelay site c with ⟨took, answer, w₁⟩
  have honest := World.honest_askRelay ask
  obtain ⟨log, since, rest⟩ := Keeps.answer (steady_honest site) took (honest_singleton.2 honest) answer
    limit w₁
  exact ⟨_, (World.since_askRelay ask).trans since, honest_append.2 ⟨honest_singleton.2 trivial, rest⟩⟩

theorem honest_use {α : Type} (s : Session) {work : Run ε ρ σ α}
    (h : work.Keeps fun _ log => Honest site log) :
    (s.use site work).Keeps fun _ log => Honest site log := by
  intro limit w
  obtain ⟨log, since, honest⟩ := h limit w
  unfold Session.use
  rcases done : work limit w with ⟨e, w₁⟩
  rw [done] at since
  rcases call : w₁.callEngine site s.family (.free s.handle) with ⟨answer, w₂⟩
  have freed : w.Since (s.free site w₁) (log ++ [.engine s.family (.free s.handle) answer]) := by
    unfold Session.free
    rw [call]
    exact since.trans (World.since_callEngine call)
  have both := honest_append.2 ⟨honest, honest_singleton.2 (World.honest_callEngine call)⟩
  cases e with
  | endless => exact ⟨log, since, honest⟩
  | done | failed | cut | overflow => exact ⟨_, freed, both⟩

theorem honest_session (site : Site ε ρ σ) (family : Family) (opening : Session.Opening) (r : Round) :
    (Session.withSession site family opening (r.run site)).Keeps fun _ log => Honest site log := by
  have steady := steady_honest site
  refine .bind steady ?_ fun s => honest_use s (r.run_honest s)
  cases opening with
  | keygen => exact .bind steady (honest_callEngine site _ _) fun _ => .done steady _
  | sign => exact .bind steady (honest_callEngine site _ _) fun _ => .done steady _

end Run

open Run

theorem Round.fetchSetup_honest (r : Round) :
    (r.fetchSetup site).Keeps fun _ log => Honest site log := by
  have steady := steady_honest site
  exact .bind steady (honest_askRelay site _) fun _ => .ofExcept steady _

theorem Keygen.attempt_honest (site : Site ε ρ σ) (config : EngineConfig) (request : KeygenRequest)
    (committee : List String) (family : Family) :
    (attempt site config request committee family).Keeps fun _ log => Honest site log := by
  have steady := steady_honest site
  have queried (q : Engine.Query) :
      (Run.queryEngine site family q).Keeps fun _ log => Honest site log :=
    .queryEngine steady fun _ => honest_singleton.2 trivial
  have chained (raw : Bytes) : (chainCode site raw family).Keeps fun _ log => Honest site log := by
    cases family with
    | ecdsa => exact .bind steady (queried _) fun _ => .done steady _
    | eddsa => exact .done steady _
  refine .bind steady (Round.fetchSetup_honest _) fun setup => ?_
  refine .bind steady (honest_session site _ _ _) fun raw => ?_
  refine .bind steady (queried _) fun publicKey => ?_
  exact .bind steady (chained raw) fun _ => .done steady _

theorem Keysign.attempt_honest (site : Site ε ρ σ) (config : EngineConfig)
    (request : KeysignRequest) (vault : Vault) (committee : List String) (m : KeysignMessage) :
    (attempt site config request vault committee m).Keeps fun _ log => Honest site log := by
  have steady := steady_honest site
  refine .bind steady (.ofExcept steady _) fun scope => ?_
  refine .bind steady (.ofExcept steady _) fun share => ?_
  refine .bind steady (Round.fetchSetup_honest _) fun setup => ?_
  exact .bind steady (honest_session site _ _ _) fun raw => .ofExcept steady _

theorem RetryPolicy.run_honest {α : Type} {policy : RetryPolicy} (pos : 0 < policy.maxAttempts)
    (label : String) {op : Nat → Run ε ρ σ α}
    (h : ∀ n, (op n).Keeps fun _ log => Honest site log) :
    (policy.run label op).Keeps fun _ log => Honest site log :=
  run_keeps pos label (steady_honest site) (fun _ => honest_singleton.2 trivial) h

end QuorumVault
