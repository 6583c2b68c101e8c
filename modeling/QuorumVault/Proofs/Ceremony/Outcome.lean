/-
What the rounds of creating a vault leave comes from the engines.

The last attempt at a round succeeds, and what it leaves is made of the one result that
the engine gave in that attempt and of the engine's answers about it.  Attempts that
failed before leave nothing.
-/
import QuorumVault.Proofs.Ceremony.Creation

namespace QuorumVault.Keygen

open Run

variable {ε ρ σ : Type} {site : Site ε ρ σ} {config : EngineConfig} {request : KeygenRequest}
  {committee : List String} {family : Family} {limit : Option Time} {w w' : World ε ρ σ}
  {outcome : Outcome}

/-- What an attempt leaves was made from a result that the engine gave in it, the only one. -/
structure Gives (family : Family) (raw : Bytes) (outcome : Outcome) (log : List Event) : Prop where
  results_eq : results log = [(family, raw)]
  share_eq : outcome.share = Base64.encode raw
  publicKey : ∃ key, .query family (.publicKey raw) (.ok key) ∈ log ∧
    outcome.publicKey = Hex.encode key
  chainCode_ecdsa : family = .ecdsa → ∃ code, .query .ecdsa (.chainCode raw) (.ok code) ∈ log ∧
    outcome.chainCode = some (Hex.encode code)
  chainCode_eddsa : family = .eddsa → outcome.chainCode = none

/-! ### One attempt -/

/-- A session whose work is done logs the one result that it returns. -/
theorem session_eq_done {opening : Session.Opening} {r : Round} {raw : Bytes}
    (h : Session.withSession site family opening (r.run site) limit w = (.done raw, w')) :
    ∃ log, w.Since w' log ∧ results log = [(family, raw)] := by
  obtain ⟨log, since, within⟩ :=
    Session.withSession_logs site (fun handle => r.run_results site family handle) limit w
  rw [h] at since within
  have opened (handle : Engine.Handle) : results [opening.opened family handle] = [] := by
    cases opening <;> rfl
  cases within with
  | @freed handle _ log answer told =>
      refine ⟨_, since, ?_⟩
      rw [← List.singleton_append, results_append, results_append, opened, told.2 raw rfl]
      rfl

/-- The chain code, if there is one, is the engine's answer. -/
theorem chainCode_eq_done {raw : Bytes} {chain : Option String}
    (h : chainCode site raw family limit w = (.done chain, w')) :
    ∃ log, w.Since w' log ∧ results log = [] ∧
      (family = .ecdsa → ∃ code, .query .ecdsa (.chainCode raw) (.ok code) ∈ log ∧
        chain = some (Hex.encode code)) ∧
      (family = .eddsa → chain = none) := by
  cases family with
  | ecdsa =>
      obtain ⟨code, w₁, asked, h⟩ := bind_eq_done h
      cases h
      exact ⟨_, queryEngine_eq_done asked, rfl, fun _ => ⟨code, by simp, rfl⟩, nofun⟩
  | eddsa =>
      cases h
      exact ⟨[], .refl w, rfl, nofun, fun _ => rfl⟩

/-- What a successful attempt leaves comes from the engine. -/
theorem attempt_eq_done
    (h : attempt site config request committee family limit w = (.done outcome, w')) :
    ∃ log raw, w.Since w' log ∧ Gives family raw outcome log := by
  obtain ⟨setup, w₁, fetched, h⟩ := bind_eq_done h
  obtain ⟨body, w₀, asked, opened⟩ := bind_eq_done fetched
  obtain ⟨-, rfl⟩ := ofExcept_eq_done opened
  obtain ⟨raw, w₂, worked, h⟩ := bind_eq_done h
  obtain ⟨key, w₃, keyed, h⟩ := bind_eq_done h
  obtain ⟨chain, w₄, chained, h⟩ := bind_eq_done h
  cases h
  obtain ⟨log₁, since₁, result⟩ := session_eq_done worked
  obtain ⟨log₂, since₂, none, codes, codeless⟩ := chainCode_eq_done chained
  refine ⟨_, raw, (((askRelay_eq_done asked).trans since₁).trans (queryEngine_eq_done keyed)).trans
    since₂, ?_, rfl, ⟨key, by simp, rfl⟩, fun ecdsa => ?_, codeless⟩
  · rw [results_append, results_append, results_append, result, none]
    rfl
  · obtain ⟨code, mem, known⟩ := codes ecdsa
    exact ⟨code, List.mem_append_right _ mem, known⟩

/-- An attempt logs what its ending allows, which is all there is to know of one that failed. -/
theorem attempt_ends (site : Site ε ρ σ) (config : EngineConfig) (request : KeygenRequest)
    (committee : List String) (family : Family) :
    (attempt site config request committee family).Logs
      (attempt site config request committee family).Ends := by
  have sessions (family : Family) (opening : Session.Opening) (r : Round) :
      (Session.withSession site family opening (r.run site)).Keeps fun _ log =>
        ∀ e ∈ log, True :=
    r.session_keeps site (fun _ => trivial) (fun _ => trivial) fun _ _ => trivial
  exact (attempt_keeps (steady_forall fun _ => True) (fun _ _ _ _ => trivial) sessions config
    request committee family).ends

/-! ### All attempts -/

/-- The record of a round that has succeeded. -/
abbrev success (request : KeygenRequest) (family : Family) (outcome : Outcome) : Event :=
  .noted ⟨.keygen, request.sessionId, some request.localPartyId,
    family.label ++ " key " ++ outcome.publicKey ++ " generated"⟩

/-- Attempts at a round of which the last one has succeeded and all before have failed. -/
structure Attempted (site : Site ε ρ σ) (config : EngineConfig) (request : KeygenRequest)
    (committee : List String) (family : Family) (raw : Bytes) (outcome : Outcome)
    (log : List Event) : Prop where
  /-- The attempts stand one after the other, and behind them the record of the success. -/
  log_eq : ∃ before number last,
    log = before ++ .attempt (label family) number :: last ++ [success request family outcome] ∧
    RetryPolicy.Attempts.Failures (label family)
      (attempt site config request committee family).Ends before ∧
    (attempt site config request committee family).Ends (.done outcome) last ∧
    Gives family raw outcome last

/-- If the attempts at a round succeed, the last one has. -/
theorem attempts_eq_done
    (h : attempts site config request committee family limit w = (.done outcome, w')) :
    ∃ log raw, w.Since w' log ∧ Attempted site config request committee family raw outcome log := by
  unfold attempts at h
  cases hp : config.timeouts.keygenRetry? with
  | none =>
      rw [hp] at h
      cases h
  | some policy =>
      rw [hp] at h
      obtain ⟨result, w₁, tried, h⟩ := bind_eq_done h
      obtain ⟨log, since, attempts⟩ := RetryPolicy.run_logs (Timeouts.maxAttempts_pos hp)
        (label family) (fun _ => attempt_ends site config request committee family) limit w
      cases result with
      | error e => cases h
      | ok x =>
          rw [attempt_eq_ok tried] at since attempts
          obtain ⟨before, number, last, rfl, failures, ends⟩ := attempts.eq_append_of_done
          obtain ⟨limit', u, u', succeeds, logged⟩ := id ends
          obtain ⟨log', raw, logged', gives⟩ := attempt_eq_done succeeds
          cases h
          cases logged.unique logged'
          exact ⟨_, raw, since.record _, ⟨before, number, last, rfl, failures, ends, gives⟩⟩

/-! ### Both rounds -/

/-- The members meet. -/
abbrev gathered (config : EngineConfig) (request : KeygenRequest) (committee : List String) :
    List Event :=
  [.asked (.register request.sessionId request.localPartyId),
    .answered (.register request.sessionId request.localPartyId) (.ok ()),
    .asked (.start request.sessionId config.timeouts.keygenSessionStart),
    .answered (.start request.sessionId config.timeouts.keygenSessionStart) (.ok committee)]

theorem gather_eq_done (h : gather site config request limit w = (.done committee, w')) :
    w.Since w' (gathered config request committee) := by
  obtain ⟨_, w₁, registered, h⟩ := bind_eq_done h
  obtain ⟨met, w₂, started, h⟩ := bind_eq_done h
  obtain ⟨_, w₃, checked, h⟩ := bind_eq_done h
  obtain ⟨-, rfl⟩ := ofExcept_eq_done checked
  cases h
  exact (askRelay_eq_done registered).trans (askRelay_eq_done started)

/-- One thing for either family. -/
def byFamily (ecdsa eddsa : Bytes) : Family → Bytes
  | .ecdsa => ecdsa
  | .eddsa => eddsa

/-- If both rounds succeed, what they leave comes from the engines. -/
theorem rounds_eq_done {m : Made} (h : rounds site config request limit w = (.done m, w')) :
    ∃ (raw : Family → Bytes) (ecdsa eddsa : List Event),
      w.Since w' (gathered config request m.committee ++ ecdsa ++ eddsa) ∧
      Attempted site config request m.committee .ecdsa (raw .ecdsa) m.ecdsa ecdsa ∧
      Attempted site config request m.committee .eddsa (raw .eddsa) m.eddsa eddsa := by
  obtain ⟨_, w₀, checked, h⟩ := bind_eq_done h
  obtain ⟨-, rfl⟩ := ofExcept_eq_done checked
  obtain ⟨committee, w₁, met, h⟩ := bind_eq_done h
  obtain ⟨first, w₂, attempted, h⟩ := bind_eq_done h
  obtain ⟨_, w₃, settled, h⟩ := bind_eq_done h
  obtain ⟨second, w₄, attempted', h⟩ := bind_eq_done h
  cases h
  obtain ⟨log, raw, since, made⟩ := attempts_eq_done attempted
  obtain ⟨log', raw', since', made'⟩ := attempts_eq_done attempted'
  have sinces := ((gather_eq_done met).trans since).trans ((wait_eq_done settled).trans since')
  exact ⟨byFamily raw raw', log, log', sinces, made, made'⟩

end QuorumVault.Keygen
