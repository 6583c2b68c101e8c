/-
The time for all attempts is enough.

An attempt at a round takes no longer than its setup message may, the round, one pause
and the grace.  The time for all attempts is made of the first two, once for every
attempt, and five seconds; as long as these are enough for what the pauses and the graces
take, no attempt is cut off by it.
-/
import Mathlib.Data.Prod.Basic
import QuorumVault.Proofs.Ceremony.Honest
import QuorumVault.Proofs.Ceremony.Signing
import QuorumVault.Proofs.Retry.Budget
import QuorumVault.Proofs.Round.Silence

namespace QuorumVault

open Run

variable {ε ρ σ α : Type} {site : Site ε ρ σ} {config : EngineConfig} {H : List Event → Prop}

namespace Timeouts

/-- How many turns a round of the given time has at most, not counting those with a message. -/
def turns (t : Timeouts) (round : Duration) : Nat :=
  3 * (round + t.pollInterval.pause) + 6

/-- The policy for a round of the given time. -/
def policy (t : Timeouts) (round : Duration) : RetryPolicy :=
  (RetryPolicy.make t.retryAttempts t.retryBackoff).withOverallDeadline (t.roundBudget round)

/-- How long an attempt at a round of the given time takes at most. -/
def longest (t : Timeouts) (round : Duration) : Duration :=
  t.setupMessage + (round + t.pollInterval.pause + t.outboundGrace.pause)

/-- The pauses of all attempts fit into five seconds, and a span can hold the time for them. -/
structure Fits (t : Timeouts) (round : Duration) : Prop where
  pauses : t.pollInterval ≠ 0
  slack : max t.retryAttempts 1 * (t.pollInterval + t.outboundGrace) +
    (max t.retryAttempts 1 - 1) * t.retryBackoff ≤ Duration.seconds 5
  counted : t.roundBudget round / 1000 ≤ Duration.maxSeconds

variable {t : Timeouts} {round : Duration}

theorem Fits.retry?_eq (fits : t.Fits round) : t.retry? round = some (t.policy round) :=
  if_pos fits.counted

theorem Fits.span_le (fits : t.Fits round) :
    (t.policy round).span (t.longest round) (t.policy round).maxAttempts ≤ t.roundBudget round := by
  have slack := fits.slack
  show max t.retryAttempts 1 * t.longest round + (max t.retryAttempts 1 - 1) * t.retryBackoff ≤
    (round + t.setupMessage) * max t.retryAttempts 1 + Duration.seconds 5
  generalize max t.retryAttempts 1 = n at slack ⊢
  have attempt : t.longest round ≤
      (round + t.setupMessage) + (t.pollInterval + t.outboundGrace) := by
    have poll : t.pollInterval.pause ≤ t.pollInterval := Nat.min_le_left _ _
    have grace : t.outboundGrace.pause ≤ t.outboundGrace := Nat.min_le_left _ _
    unfold longest
    unfold Duration at *
    omega
  calc n * t.longest round + (n - 1) * t.retryBackoff
      ≤ n * ((round + t.setupMessage) + (t.pollInterval + t.outboundGrace)) +
        (n - 1) * t.retryBackoff := Nat.add_le_add_right (Nat.mul_le_mul_left n attempt) _
    _ = n * (round + t.setupMessage) +
        (n * (t.pollInterval + t.outboundGrace) + (n - 1) * t.retryBackoff) := by
      rw [Nat.mul_add, Nat.add_assoc]
    _ ≤ n * (round + t.setupMessage) + Duration.seconds 5 := Nat.add_le_add_left slack _
    _ = (round + t.setupMessage) * n + Duration.seconds 5 := by rw [Nat.mul_comm]

end Timeouts

/-! ### Attempts -/

section

variable (swift : Round.Swift site) (prepares : Round.Prepares site)
  (pauses : config.timeouts.pollInterval ≠ 0) (hereditary : Hereditary H)

include hereditary

theorem Keygen.chainCode_endsIn (raw : Bytes) (family : Family) :
    (chainCode site raw family).EndsIn H 0 fun _ => True := by
  cases family with
  | ecdsa =>
      refine (EndsIn.queryEngine _ _).after hereditary (fun code => ?_) fun _ _ => trivial
      exact (EndsIn.done _).mono (Nat.le_refl 0) fun _ _ _ => trivial
  | eddsa => exact (EndsIn.done _).mono (Nat.le_refl 0) fun _ _ => trivial

include swift prepares pauses

theorem Keygen.attempt_endsIn (request : KeygenRequest) (committee : List String) (family : Family)
    (followed : ∀ log, H log →
      Round.Followed site (config.timeouts.turns config.timeouts.keygenRound) log) :
    (attempt site config request committee family).EndsIn H
      (config.timeouts.longest config.timeouts.keygenRound) fun result =>
        Round.Silent H request.localPartyId request.hexEncryptionKey →
          result = .error (round config request committee family).overdue := by
  let r := round config request committee family
  have followed : ∀ log, H log → Round.Followed site r.turns log := followed
  have worked := Round.session_endsIn swift prepares pauses hereditary followed family
    fun setup => .keygen setup request.localPartyId
  have queried (raw : Bytes) : (do
      let publicKey ← Run.queryEngine site family (.publicKey raw)
      let chain ← chainCode site raw family
      return ⟨Hex.encode publicKey, chain, Base64.encode raw⟩ : Run ε ρ σ Outcome).EndsIn H 0
        fun _ => True := by
    refine (EndsIn.queryEngine _ _).after hereditary (fun publicKey => ?_) fun _ _ => trivial
    refine (chainCode_endsIn hereditary raw family).after hereditary (fun chain => ?_) fun _ _ _ =>
      trivial
    exact (EndsIn.done _).mono (Nat.le_refl 0) fun _ _ _ _ => trivial
  unfold attempt
  rw [← bind_bind]
  refine worked.before hereditary (fun raw => ?_) fun e late silent => ?_
  · refine (queried raw).mono (Nat.le_refl 0) fun _ _ late silent => ?_
    cases late silent
  · cases late silent
    rfl

/-- The message to sign can be named, and there is a share to sign it with. -/
def Keysign.Signable (vault : Vault) (m : KeysignMessage) : Prop :=
  (∃ scope, m.scope = .ok scope) ∧ ∃ bytes, share vault m.family = .ok bytes

theorem Keysign.attempt_endsIn (request : KeysignRequest) (vault : Vault) (committee : List String)
    (m : KeysignMessage) (followed : ∀ log, H log →
      Round.Followed site (config.timeouts.turns config.timeouts.keysignRound) log) :
    (attempt site config request vault committee m).EndsIn H
      (config.timeouts.longest config.timeouts.keysignRound) fun result =>
        Signable vault m → Round.Silent H vault.localPartyId request.hexEncryptionKey →
          result = .error (round config request vault committee "").overdue := by
  refine (EndsIn.ofExcept _).after hereditary (fun scope => ?_) ?_
  · let r := round config request vault committee scope
    have followed : ∀ log, H log → Round.Followed site r.turns log := followed
    refine (EndsIn.ofExcept _).after hereditary (fun bytes => ?_) ?_
    · have worked := Round.session_endsIn swift prepares pauses hereditary followed m.family
        fun setup => .sign setup vault.localPartyId bytes
      rw [← bind_bind]
      refine worked.before hereditary (fun raw => ?_) fun e late _ _ _ silent => ?_
      · refine (EndsIn.ofExcept _).mono (Nat.le_refl 0) fun _ _ late _ _ _ silent => ?_
        cases late silent
      · cases late silent
        rfl
    · intro e refused _ signable
      obtain ⟨bytes, held⟩ := signable.2
      rw [held] at refused
      cases refused
  · intro e refused signable
    obtain ⟨scope, named⟩ := signable.1
    rw [named] at refused
    cases refused

end

/-! ### All attempts -/

/-- The limit of time for all attempts makes no difference, and if there is silence in them all are
made, each of which fails in the same way. -/
structure RetryPolicy.Unhurried (p : RetryPolicy) (label : String) (op : Nat → Run ε ρ σ α)
    (w : World ε ρ σ) (log : List Event) (Silence : Prop) (late : Error) : Prop where
  /-- The attempts come out as they would without the limit, with the same trace. -/
  unlimited : p.run label op none w = p.unlimited.run label op none w
  ends : ∃ result, (p.run label op none w).1 = .ofResult result
  intime : ∀ d, (p.run label op none w).1 ≠ .failed (overdue label d)
  /-- In a silence there are as many attempts as there may be, and the last one takes too long. -/
  silent : Silence → (p.run label op none w).1 = .failed (p.exhausted label (some late)) ∧
    begun log = List.replicate p.maxAttempts label

/-- If every attempt ends in time, the time for all of them is enough. -/
theorem Timeouts.Fits.unhurried {t : Timeouts} {round : Duration} {label : String}
    {op : Nat → Run ε ρ σ α} {w : World ε ρ σ} {log : List Event} (fits : t.Fits round)
    {party keyText : String} {Able : Prop} {late : Error} (passing : late.retryable = true)
    (h : ∀ H, Hereditary H → (∀ log, H log → Round.Followed site (t.turns round) log) → ∀ n,
      (op n).EndsIn H (t.longest round) fun result => Able → Round.Silent H party keyText →
        result = .error late)
    (unbegun : ∀ n, (op n).Keeps fun _ log => ∀ e ∈ log, e.begun? = none)
    (since : w.Since ((t.policy round).unlimited.run label op none w).2 log)
    (followed : Round.Followed site (t.turns round) log) :
    (t.policy round).Unhurried label op w log (Able ∧ Round.Silence party keyText log) late := by
  have pos : 0 < (t.policy round).maxAttempts := Timeouts.maxAttempts_pos fits.retry?_eq
  have few := Round.followed_hereditary site (t.turns round)
  have outlasts := RetryPolicy.run_outlasts few (h _ few fun _ few => few) unbegun rfl pos
    fits.span_le since followed
  have same : (t.policy round).run label op none w =
      (t.policy round).unlimited.run label op none w := outlasts.same
  constructor
  case unlimited => exact same
  case ends => exact same ▸ outlasts.ends
  case intime => exact same ▸ outlasts.intime
  case silent =>
    rintro ⟨able, silence⟩
    -- the same once more, for the kind of logs that are silent too
    have both := few.and (Round.silence_hereditary party keyText)
    have fails (n : Nat) := (h _ both (fun _ kind => kind.1) n).mono (Nat.le_refl _)
      fun _ late => late able fun _ kind => kind.2
    have outlasts := RetryPolicy.run_outlasts both fails unbegun rfl pos fits.span_le since
      ⟨followed, silence⟩
    obtain ⟨ending, count⟩ := outlasts.exhausts late passing (fun _ known => known) fun none =>
      absurd none (Nat.ne_of_gt pos)
    exact ⟨(congrArg Prod.fst outlasts.same).trans ending, count⟩

/-! ### The ceremonies -/

theorem Run.attempt_bind_congr {β : Type} {m m' : Run ε ρ σ α} {f : Except Error α → Run ε ρ σ β}
    {limit : Option Time} {w : World ε ρ σ} (same : m limit w = m' limit w) :
    (Run.attempt m >>= f) limit w = (Run.attempt m' >>= f) limit w := by
  show andThen (Run.attempt m) f limit w = andThen (Run.attempt m') f limit w
  unfold andThen Run.attempt
  rw [same]

theorem Event.not_begun_of_plain (e : Event) (h : e.Plain) : ∀ e' ∈ [e], e'.begun? = none := by
  intro e' mem
  rw [List.mem_singleton.1 mem]
  exact h.not_begun

namespace Keygen

/-- Attempts at a round under some policy, and a record of how it came out. -/
def attemptsUnder (policy : RetryPolicy) (site : Site ε ρ σ) (config : EngineConfig)
    (request : KeygenRequest) (committee : List String) (family : Family) : Run ε ρ σ Outcome := do
  match ← Run.attempt
      (policy.run (label family) fun _ => attempt site config request committee family) with
  | .ok outcome =>
    note request .keygen (family.label ++ " key " ++ outcome.publicKey ++ " generated")
    return outcome
  | .error e =>
    note request (.ofError e) (label family ++ " failed: " ++ e.message)
    Run.fail e

theorem attempts_eq_attemptsUnder (request : KeygenRequest) (committee : List String)
    (family : Family) (fits : config.timeouts.Fits config.timeouts.keygenRound) :
    attempts site config request committee family =
      attemptsUnder (config.timeouts.policy config.timeouts.keygenRound) site config request
        committee family := by
  have policy_eq : config.timeouts.keygenRetry? = some _ := fits.retry?_eq
  unfold attempts
  rw [policy_eq]
  rfl

theorem attempt_unbegun (site : Site ε ρ σ) (config : EngineConfig) (request : KeygenRequest)
    (committee : List String) (family : Family) :
    (attempt site config request committee family).Keeps fun _ log =>
      ∀ e ∈ log, e.begun? = none := by
  have sessions (family : Family) (opening : Session.Opening) (r : Round) :
      (Session.withSession site family opening (r.run site)).Keeps fun _ log =>
        ∀ e ∈ log, e.begun? = none := by
    refine r.session_keeps site (fun _ => ?_) (fun _ => ?_) fun _ inRound => inRound.not_begun
    · cases opening <;> rfl
    · cases opening <;> rfl
  exact attempt_keeps (steady_forall _) Event.not_begun_of_plain sessions config request committee
    family

end Keygen

namespace Keysign

/-- Attempts at signing a message under some policy, and a record of how it came out. -/
def attemptsUnder (policy : RetryPolicy) (site : Site ε ρ σ) (config : EngineConfig)
    (request : KeysignRequest) (vault : Vault) (committee : List String) (m : KeysignMessage) :
    Run ε ρ σ KeysignResponse := do
  match ← Run.attempt
      (policy.run (label m) fun _ => attempt site config request vault committee m) with
  | .ok response =>
    note request vault .keysign ("signed message " ++ m.hash)
    return response
  | .error e =>
    note request vault (.ofError e) (label m ++ " failed: " ++ e.message)
    Run.fail e

theorem attempts_eq_attemptsUnder (request : KeysignRequest) (vault : Vault)
    (committee : List String) (m : KeysignMessage)
    (fits : config.timeouts.Fits config.timeouts.keysignRound) :
    attempts site config request vault committee m =
      attemptsUnder (config.timeouts.policy config.timeouts.keysignRound) site config request vault
        committee m := by
  have policy_eq : config.timeouts.keysignRetry? = some _ := fits.retry?_eq
  unfold attempts
  rw [policy_eq]
  rfl

end Keysign

/-! ### If the other member sends nothing -/

namespace Prompt

variable {p : Prompt} {patience : Nat} {log : List Event}

theorem emitted_of_honest (h : Honest (p.alone patience) log) : emitted log = [] := by
  refine List.filterMap_eq_nil_iff.2 fun e mem => ?_
  have honest := h e mem
  cases e with
  | engine family c answer =>
      obtain ⟨s, rfl⟩ := honest
      cases c <;> rfl
  | query | asked | answered | storing | stored | noted | queued | attempt => rfl

theorem silence_of_honest (h : Honest (p.alone patience) log) (party : String) :
    Round.Silence party p.keyText log := by
  constructor
  case works =>
    intro e mem
    have honest := h e mem
    cases e with
    | engine family c answer =>
        obtain ⟨s, rfl⟩ := honest
        cases c <;> rfl
    | answered c answer =>
        obtain ⟨s, now, rfl⟩ := honest
        cases c <;> rfl
    | query | asked | storing | stored | noted | queued | attempt => rfl
  case fetched =>
    intro m mem
    obtain ⟨e, known, brought⟩ := List.mem_flatMap.1 mem
    have honest := h e known
    cases e with
    | answered c answer =>
        obtain ⟨s, now, rfl⟩ := honest
        cases c <;> cases brought
    | engine | query | asked | storing | stored | noted | queued | attempt => cases brought
  case opens =>
    intro session scope wait body mem
    obtain ⟨s, now, answered⟩ := h _ mem
    obtain rfl : p.body = body := Except.ok.inj answered
    exact ⟨[], p.decode_body⟩

theorem alone_prepares (p : Prompt) (patience : Nat) : Round.Prepares (p.alone patience) :=
  fun _ _ _ _ _ => ⟨0, rfl, Nat.zero_le _⟩

theorem alone_silent {policy : RetryPolicy} (pos : 0 < policy.maxAttempts) (label : String)
    {op : Nat → Run Unit Unit (SealedStore × Nat) α}
    (honest : ∀ n, (op n).Keeps fun _ log => Honest (p.alone patience) log)
    (w : World Unit Unit (SealedStore × Nat)) :
    ∃ log, w.Since (policy.unlimited.run label op none w).2 log ∧ emitted log = [] ∧
      ∀ party, Round.Silence party p.keyText log := by
  have pos : 0 < policy.unlimited.maxAttempts := pos
  have attempts := RetryPolicy.run_honest pos label honest
  obtain ⟨log, since, honest⟩ := attempts none w
  exact ⟨log, since, emitted_of_honest honest, silence_of_honest honest⟩

theorem payment_signable : Keysign.Signable treasuryVault payment :=
  ⟨⟨_, rfl⟩, _, rfl⟩

end Prompt

/-! ### All attempts at a round -/

/-- In both ceremonies the limit of time for all attempts makes no difference, whatever engine and
relay do, as long as the relay takes and drops messages at once and answers about setup messages
in the time it is given.  Attempts at a round come out as they would without the limit, at the same
moments; if nothing comes from the others, all of them are made, and the last one takes too long. -/
theorem attempts_unhurried (swift : Round.Swift site) (prepares : Round.Prepares site)
    (config : EngineConfig) :
    (∀ (request : KeygenRequest) (committee : List String) (family : Family) (w : World ε ρ σ)
      (log : List Event),
      let policy := config.timeouts.policy config.timeouts.keygenRound
      let op := fun (_ : Nat) => Keygen.attempt site config request committee family
      config.timeouts.Fits config.timeouts.keygenRound →
      w.Since (policy.unlimited.run (Keygen.label family) op none w).2 log →
      Round.Followed site (config.timeouts.turns config.timeouts.keygenRound) log →
      policy.Unhurried (Keygen.label family) op w log
          (Round.Silence request.localPartyId request.hexEncryptionKey log)
          (Keygen.round config request committee family).overdue ∧
        Keygen.attempts site config request committee family none w =
          Keygen.attemptsUnder policy.unlimited site config request committee family none w) ∧
    ∀ (request : KeysignRequest) (vault : Vault) (committee : List String) (m : KeysignMessage)
      (w : World ε ρ σ) (log : List Event),
      let policy := config.timeouts.policy config.timeouts.keysignRound
      let op := fun (_ : Nat) => Keysign.attempt site config request vault committee m
      config.timeouts.Fits config.timeouts.keysignRound →
      w.Since (policy.unlimited.run (Keysign.label m) op none w).2 log →
      Round.Followed site (config.timeouts.turns config.timeouts.keysignRound) log →
      policy.Unhurried (Keysign.label m) op w log
          (Keysign.Signable vault m ∧
            Round.Silence vault.localPartyId request.hexEncryptionKey log)
          (Keysign.round config request vault committee "").overdue ∧
        Keysign.attempts site config request vault committee m none w =
          Keysign.attemptsUnder policy.unlimited site config request vault committee m none w := by
  constructor
  · intro request committee family w log policy op fits since followed
    have unhurried := fits.unhurried rfl (fun H hereditary few _ =>
      (Keygen.attempt_endsIn swift prepares fits.pauses hereditary request committee family few).mono
        (Nat.le_refl _) fun _ late (_ : True) => late)
      (fun _ => Keygen.attempt_unbegun site config request committee family) since followed
    refine ⟨{ unhurried with silent := fun silence => unhurried.silent ⟨trivial, silence⟩ }, ?_⟩
    rw [Keygen.attempts_eq_attemptsUnder request committee family fits]
    exact attempt_bind_congr unhurried.unlimited
  · intro request vault committee m w log policy op fits since followed
    have unhurried := fits.unhurried rfl (fun H hereditary few _ =>
      Keysign.attempt_endsIn swift prepares fits.pauses hereditary request vault committee m few)
      (fun _ => Keysign.attempt_unbegun site config request vault committee m) since followed
    refine ⟨unhurried, ?_⟩
    rw [Keysign.attempts_eq_attemptsUnder request vault committee m fits]
    exact attempt_bind_congr unhurried.unlimited

/-- With the usual times a server that hears nothing makes three attempts at creating a key, and at
signing. -/
theorem attempts_unhurried_alone :
    (∃ w, (Prompt.usual.timeouts.policy Prompt.usual.timeouts.keygenRound).run (Keygen.label .ecdsa)
        (fun _ => Keygen.attempt (Prompt.treasury.alone 400000) Prompt.usual Prompt.treasuryRequest
          ["server", "device"] .ecdsa) none Prompt.treasuryStart =
        (.failed (.exhausted "keygen ecdsa" 3
          (.of .timeout "round in session session did not finish within 120s")), w) ∧
      begun w.trace.events = List.replicate 3 "keygen ecdsa") ∧
    ∃ w, (Prompt.usual.timeouts.policy Prompt.usual.timeouts.keysignRound).run
        (Keysign.label Prompt.payment)
        (fun _ => Keysign.attempt (Prompt.treasury.alone 400000) Prompt.usual Prompt.paymentRequest
          Prompt.treasuryVault ["server", "device"] Prompt.payment) none Prompt.treasuryStart =
        (.failed (.exhausted "keysign eddsa payment" 3
          (.of .timeout "round in session session did not finish within 60s")), w) ∧
      begun w.trace.events = List.replicate 3 "keysign eddsa payment" := by
  have both := attempts_unhurried (Prompt.treasury.alone_swift 400000)
    (Prompt.treasury.alone_prepares 400000) Prompt.usual
  have begins {log : List Event} (nothing : emitted log = []) {turns : Nat} (few : turns < 400000) :
      Round.Followed (Prompt.treasury.alone 400000) turns log := by
    unfold Round.Followed
    rw [nothing, List.length_nil, Nat.zero_add]
    exact few
  constructor
  · have fits : Prompt.usual.timeouts.Fits Prompt.usual.timeouts.keygenRound :=
      ⟨by decide, by decide, by decide⟩
    obtain ⟨log, since, nothing, silence⟩ := Prompt.alone_silent
      (Timeouts.maxAttempts_pos fits.retry?_eq) (Keygen.label .ecdsa) (fun _ =>
        Keygen.attempt_honest _ Prompt.usual Prompt.treasuryRequest ["server", "device"] .ecdsa)
      Prompt.treasuryStart
    obtain ⟨unhurried, -⟩ := both.1 Prompt.treasuryRequest ["server", "device"] .ecdsa
      Prompt.treasuryStart log fits since (begins nothing (by decide))
    obtain ⟨ending, count⟩ := unhurried.silent (silence _)
    rw [← unhurried.unlimited] at since
    exact ⟨_, Prod.fst_eq_iff.1 ending, (congrArg begun since).trans count⟩
  · have fits : Prompt.usual.timeouts.Fits Prompt.usual.timeouts.keysignRound :=
      ⟨by decide, by decide, by decide⟩
    obtain ⟨log, since, nothing, silence⟩ := Prompt.alone_silent
      (Timeouts.maxAttempts_pos fits.retry?_eq) (Keysign.label Prompt.payment) (fun _ =>
        Keysign.attempt_honest _ Prompt.usual Prompt.paymentRequest Prompt.treasuryVault
          ["server", "device"] Prompt.payment)
      Prompt.treasuryStart
    obtain ⟨unhurried, -⟩ := both.2 Prompt.paymentRequest Prompt.treasuryVault ["server", "device"]
      Prompt.payment Prompt.treasuryStart log fits since (begins nothing (by decide))
    obtain ⟨ending, count⟩ := unhurried.silent ⟨Prompt.payment_signable, silence _⟩
    rw [← unhurried.unlimited] at since
    exact ⟨_, Prod.fst_eq_iff.1 ending, (congrArg begun since).trans count⟩

end QuorumVault
