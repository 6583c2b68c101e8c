/-
What ceremonies keep.

Creating a vault and signing messages are put together from calls, records and rounds.
A steady property that calls and records have by themselves, and that every round in a
session of its own keeps, is kept by both ceremonies, with all their attempts.

What the members do until they have met and made their keys or signatures touches no
storage and no queue and tells the relay nothing of an end.  A property need not hold of
such effects to be kept that far.
-/
import QuorumVault.Ceremony.Keygen
import QuorumVault.Ceremony.Keysign
import QuorumVault.Proofs.Retry.Attempts

namespace QuorumVault

open Run

variable {ε ρ σ α : Type} {site : Site ε ρ σ} {K : Bool → List Event → Prop}

/-! ### Kinds of events -/

/-- The call belongs to the end of a session. -/
def Relay.Call.parts : Relay.Call → Bool
  | .complete .. | .completed .. => true
  | .register .. | .start .. | .setup .. | .upload .. | .download .. | .delete .. => false

namespace Event

/-- Something other than a call to an engine. -/
def Calm : Event → Prop
  | .engine .. => False
  | _ => True

/-- Something that has to do with what a ceremony leaves behind. -/
def Effect : Event → Prop
  | .storing _ | .stored .. | .queued .. => True
  | .asked c | .answered c _ => c.parts = true
  | .engine .. | .query .. | .noted _ | .attempt .. => False

/-- A record of how things go. -/
def Record : Event → Prop
  | .noted _ | .attempt .. => True
  | .engine .. | .query .. | .asked _ | .answered .. | .storing _ | .stored .. | .queued .. => False

/-- A question, or its answer, that leaves nothing behind. -/
def Plain (e : Event) : Prop :=
  e.Calm ∧ ¬e.Effect ∧ ¬e.Record

theorem plain_of_stays {c : Relay.Call} (stays : c.parts = false) :
    Plain (.asked c) ∧ ∀ answer, Plain (.answered c answer) :=
  ⟨⟨trivial, Bool.not_eq_true _ ▸ stays, not_false⟩, fun _ =>
    ⟨trivial, Bool.not_eq_true _ ▸ stays, not_false⟩⟩

theorem Record.calm {e : Event} (h : e.Record) : e.Calm ∧ ¬e.Effect := by
  cases e with
  | noted | attempt => exact ⟨trivial, not_false⟩
  | engine | query | asked | answered | storing | stored | queued => cases h

end Event

/-! ### Ceremonies -/

/-- What is done with a vault once it is open. -/
def Keysign.signing (site : Site ε ρ σ) (config : EngineConfig) (request : KeysignRequest)
    (vault : Vault) : Run ε ρ σ KeysignResults := do
  let committee ← gather site config request vault
  let results ← signAll site config request vault committee request.messages .empty
  let _ ← Run.attempt (Run.askRelay site (.complete request.sessionId vault.localPartyId))
  return results

theorem Timeouts.maxAttempts_pos {t : Timeouts} {round : Duration} {policy : RetryPolicy}
    (h : t.retry? round = some policy) : 0 < policy.maxAttempts := by
  unfold Timeouts.retry? at h
  dsimp only at h
  split at h
  · cases h
    show 0 < max t.retryAttempts 1
    omega
  · cases h

/-- What every attempt keeps is kept by all of them. -/
theorem RetryPolicy.run_keeps {policy : RetryPolicy} (pos : 0 < policy.maxAttempts)
    (label : String) {op : Nat → Run ε ρ σ α} (steady : Steady K)
    (begins : ∀ number, K false [.attempt label number]) (h : ∀ n, (op n).Keeps K) :
    (policy.run label op).Keeps K :=
  (run_logs pos label h).mono fun _ _ attempts => attempts.keeps steady begins

section

variable (steady : Steady K) (calm : ∀ e : Event, e.Calm → K false [e])
  (plain : ∀ e : Event, e.Plain → K false [e]) (records : ∀ e : Event, e.Record → K false [e])
  (sessions : ∀ family opening (r : Round),
    (Session.withSession site family opening (r.run site)).Keeps K)

theorem Run.askRelay_keeps (steady : Steady K) (calm : ∀ e : Event, e.Calm → K false [e])
    (c : Relay.Call) : (Run.askRelay site c).Keeps K :=
  .askRelay steady (calm _ trivial) fun _ => calm _ trivial

theorem Run.askStorage_keeps (steady : Steady K) (calm : ∀ e : Event, e.Calm → K false [e])
    (c : Storage.Call) : (Run.askStorage site c).Keeps K :=
  .askStorage steady (calm _ trivial) fun _ => calm _ trivial

include steady plain

/-- Calls that do not part are answered before the effects. -/
theorem Run.askRelay_keeps_early (c : Relay.Call) (stays : c.parts = false) :
    (Run.askRelay site c).Keeps K :=
  .askRelay steady (plain _ (Event.plain_of_stays stays).1) fun answer =>
    plain _ ((Event.plain_of_stays stays).2 answer)

theorem Run.queryEngine_keeps (family : Family) (q : Engine.Query) :
    (Run.queryEngine site family q).Keeps K :=
  .queryEngine steady fun _ => plain _ ⟨trivial, not_false, not_false⟩

theorem Round.fetchSetup_keeps (r : Round) : (r.fetchSetup site).Keeps K :=
  .bind steady (askRelay_keeps_early steady plain _ rfl) fun _ => .ofExcept steady _

namespace Keygen

variable (config : EngineConfig) (request : KeygenRequest)

theorem chainCode_keeps (raw : Bytes) (family : Family) : (chainCode site raw family).Keeps K := by
  cases family with
  | ecdsa => exact .bind steady (queryEngine_keeps steady plain _ _) fun _ => .done steady _
  | eddsa => exact .done steady _

theorem gather_keeps : (gather site config request).Keeps K := by
  refine .bind steady (askRelay_keeps_early steady plain _ rfl) fun _ => ?_
  refine .bind steady (askRelay_keeps_early steady plain _ rfl) fun committee => ?_
  exact .bind steady (.ofExcept steady _) fun _ => .done steady _

include sessions

theorem attempt_keeps (committee : List String) (family : Family) :
    (attempt site config request committee family).Keeps K := by
  refine .bind steady (Round.fetchSetup_keeps steady plain _) fun setup => ?_
  refine .bind steady (sessions _ _ _) fun raw => ?_
  refine .bind steady (queryEngine_keeps steady plain _ _) fun publicKey => ?_
  exact .bind steady (chainCode_keeps steady plain _ _) fun chain => .done steady _

include records

theorem attempts_keeps (committee : List String) (family : Family) :
    (attempts site config request committee family).Keeps K := by
  unfold attempts
  cases h : config.timeouts.keygenRetry? with
  | none => exact .overflow steady
  | some policy =>
      have tries := RetryPolicy.run_keeps (Timeouts.maxAttempts_pos h) (label family) steady
        (fun _ => records _ trivial) fun (_ : Nat) =>
          attempt_keeps steady plain sessions config request committee family
      refine .bind steady (.attempt tries) fun result => ?_
      cases result with
      | ok outcome => exact .bind steady (.record (records _ trivial)) fun _ => .done steady _
      | error e => exact .bind steady (.record (records _ trivial)) fun _ => .fail steady _

omit plain records sessions
include calm

theorem leave_keeps (committee : List String) : (leave site request committee).Keeps K := by
  refine .bind steady (.attempt (askRelay_keeps steady calm _)) fun _ => ?_
  exact .bind steady (.attempt (askRelay_keeps steady calm _)) fun _ => .done steady _

theorem sendBackup_keeps (fileName content : String) :
    (sendBackup site config request fileName content).Keeps K := by
  unfold sendBackup
  cases emailTask? site config request fileName content with
  | none => exact .done steady _
  | some task => exact .record (calm _ trivial)

include sessions

theorem createVault_keeps : (createVault site config request).Keeps K := by
  have plain (e : Event) (h : e.Plain) := calm e h.1
  have attempted (committee : List String) (family : Family) :=
    attempts_keeps steady plain (fun e h => calm e h.calm.1) sessions config request committee family
  refine .bind steady (.ofExcept steady _) fun _ => ?_
  refine .bind steady (gather_keeps steady plain config request) fun committee => ?_
  refine .bind steady (attempted _ _) fun ecdsa => ?_
  refine .bind steady (.wait steady _) fun _ => ?_
  refine .bind steady (attempted _ _) fun eddsa => ?_
  refine .bind steady (leave_keeps steady calm request _) fun _ => ?_
  refine .bind steady (.now steady) fun now => ?_
  refine .bind steady (.ofExcept steady _) fun vault => ?_
  refine .bind steady (.nonce steady) fun nonce => ?_
  refine .bind steady (askStorage_keeps steady calm _) fun _ => ?_
  exact .bind steady (sendBackup_keeps steady calm config request _ _) fun _ => .done steady _

end Keygen

namespace Keysign

variable (config : EngineConfig) (request : KeysignRequest)

omit calm sessions

section

omit plain
variable (asks : ∀ family q answer, K false [.query family q answer])
include asks

theorem checkingKey_keeps (vault : Vault) (family : Family) :
    (checkingKey site request vault family).Keeps K := by
  cases family with
  | eddsa => exact .done steady _
  | ecdsa =>
      unfold checkingKey
      dsimp only
      split
      · exact .done steady _
      · refine .bind steady (.ofExcept steady _) fun share => ?_
        exact .bind steady (.queryEngine steady (asks _ _)) fun _ => .done steady _

theorem verify_keeps (records : ∀ e : Event, e.Record → K false [e]) (vault : Vault)
    (m : KeysignMessage) (response : KeysignResponse) :
    (verify site request vault m response).Keeps K := by
  have checks : (check site request vault m response).Keeps K := by
    refine .bind steady (.ofExcept steady _) fun message => ?_
    exact .bind steady (checkingKey_keeps steady request asks vault _) fun key =>
      .ofExcept steady _
  refine .bind steady (.attempt checks) fun result => ?_
  cases result with
  | ok _ => exact .done steady _
  | error e => exact .record (records _ trivial)

end

theorem gather_keeps (vault : Vault) : (gather site config request vault).Keeps K := by
  refine .bind steady (askRelay_keeps_early steady plain _ rfl) fun _ => ?_
  refine .bind steady (askRelay_keeps_early steady plain _ rfl) fun committee => ?_
  exact .bind steady (.ofExcept steady _) fun _ => .done steady _

omit plain

theorem openVault_keeps (asks : ∀ c, K false [.storing c])
    (answers : ∀ c answer, K false [.stored c answer]) :
    (openVault site config request).Keeps K := by
  refine .bind steady (.ofExcept steady _) fun _ => ?_
  refine .bind steady (.askStorage steady (asks _) (answers _)) fun content => ?_
  refine .bind steady (.ofExcept steady _) fun vault => ?_
  split
  · exact .fail steady _
  · exact .done steady _

section

variable {vault : Vault} (opens : ∀ family setup bytes (r : Round),
  share vault family = .ok bytes →
    (Session.withSession site family (.sign setup vault.localPartyId bytes) (r.run site)).Keeps K)

include plain opens

/-- Signing opens sessions with the vault's shares only. -/
theorem attempt_keeps (committee : List String) (m : KeysignMessage) :
    (attempt site config request vault committee m).Keeps K := by
  refine .bind steady (.ofExcept steady _) fun scope => ?_
  refine .bind_ofExcept steady fun share held => ?_
  refine .bind steady (Round.fetchSetup_keeps steady plain _) fun setup => ?_
  exact .bind steady (opens _ _ _ _ held) fun raw => .ofExcept steady _

include records

theorem attempts_keeps (committee : List String) (m : KeysignMessage) :
    (attempts site config request vault committee m).Keeps K := by
  unfold attempts
  cases h : config.timeouts.keysignRetry? with
  | none => exact .overflow steady
  | some policy =>
      have tries := RetryPolicy.run_keeps (Timeouts.maxAttempts_pos h) (label m) steady
        (fun _ => records _ trivial) fun (_ : Nat) =>
          attempt_keeps steady plain config request opens committee m
      refine .bind steady (.attempt tries) fun result => ?_
      cases result with
      | ok response => exact .bind steady (.record (records _ trivial)) fun _ => .done steady _
      | error e => exact .bind steady (.record (records _ trivial)) fun _ => .fail steady _

theorem signAll_keeps (committee : List String) (messages : List KeysignMessage)
    (results : KeysignResults) :
    (signAll site config request vault committee messages results).Keeps K := by
  induction messages generalizing results with
  | nil => exact .done steady _
  | cons m rest ih =>
      refine .bind steady (attempts_keeps steady plain records config request opens _ _) fun _ => ?_
      have asks (family : Family) (q : Engine.Query) (answer : Except Error Bytes) :
          K false [.query family q answer] := plain _ ⟨trivial, not_false, not_false⟩
      exact .bind steady (verify_keeps steady request asks records _ _ _) fun _ => ih _

omit plain records
include calm

/-- Signing with an open vault keeps what its sessions keep. -/
theorem signing_keeps : (signing site config request vault).Keeps K := by
  have plain (e : Event) (h : e.Plain) := calm e h.1
  have records (e : Event) (h : e.Record) := calm e h.calm.1
  refine .bind steady (gather_keeps steady plain config request vault) fun committee => ?_
  refine .bind steady (signAll_keeps steady plain records config request opens _ _ _)
    fun results => ?_
  exact .bind steady (.attempt (askRelay_keeps steady calm _)) fun _ => .done steady _

end

include calm sessions

theorem signMessages_keeps : (signMessages site config request).Keeps K := by
  have opening : (openVault site config request).Keeps K :=
    openVault_keeps steady config request (fun _ => calm _ trivial) fun _ _ => calm _ trivial
  refine .bind steady (.ofExcept steady _) fun _ => ?_
  refine .bind steady opening fun vault => ?_
  exact signing_keeps steady calm config request fun _ _ _ _ _ => sessions _ _ _

end Keysign

end

end QuorumVault
