/-
What is done once the members have met.

A ceremony comes in stages, and every event belongs to one of them.  In the first one
the stored vault is opened, which signing does and creating a vault does not; in the second
one the members meet; in the third one the work is done.

The work is done in attempts at rounds, and what happens in a round stands behind the
beginning of the attempt it is part of, with no other attempt begun in between.  `Works`
says so of a log and survives composition, because it looks no further back than that.  The
work begins with the first attempt at the first round.
-/
import QuorumVault.Proofs.Ceremony.Tries

namespace QuorumVault

open Run

variable {ε ρ σ α β : Type}

/-! ### Stages -/

/-- The stages of a ceremony. -/
inductive Stage where
  | opening
  | meeting
  | working

/-- The stage that a call to the relay belongs to. -/
def Relay.Call.stage : Relay.Call → Stage
  | .register .. | .start .. => .meeting
  | .setup .. | .upload .. | .download .. | .delete .. | .complete .. | .completed .. => .working

/-- The stage that a call to the storage belongs to. -/
def Storage.Call.stage : Storage.Call → Stage
  | .load _ => .opening
  | .save .. => .working

/-- The stage that an event belongs to. -/
def Event.stage : Event → Stage
  | .asked c | .answered c _ => c.stage
  | .storing c | .stored c _ => c.stage
  | .engine .. | .query .. | .noted _ | .queued .. | .attempt .. => .working

/-- All events are of one stage. -/
abbrev AllOf (stage : Stage) (log : List Event) : Prop :=
  ∀ e ∈ log, e.stage = stage

theorem Event.Busy.stage {r : Round} {e : Event} (busy : e.Busy) (call : e.Calls r.Owns) :
    e.stage = .working := by
  cases e with
  | asked c | answered c =>
      cases c with
      | register | start | complete | completed => cases call
      | setup | upload | download | delete => rfl
  | engine | query => rfl
  | storing | stored | noted | queued | attempt => cases busy

/-- What is done in an attempt is work. -/
theorem Round.Own.stage {r : Round} {log : List Event} (h : r.Own log) : AllOf .working log := by
  intro e mem
  obtain ⟨before, after, split⟩ := List.append_of_mem mem
  exact (h.busy e mem).stage (h.apart before e after split).call

/-! ### Attempts under way -/

/-- The call is about a round. -/
def Relay.Call.OfRound : Relay.Call → Prop
  | .setup .. | .upload .. | .download .. | .delete .. => True
  | .register .. | .start .. | .complete .. | .completed .. => False

/-- A session of an engine is used, or the relay is called about a round. -/
def Event.OfRound : Event → Prop
  | .engine .. => True
  | .asked c | .answered c _ => c.OfRound
  | .query .. | .storing _ | .stored .. | .noted _ | .queued .. | .attempt .. => False

/-- An attempt is under way, and this has happened since it began. -/
def Underway (label : String) (since before : List Event) : Prop :=
  ∃ earlier number, before = earlier ++ .attempt label number :: since ∧
    ∀ e ∈ since, e.begun? = none

theorem Underway.append {label : String} {since before : List Event}
    (h : Underway label since before) (earlier : List Event) :
    Underway label since (earlier ++ before) := by
  obtain ⟨earlier', number, rfl, unbegun⟩ := h
  exact ⟨earlier ++ earlier', number, by simp, unbegun⟩

/-- Work is done.  `Q` is what an attempt may do in its round, given its label and what it has done
so far. -/
structure Works (Q : String → List Event → Event → Prop) (log : List Event) : Prop where
  stage : AllOf .working log
  underway : ∀ before e after, log = before ++ e :: after → e.OfRound →
    ∃ label since, Underway label since before ∧ Q label since e

namespace Works

variable {Q : String → List Event → Event → Prop} {log log' : List Event}

theorem append (h : Works Q log) (h' : Works Q log') : Works Q (log ++ log') where
  stage := List.forall_mem_append.2 ⟨h.stage, h'.stage⟩
  underway before e after split inRound := by
    rcases split_append split with ⟨rest, first, -⟩ | ⟨rest, rfl, second⟩
    · exact h.underway before e rest first inRound
    · obtain ⟨label, since, underway, allowed⟩ := h'.underway rest e after second inRound
      exact ⟨label, since, underway.append log, allowed⟩

theorem steady (Q : String → List Event → Event → Prop) : Steady fun _ log => Works Q log where
  nil := by
    refine ⟨nofun, fun before e after split => ?_⟩
    simp at split
  append := .append
  unended := id

theorem singleton {e : Event} (stage : e.stage = .working) (apart : ¬e.OfRound) : Works Q [e] where
  stage := List.forall_mem_singleton.2 stage
  underway before e' after split inRound := by
    have mem : e' ∈ [e] := by
      rw [split]
      simp
    rw [List.mem_singleton.1 mem] at inRound
    exact absurd inRound apart

/-- An attempt does what is its round's own. -/
theorem attempt {r : Round} (own : r.Own log) {label : String} (number : Nat)
    (allowed : ∀ since e, r.OwnsAt since e → Q label since e) :
    Works Q (.attempt label number :: log) where
  stage := List.forall_mem_cons.2 ⟨rfl, own.stage⟩
  underway before e after split inRound := by
    cases before with
    | nil =>
        -- The beginning of an attempt is no part of the round.
        obtain ⟨rfl, -⟩ := List.cons.inj split
        cases inRound
    | cons first since =>
        obtain ⟨rfl, behind⟩ := List.cons.inj split
        refine ⟨label, since, ⟨[], number, rfl, ?_⟩, allowed _ _ (own.apart since e after behind)⟩
        intro e' mem
        refine (own.busy e' ?_).not_begun
        rw [behind]
        exact List.mem_append_left _ mem

theorem record {e : Event} (h : e.Record) : Works Q [e] := by
  cases e with
  | noted | attempt => exact singleton rfl not_false
  | engine | query | asked | answered | storing | stored | queued => cases h

theorem askRelay (site : Site ε ρ σ) {c : Relay.Call} (stage : c.stage = .working)
    (apart : ¬c.OfRound) : (Run.askRelay site c).Keeps fun _ log => Works Q log :=
  .askRelay (steady Q) (singleton stage apart) fun _ => singleton stage apart

end Works

/-! ### The first attempt -/

/-- Work is done, and if there is a policy, the first attempt at something is made first of all. -/
structure Commences (Q : String → List Event → Event → Prop) (policy? : Option RetryPolicy)
    (label : String) (log : List Event) : Prop where
  works : Works Q log
  first : ∀ policy, policy? = some policy → ∃ rest, log = .attempt label 1 :: rest

namespace Commences

variable {Q : String → List Event → Event → Prop} {policy? : Option RetryPolicy} {label : String}

theorem bind {m : Run ε ρ σ α} {f : α → Run ε ρ σ β}
    (first : m.Keeps fun _ log => Commences Q policy? label log)
    (after : ∀ x, (f x).Keeps fun _ log => Works Q log) :
    (m >>= f).Keeps fun _ log => Commences Q policy? label log := by
  refine Logs.bind first after ?_ fun _ _ _ _ commences => commences
  intro x e log log' commences works
  refine ⟨commences.works.append works, fun policy h => ?_⟩
  obtain ⟨rest, rfl⟩ := commences.first policy h
  exact ⟨rest ++ log', rfl⟩

theorem overflow : (Run.overflow : Run ε ρ σ α).Keeps fun _ log => Commences Q none label log :=
  (Keeps.overflow (Works.steady Q)).mono fun _ _ works => ⟨works, nofun⟩

/-- The attempts that a policy makes begin with the first one and are work, if each of them is. -/
theorem run {policy : RetryPolicy} (pos : 0 < policy.maxAttempts) {op : Nat → Run ε ρ σ α}
    (h : ∀ n, (op n).Logs fun _ log => ∀ number, Works Q (.attempt label number :: log)) :
    (policy.run label op).Keeps fun _ log => Commences Q (some policy) label log := by
  have works : (policy.run label op).Keeps fun _ log => Works Q log :=
    (RetryPolicy.run_logs pos label h).mono fun _ _ attempts =>
      attempts.keeps_each (Works.steady Q) fun number _ _ each => each number
  exact (works.and (RetryPolicy.run_begins pos label h)).mono fun _ _ both =>
    ⟨both.1, fun _ _ => both.2⟩

end Commences

/-! ### Creating a vault -/

namespace Keygen

variable (site : Site ε ρ σ) (config : EngineConfig) (request : KeygenRequest)
  (committee : List String)

/-- What an attempt with a label may do behind what it has done: what is its round's own. -/
def Plays (label : String) (since : List Event) (e : Event) : Prop :=
  ∃ family, label = Keygen.label family ∧ (round config request committee family).OwnsAt since e

theorem attempts_commence (family : Family) : (attempts site config request committee family).Keeps
    fun _ log => Commences (Plays config request committee) config.timeouts.keygenRetry? (label family)
      log := by
  have steady := Works.steady (Plays config request committee)
  unfold attempts
  cases h : config.timeouts.keygenRetry? with
  | none => exact Commences.overflow
  | some policy =>
      have each (_ : Nat) : (attempt site config request committee family).Logs fun _ log =>
          ∀ number, Works (Plays config request committee) (.attempt (label family) number :: log) := by
        refine (attempt_own site config request committee family).mono ?_
        intro _ log own number
        exact .attempt own number fun since e owns => ⟨family, rfl, owns⟩
      have tried := Keeps.attempt (Commences.run (Timeouts.maxAttempts_pos h) each)
      refine Commences.bind tried fun result => ?_
      cases result with
      | ok outcome => exact .bind steady (.record (.record trivial)) fun _ => .done steady _
      | error e => exact .bind steady (.record (.record trivial)) fun _ => .fail steady _

/-- What is done once the members have met. -/
def work : Run ε ρ σ (String × String) := do
  let ecdsa ← attempts site config request committee .ecdsa
  Run.wait (some config.timeouts.settleDelay.pause)
  let eddsa ← attempts site config request committee .eddsa
  leave site request committee
  let createdAt := site.calendar (← Run.now)
  let vault ← Run.ofExcept ((vault request committee ecdsa eddsa createdAt).mapError ShareFault.error)
  let container := Container.ofVault vault request.encryptionPassword (← Run.nonce site)
  let fileName := (BackupName.mk request.pluginId vault.publicKeyEcdsa).text
  Run.askStorage site (.save fileName container.text)
  sendBackup site config request fileName container.text
  return (ecdsa.publicKey, eddsa.publicKey)

/-- A vault is created in three steps: the request is checked, the members meet, and they work. -/
theorem createVault_eq_work : createVault site config request =
    Run.ofExcept (request.check.mapError RequestFault.error) >>= fun _ =>
      gather site config request >>= work site config request := rfl

theorem leave_works {Q : String → List Event → Event → Prop} :
    (leave site request committee).Keeps fun _ log => Works Q log := by
  have steady := Works.steady Q
  refine .bind steady (.attempt (Works.askRelay site rfl not_false)) fun _ => ?_
  exact .bind steady (.attempt (Works.askRelay site rfl not_false)) fun _ => .done steady _

theorem sendBackup_works {Q : String → List Event → Event → Prop} (fileName content : String) :
    (sendBackup site config request fileName content).Keeps fun _ log => Works Q log := by
  unfold sendBackup
  cases emailTask? site config request fileName content with
  | none => exact .done (Works.steady Q) _
  | some task => exact .record (.singleton rfl not_false)

/-- The first attempt is made at the key for ECDSA. -/
theorem work_commences : (work site config request committee).Keeps fun _ log =>
    Commences (Plays config request committee) config.timeouts.keygenRetry? (label .ecdsa) log := by
  have steady := Works.steady (Plays config request committee)
  have eddsa := (attempts_commence site config request committee .eddsa).mono fun _ _ h => h.works
  refine Commences.bind (attempts_commence site config request committee .ecdsa) fun _ => ?_
  refine .bind steady (.wait steady _) fun _ => ?_
  refine .bind steady eddsa fun _ => ?_
  refine .bind steady (leave_works site request committee) fun _ => ?_
  refine .bind steady (.now steady) fun _ => ?_
  refine .bind steady (.ofExcept steady _) fun _ => ?_
  refine .bind steady (.nonce steady) fun _ => ?_
  refine .bind steady (.askStorage steady (.singleton rfl not_false) fun _ => .singleton rfl not_false)
    fun _ => ?_
  exact .bind steady (sendBackup_works site config request _ _) fun _ => .done steady _

end Keygen

/-! ### Signing -/

namespace Keysign

variable (site : Site ε ρ σ) (config : EngineConfig) (request : KeysignRequest) (vault : Vault)
  (committee : List String)

/-- What an attempt with a label may do behind what it has done: what is its round's own. -/
def Plays (label : String) (since : List Event) (e : Event) : Prop :=
  ∃ m ∈ request.messages, label = Keysign.label m ∧ ∃ scope, m.scope = .ok scope ∧
    (round config request vault committee scope).OwnsAt since e

theorem attempts_commence {m : KeysignMessage} (mem : m ∈ request.messages) :
    (attempts site config request vault committee m).Keeps fun _ log =>
      Commences (Plays config request vault committee) config.timeouts.keysignRetry? (label m) log := by
  have steady := Works.steady (Plays config request vault committee)
  unfold attempts
  cases h : config.timeouts.keysignRetry? with
  | none => exact Commences.overflow
  | some policy =>
      have each (_ : Nat) : (attempt site config request vault committee m).Logs fun _ log =>
          ∀ number, Works (Plays config request vault committee) (.attempt (label m) number :: log) := by
        refine (attempt_own site config request vault committee m).mono ?_
        rintro _ log (rfl | ⟨scope, named, own⟩) number
        · exact .singleton rfl not_false
        · exact .attempt own number fun since e owns => ⟨m, mem, rfl, scope, named, owns⟩
      have tried := Keeps.attempt (Commences.run (Timeouts.maxAttempts_pos h) each)
      refine Commences.bind tried fun result => ?_
      cases result with
      | ok response => exact .bind steady (.record (.record trivial)) fun _ => .done steady _
      | error e => exact .bind steady (.record (.record trivial)) fun _ => .fail steady _

theorem verify_works {Q : String → List Event → Event → Prop} (m : KeysignMessage)
    (response : KeysignResponse) :
    (verify site request vault m response).Keeps fun _ log => Works Q log :=
  verify_keeps (Works.steady Q) request (fun _ _ _ => .singleton rfl not_false)
    (fun _ record => .record record) vault m response

theorem signAll_works {messages : List KeysignMessage} (among : messages ⊆ request.messages)
    (results : KeysignResults) :
    (signAll site config request vault committee messages results).Keeps fun _ log =>
      Works (Plays config request vault committee) log := by
  have steady := Works.steady (Plays config request vault committee)
  induction messages generalizing results with
  | nil => exact .done steady _
  | cons m rest ih =>
      obtain ⟨mem, among⟩ := List.cons_subset.1 among
      have tried := (attempts_commence site config request vault committee mem).mono fun _ _ h => h.works
      refine .bind steady tried fun response => ?_
      refine .bind steady (verify_works site request vault m response) fun _ => ?_
      exact ih among _

/-- What is done once the members have met. -/
def work : Run ε ρ σ KeysignResults := do
  let results ← signAll site config request vault committee request.messages .empty
  let _ ← Run.attempt (Run.askRelay site (.complete request.sessionId vault.localPartyId))
  return results

/-- Messages are signed in four steps: the request is checked, the vault is opened, the members
meet, and they work. -/
theorem signMessages_eq_work : signMessages site config request =
    Run.ofExcept (request.check.mapError RequestFault.error) >>= fun _ =>
      openVault site config request >>= fun vault =>
        gather site config request vault >>= work site config request vault := rfl

/-- The first attempt is made at the first message. -/
theorem work_commences {m : KeysignMessage} {rest : List KeysignMessage}
    (messages : request.messages = m :: rest) :
    (work site config request vault committee).Keeps fun _ log =>
      Commences (Plays config request vault committee) config.timeouts.keysignRetry? (label m) log := by
  have steady := Works.steady (Plays config request vault committee)
  have ⟨mem, among⟩ : m ∈ request.messages ∧ rest ⊆ request.messages := by
    rw [messages]
    exact ⟨List.mem_cons_self, List.subset_cons_self m rest⟩
  unfold work
  rw [messages, signAll, bind_bind]
  refine Commences.bind (attempts_commence site config request vault committee mem) fun response => ?_
  rw [bind_bind]
  refine .bind steady (verify_works site request vault m response) fun _ => ?_
  refine .bind steady (signAll_works site config request vault committee among _) fun results => ?_
  exact .bind steady (.attempt (Works.askRelay site rfl not_false)) fun _ => .done steady _

end Keysign

end QuorumVault
