/-
Nothing is touched before its checks have passed.

Each stage of a ceremony begins with what the one before it has left, so nothing of a stage
happens unless everything before it has come out well, and what stands in the way of a stage
is how the ceremony fails.

`Opens` has one case for each way in which opening the vault comes out, and `Comes` one for
each way of a whole ceremony; `Admits` lists what follows for the log.
-/
import QuorumVault.Proofs.Ceremony.Meeting
import QuorumVault.Proofs.Ceremony.Reopening
import QuorumVault.Proofs.Request.Keysign

namespace QuorumVault

open Run

variable {ε ρ σ : Type}

/-! ### Signing -/

namespace Keysign

variable {config : EngineConfig} {request : KeysignRequest} {vault : Vault}

/-- The request passes, and the name of its vault is one for a backup. -/
structure Proper (request : KeysignRequest) : Prop where
  valid : request.check = .ok ()
  named : ∃ name, BackupName.ofText (nameOf request) = .ok name

/-- The failure of a vault that has another key. -/
def foreign (request : KeysignRequest) : Error :=
  .of .validation
    ("vault " ++ nameOf request ++ " does not belong to public key " ++ request.publicKey)

/-- What is made of the storage's answer: a vault that is opened and has the request's key. -/
def openAnswer (config : EngineConfig) (request : KeysignRequest) :
    Except Error Bytes → Except Error Vault
  | .error e => .error e
  | .ok content =>
    match Container.openBytes content config.encryptionSecret with
    | .error fault => .error fault.error
    | .ok vault =>
      if vault.publicKeyEcdsa = request.publicKey then .ok vault else .error (foreign request)

theorem openAnswer_eq_ok {answer : Except Error Bytes} :
    openAnswer config request answer = .ok vault ↔ ∃ content, answer = .ok content ∧
      Container.openBytes content config.encryptionSecret = .ok vault ∧
      vault.publicKeyEcdsa = request.publicKey := by
  cases answer with
  | error e => simp [openAnswer]
  | ok content =>
      cases opened : Container.openBytes content config.encryptionSecret with
      | error fault => simp [openAnswer, opened]
      | ok v =>
          by_cases key : v.publicKeyEcdsa = request.publicKey
          · simp only [openAnswer, opened, if_pos key, Except.ok.injEq]
            constructor
            · rintro rfl
              exact ⟨content, rfl, opened, key⟩
            · rintro ⟨_, rfl, opened', -⟩
              exact Except.ok.inj (opened.symm.trans opened')
          · simp only [openAnswer, opened, if_neg key, reduceCtorEq, false_iff]
            rintro ⟨_, ⟨⟩, opened', key'⟩
            cases opened.symm.trans opened'
            exact key key'

/-- How opening the vault of a request comes out and what it logs. -/
inductive Opens (config : EngineConfig) (request : KeysignRequest) :
    Ending Vault → List Event → Prop
  | invalid {fault} (h : request.check = .error fault) :
      Opens config request (.failed fault.error) []
  | misnamed {fault} (valid : request.check = .ok ())
      (h : BackupName.ofText (nameOf request) = .error fault) :
      Opens config request (.failed fault.error) []
  | loading {e} (proper : Proper request) (waits : e.Waits) :
      Opens config request e [.storing (.load (nameOf request))]
  | refused {answer e} (proper : Proper request) (h : openAnswer config request answer = .error e) :
      Opens config request (.failed e)
        [.storing (.load (nameOf request)), .stored (.load (nameOf request)) answer]
  | opened {answer vault} (proper : Proper request)
      (h : openAnswer config request answer = .ok vault) : Opens config request (.done vault)
        [.storing (.load (nameOf request)), .stored (.load (nameOf request)) answer]

theorem openVault_opens (site : Site ε ρ σ) (config : EngineConfig) {request : KeysignRequest}
    (valid : request.check = .ok ()) :
    (openVault site config request).Logs (Opens config request) := by
  refine checked_logs (fun _ => .misnamed valid) fun name parsed => ?_
  have proper : Proper request := ⟨valid, name, parsed⟩
  refine asks_logs (askStorage_logs site _) (fun _ => .loading proper) (fun _ => .refused proper rfl)
    fun content => ?_
  refine checked_logs (fun fault unopened => ?_) fun vault opened => ?_
  · exact .refused proper (by simp [openAnswer, unopened])
  · by_cases key : vault.publicKeyEcdsa = request.publicKey
    · rw [if_neg (not_not_intro key)]
      exact fun _ w => ⟨[], .refl w, .opened proper (by simp [openAnswer, opened, key])⟩
    · rw [if_pos key]
      exact fun _ w => ⟨[], .refl w, .refused proper (by simp [openAnswer, opened, key, foreign])⟩

/-- The vault was loaded under the request's name and opened, and it has the request's key. -/
def Loaded (config : EngineConfig) (request : KeysignRequest) (vault : Vault) (log : List Event) :
    Prop :=
  ∃ content, .stored (.load (nameOf request)) (.ok content) ∈ log ∧
    Container.openBytes content config.encryptionSecret = .ok vault ∧
    vault.publicKeyEcdsa = request.publicKey

/-- Something is wrong with the request or with the stored vault, and this is how signing fails. -/
inductive Unopened (config : EngineConfig) (request : KeysignRequest) (log : List Event) :
    Error → Prop
  | invalid {fault} (h : request.check = .error fault) : Unopened config request log fault.error
  | misnamed {fault} (valid : request.check = .ok ())
      (h : BackupName.ofText (nameOf request) = .error fault) :
      Unopened config request log fault.error
  | unloaded {e} (answered : .stored (.load (nameOf request)) (.error e) ∈ log) :
      Unopened config request log e
  | unopened {content fault} (answered : .stored (.load (nameOf request)) (.ok content) ∈ log)
      (h : Container.openBytes content config.encryptionSecret = .error fault) :
      Unopened config request log fault.error
  | foreign {content vault} (answered : .stored (.load (nameOf request)) (.ok content) ∈ log)
      (h : Container.openBytes content config.encryptionSecret = .ok vault)
      (other : vault.publicKeyEcdsa ≠ request.publicKey) :
      Unopened config request log (foreign request)

theorem Loaded.transfer {log log' : List Event} (h : Loaded config request vault log)
    (within : Stage.opening.Within log log') : Loaded config request vault log' := by
  obtain ⟨content, answered, opened⟩ := h
  exact ⟨content, within _ rfl answered, opened⟩

theorem Unopened.transfer {e : Error} {log log' : List Event} (h : Unopened config request log e)
    (within : Stage.opening.Within log log') : Unopened config request log' e := by
  cases h with
  | invalid invalid => exact .invalid invalid
  | misnamed valid misnamed => exact .misnamed valid misnamed
  | unloaded answered => exact .unloaded (within _ rfl answered)
  | unopened answered unopened => exact .unopened (within _ rfl answered) unopened
  | foreign answered opened other => exact .foreign (within _ rfl answered) opened other

/-- Nothing is wrong with a proper request but what the storage answers. -/
theorem Unopened.refused {e : Error} {log : List Event} (h : Unopened config request log e)
    (proper : Proper request) : ∃ answer, .stored (.load (nameOf request)) answer ∈ log ∧
      openAnswer config request answer = .error e := by
  obtain ⟨valid, name, named⟩ := proper
  cases h with
  | invalid invalid => cases valid.symm.trans invalid
  | misnamed _ misnamed => cases named.symm.trans misnamed
  | unloaded answered => exact ⟨_, answered, rfl⟩
  | unopened answered unopened => exact ⟨_, answered, by simp [openAnswer, unopened]⟩
  | foreign answered opened other => exact ⟨_, answered, by simp [openAnswer, opened, other]⟩

namespace Opens

variable {e : Ending Vault} {log : List Event}

theorem stage (h : Opens config request e log) : AllOf .opening log := by
  cases h <;> simp [AllOf, Event.stage, Storage.Call.stage]

theorem nodup (h : Opens config request e log) : log.Nodup := by
  cases h <;> simp

theorem proper {ev : Event} (h : Opens config request e log) (mem : ev ∈ log) : Proper request := by
  cases h with
  | invalid | misnamed => cases mem
  | loading proper | refused proper | opened proper => exact proper

theorem loads (h : Opens config request e log) (proper : Proper request) :
    .storing (.load (nameOf request)) ∈ log := by
  obtain ⟨valid, name, named⟩ := proper
  cases h with
  | invalid invalid => cases valid.symm.trans invalid
  | misnamed _ misnamed => cases named.symm.trans misnamed
  | loading | refused | opened => simp

theorem loaded_of_done (h : Opens config request (.done vault) log) :
    Loaded config request vault log := by
  cases h with
  | loading _ waits => cases waits
  | opened _ opened =>
      obtain ⟨content, rfl, loaded⟩ := openAnswer_eq_ok.1 opened
      exact ⟨content, by simp, loaded⟩

theorem done_of_loaded (h : Opens config request e log) (loaded : Loaded config request vault log) :
    e = .done vault := by
  obtain ⟨content, answered, loaded⟩ := loaded
  have made : openAnswer config request (.ok content) = .ok vault :=
    openAnswer_eq_ok.2 ⟨content, rfl, loaded⟩
  cases h with
  | invalid | misnamed | loading => simp at answered
  | @refused answer _ _ refused =>
      obtain rfl : .ok content = answer := by simpa using answered
      cases made.symm.trans refused
  | @opened answer _ _ opened =>
      obtain rfl : .ok content = answer := by simpa using answered
      cases made.symm.trans opened
      rfl

theorem failed_of_unopened {err : Error} (h : Opens config request e log)
    (unopened : Unopened config request log err) : e = .failed err := by
  -- The storage answers a proper request once, and the answer decides how it goes on.
  have made (proper : Proper request) {answer : Except Error Bytes}
      (answered : ∀ answer', .stored (.load (nameOf request)) answer' ∈ log → answer' = answer) :
      openAnswer config request answer = .error err := by
    obtain ⟨answer', mem, refused⟩ := unopened.refused proper
    rwa [answered answer' mem] at refused
  cases h with
  | invalid invalid =>
      cases unopened with
      | invalid invalid' =>
          cases invalid.symm.trans invalid'
          rfl
      | misnamed valid => cases valid.symm.trans invalid
      | unloaded answered | unopened answered | foreign answered => cases answered
  | misnamed valid misnamed =>
      cases unopened with
      | invalid invalid => cases valid.symm.trans invalid
      | misnamed _ misnamed' =>
          cases misnamed.symm.trans misnamed'
          rfl
      | unloaded answered | unopened answered | foreign answered => cases answered
  | loading proper =>
      obtain ⟨_, answered, -⟩ := unopened.refused proper
      simp at answered
  | refused proper refused =>
      cases (made proper (by simp)).symm.trans refused
      rfl
  | opened proper opened => cases (made proper (by simp)).symm.trans opened

end Opens

/-- How signing comes out and what it logs, stage by stage. -/
inductive Comes (config : EngineConfig) (request : KeysignRequest) :
    Ending KeysignResults → List Event → Prop
  | unopened {e e' log} (opens : Opens config request e log) (stops : e.Stops e') :
      Comes config request e' log
  | opened {vault m rest e log log'} (opens : Opens config request (.done vault) log)
      (messages : request.messages = m :: rest)
      (gathers : Gathers request.sessionId vault.localPartyId config.timeouts.keysignSessionStart
        (some vault.signers) (Plays config request vault) config.timeouts.keysignRetry? (label m) e
        log') : Comes config request e (log ++ log')

theorem signMessages_comes (site : Site ε ρ σ) (config : EngineConfig) (request : KeysignRequest) :
    (signMessages site config request).Logs (Comes config request) := by
  rw [signMessages_eq_work]
  refine checked_logs (fun fault invalid => .unopened (.invalid invalid) (.failed _)) fun _ valid => ?_
  obtain ⟨m, rest, messages⟩ :=
    List.exists_cons_of_ne_nil (KeysignRequest.check_eq_ok_iff.1 valid).messages
  refine Logs.bind (openVault_opens site config valid) (fun vault =>
    meets_works site _ _ _ _ fun committee =>
      work_commences site config request vault committee messages) ?_ ?_
  · intro vault e log log' opens gathers
    exact .opened opens messages gathers
  · intro e e' log stops opens
    exact .unopened opens stops

/-- The members have met to sign with a vault. -/
abbrev HaveMet (config : EngineConfig) (request : KeysignRequest) (vault : Vault) :
    List String → List Event → Prop :=
  Met request.sessionId vault.localPartyId config.timeouts.keysignSessionStart (some vault.signers)

/-- They have failed to. -/
abbrev HaveNotMet (config : EngineConfig) (request : KeysignRequest) (vault : Vault) :
    List Event → Error → Prop :=
  Unmet request.sessionId vault.localPartyId config.timeouts.keysignSessionStart (some vault.signers)

/-- What signing may do, what it has to do, and how it fails, by what the storage and the relay
have answered. -/
structure Admits (config : EngineConfig) (request : KeysignRequest) (e : Ending KeysignResults)
    (log : List Event) : Prop where
  proper : ∀ ev ∈ log, Proper request
  relay : ∀ before c after, log = before ++ .asked c :: after →
    ∃ vault, Loaded config request vault before
  working : ∀ before ev after, log = before ++ ev :: after → ev.stage = .working →
    ∃ vault committee, Loaded config request vault before ∧
      HaveMet config request vault committee before
  loads : Proper request → .storing (.load (nameOf request)) ∈ log
  registers : ∀ vault, Loaded config request vault log →
    .asked (.register request.sessionId vault.localPartyId) ∈ log
  starts : ∀ vault, Loaded config request vault log →
    .answered (.register request.sessionId vault.localPartyId) (.ok ()) ∈ log →
      .asked (.start request.sessionId config.timeouts.keysignSessionStart) ∈ log
  /-- The first attempt at the first message is made, if the time for the attempts can be counted. -/
  attempts : ∀ vault committee m rest, Loaded config request vault log →
    HaveMet config request vault committee log → request.messages = m :: rest →
      config.timeouts.roundBudget config.timeouts.keysignRound / 1000 ≤ Duration.maxSeconds →
        .attempt (label m) 1 ∈ log
  /-- What does not pass is how signing fails, as it is, and nothing is asked for twice. -/
  fails : ∀ err, (Unopened config request log err ∨
      ∃ vault, Loaded config request vault log ∧ HaveNotMet config request vault log err) →
    e = .failed err ∧ Without .working log ∧ log.Nodup

namespace Comes

variable {e : Ending KeysignResults} {log before after : List Event} {ev : Event}

theorem proper (h : Comes config request e log) (mem : ev ∈ log) : Proper request := by
  cases h with
  | unopened opens => exact opens.proper mem
  | opened opens =>
      obtain ⟨content, answered, -⟩ := opens.loaded_of_done
      exact opens.proper answered

theorem relay (h : Comes config request e log) {c : Relay.Call}
    (split : log = before ++ .asked c :: after) : ∃ vault, Loaded config request vault before := by
  have apart : Stage.opening ≠ (Event.asked c).stage := by
    cases c <;> simp [Event.stage, Relay.Call.stage]
  cases h with
  | unopened opens => exact absurd rfl (opens.stage.without apart (.asked c) (by simp [split]))
  | @opened vault _ _ _ _ _ opens =>
      obtain ⟨rest, rfl, -⟩ := exists_before (opens.stage.without apart) split
      exact ⟨vault, opens.loaded_of_done.transfer (.of_subset (List.subset_append_left _ _))⟩

/-- Work is done with an open vault and those who have met; and what is done in a round is done in
an attempt that may do it. -/
theorem working (h : Comes config request e log) (split : log = before ++ ev :: after)
    (works : ev.stage = .working) : ∃ vault committee, Loaded config request vault before ∧
      HaveMet config request vault committee before ∧
        (ev.OfRound → ∃ label since, Underway label since before ∧
          Plays config request vault committee label since ev) := by
  have apart : Stage.opening ≠ ev.stage := by simp [works]
  cases h with
  | unopened opens => exact absurd rfl (opens.stage.without apart ev (by simp [split]))
  | @opened vault _ _ _ log _ opens _ gathers =>
      obtain ⟨rest, rfl, behind⟩ := exists_before (opens.stage.without apart) split
      obtain ⟨committee, met, plays⟩ := gathers.working behind works
      have loaded := opens.loaded_of_done.transfer (.of_subset (List.subset_append_left _ rest))
      have met := met.transfer (.of_subset (List.subset_append_right log _))
      refine ⟨vault, committee, loaded, met, fun ofRound => ?_⟩
      obtain ⟨label, since, underway, allowed⟩ := plays ofRound
      exact ⟨label, since, underway.append log, allowed⟩

theorem loads (h : Comes config request e log) (proper : Proper request) :
    .storing (.load (nameOf request)) ∈ log := by
  cases h with
  | unopened opens => exact opens.loads proper
  | opened opens => exact List.mem_append_left _ (opens.loads proper)

/-- Whatever vault was loaded, it was opened, and everything else is done with it. -/
theorem gathers (h : Comes config request e log) (loaded : Loaded config request vault log) :
    ∃ m rest early late, log = early ++ late ∧ Opens config request (.done vault) early ∧
      request.messages = m :: rest ∧ Gathers request.sessionId vault.localPartyId
        config.timeouts.keysignSessionStart (some vault.signers) (Plays config request vault)
        config.timeouts.keysignRetry? (label m) e late := by
  cases h with
  | unopened opens stops =>
      cases opens.done_of_loaded loaded
      cases stops
  | @opened _ m rest _ early late opens messages gathers =>
      have here := loaded.transfer (.of_right gathers.without_opening)
      cases opens.done_of_loaded here
      exact ⟨m, rest, early, late, rfl, opens, messages, gathers⟩

theorem fails {err : Error} (h : Comes config request e log)
    (unopened : Unopened config request log err) :
    e = .failed err ∧ Without .working log ∧ log.Nodup := by
  cases h with
  | unopened opens stops =>
      cases opens.failed_of_unopened unopened
      cases stops
      exact ⟨rfl, opens.stage.without nofun, opens.nodup⟩
  | opened opens _ gathers =>
      cases opens.failed_of_unopened (unopened.transfer (.of_right gathers.without_opening))

theorem fails_unmet {err : Error} (h : Comes config request e log)
    (loaded : Loaded config request vault log) (unmet : HaveNotMet config request vault log err) :
    e = .failed err ∧ Without .working log ∧ log.Nodup := by
  obtain ⟨m, rest, early, late, rfl, opens, -, gathers⟩ := h.gathers loaded
  have without : Without .meeting early := opens.stage.without nofun
  obtain ⟨failed, idle, nodup⟩ := gathers.fails (unmet.transfer (.of_left without))
  have still : Without .working early := opens.stage.without nofun
  refine ⟨failed, still.append idle, List.nodup_append.2 ⟨opens.nodup, nodup, ?_⟩⟩
  -- The parts of the log are of different stages, so nothing is in both of them.
  rintro ev mem _ mem' rfl
  exact gathers.without_opening ev mem' (opens.stage ev mem)

theorem admits (h : Comes config request e log) : Admits config request e log where
  proper _ := h.proper
  relay _ _ _ := h.relay
  working before ev after split works := by
    obtain ⟨vault, committee, loaded, met, -⟩ := h.working split works
    exact ⟨vault, committee, loaded, met⟩
  loads := h.loads
  registers vault loaded := by
    obtain ⟨m, rest, early, late, rfl, -, -, gathers⟩ := h.gathers loaded
    exact List.mem_append_right _ gathers.registers
  starts vault loaded registered := by
    obtain ⟨m, rest, early, late, rfl, opens, -, gathers⟩ := h.gathers loaded
    have without : Without .meeting early := opens.stage.without nofun
    exact List.mem_append_right _ (gathers.starts (Stage.Within.of_left without _ rfl registered))
  attempts vault committee m rest loaded met messages countable := by
    obtain ⟨m', rest', early, late, rfl, opens, messages', gathers⟩ := h.gathers loaded
    obtain ⟨rfl, rfl⟩ := List.cons.inj (messages.symm.trans messages')
    have without : Without .meeting early := opens.stage.without nofun
    obtain ⟨policy, counted⟩ := Timeouts.exists_retry countable
    exact List.mem_append_right _ (gathers.attempts (met.transfer (.of_left without)) counted)
  fails err := by
    rintro (unopened | ⟨vault, loaded, unmet⟩)
    · exact h.fails unopened
    · exact h.fails_unmet loaded unmet

end Comes

end Keysign

/-! ### Creating a vault -/

namespace Keygen

variable {config : EngineConfig} {request : KeygenRequest}

/-- How creating a vault comes out and what it logs, stage by stage. -/
inductive Comes (config : EngineConfig) (request : KeygenRequest) :
    Ending (String × String) → List Event → Prop
  | invalid {fault} (h : request.check = .error fault) :
      Comes config request (.failed fault.error) []
  | valid {e log} (valid : request.check = .ok ())
      (gathers : Gathers request.sessionId request.localPartyId config.timeouts.keygenSessionStart
        none (Plays config request) config.timeouts.keygenRetry? (label .ecdsa) e log) :
      Comes config request e log

theorem createVault_comes (site : Site ε ρ σ) (config : EngineConfig) (request : KeygenRequest) :
    (createVault site config request).Logs (Comes config request) := by
  rw [createVault_eq_work]
  refine checked_logs (fun _ => .invalid) fun _ valid => ?_
  have gathers := meets_works site request.sessionId request.localPartyId
    config.timeouts.keygenSessionStart none (work_commences site config request)
  exact gathers.mono fun _ _ => .valid valid

/-- The members have met to create a vault. -/
abbrev HaveMet (config : EngineConfig) (request : KeygenRequest) :
    List String → List Event → Prop :=
  Met request.sessionId request.localPartyId config.timeouts.keygenSessionStart none

/-- They have failed to. -/
abbrev HaveNotMet (config : EngineConfig) (request : KeygenRequest) : List Event → Error → Prop :=
  Unmet request.sessionId request.localPartyId config.timeouts.keygenSessionStart none

/-- What creating a vault may do, what it has to do, and how it fails, by what the relay has
answered. -/
structure Admits (config : EngineConfig) (request : KeygenRequest) (e : Ending (String × String))
    (log : List Event) : Prop where
  valid : ∀ ev ∈ log, request.check = .ok ()
  working : ∀ before ev after, log = before ++ ev :: after → ev.stage = .working →
    ∃ committee, HaveMet config request committee before
  registers : request.check = .ok () →
    .asked (.register request.sessionId request.localPartyId) ∈ log
  starts : .answered (.register request.sessionId request.localPartyId) (.ok ()) ∈ log →
    .asked (.start request.sessionId config.timeouts.keygenSessionStart) ∈ log
  /-- The first attempt at the first round is made, if the time for the attempts can be counted. -/
  attempts : ∀ committee, HaveMet config request committee log →
    config.timeouts.roundBudget config.timeouts.keygenRound / 1000 ≤ Duration.maxSeconds →
      .attempt (label .ecdsa) 1 ∈ log
  /-- What does not pass is how creating the vault fails, as it is, and nothing is asked for twice. -/
  fails : ∀ err, ((∃ fault, request.check = .error fault ∧ err = fault.error) ∨
      HaveNotMet config request log err) →
    e = .failed err ∧ Without .working log ∧ log.Nodup

namespace Comes

variable {e : Ending (String × String)} {log before after : List Event} {ev : Event}

/-- Work is done with those who have met; and what is done in a round is done in an attempt that may
do it. -/
theorem working (h : Comes config request e log) (split : log = before ++ ev :: after)
    (works : ev.stage = .working) : ∃ committee, HaveMet config request committee before ∧
      (ev.OfRound → ∃ label since, Underway label since before ∧
        Plays config request committee label since ev) := by
  cases h with
  | invalid => simp at split
  | valid _ gathers => exact gathers.working split works

/-- Whatever happens, the members gather, and the request is a valid one. -/
theorem gathers (h : Comes config request e log) (valid : request.check = .ok ()) :
    Gathers request.sessionId request.localPartyId config.timeouts.keygenSessionStart none
      (Plays config request) config.timeouts.keygenRetry? (label .ecdsa) e log := by
  cases h with
  | invalid invalid => cases valid.symm.trans invalid
  | valid _ gathers => exact gathers

theorem valid_of_mem (h : Comes config request e log) (mem : ev ∈ log) :
    request.check = .ok () := by
  cases h with
  | invalid => cases mem
  | valid valid => exact valid

theorem admits (h : Comes config request e log) : Admits config request e log where
  valid _ := h.valid_of_mem
  working before ev after split works := by
    obtain ⟨committee, met, -⟩ := h.working split works
    exact ⟨committee, met⟩
  registers valid := (h.gathers valid).registers
  starts registered := (h.gathers (h.valid_of_mem registered)).starts registered
  attempts committee met countable := by
    obtain ⟨policy, counted⟩ := Timeouts.exists_retry countable
    exact (h.gathers (h.valid_of_mem met.registered)).attempts met counted
  fails err := by
    rintro (⟨fault, invalid, rfl⟩ | unmet)
    · cases h with
      | invalid invalid' =>
          cases invalid.symm.trans invalid'
          exact ⟨rfl, nofun, List.nodup_nil⟩
      | valid valid => cases valid.symm.trans invalid
    · obtain ⟨ev, mem⟩ := unmet.exists_mem
      exact (h.gathers (h.valid_of_mem mem)).fails unmet

end Comes

end Keygen

/-- Both ceremonies touch nothing before its checks have passed: they do what they may, have to do
what can be done, and fail as the checks do. -/
theorem ceremonies_admitted (site : Site ε ρ σ) (config : EngineConfig) :
    (∀ request, (Keysign.signMessages site config request).Logs (Keysign.Admits config request)) ∧
      ∀ request, (Keygen.createVault site config request).Logs (Keygen.Admits config request) := by
  constructor
  · intro request
    exact (Keysign.signMessages_comes site config request).mono fun _ _ comes => comes.admits
  · intro request
    exact (Keygen.createVault_comes site config request).mono fun _ _ comes => comes.admits

end QuorumVault
