/-
Signing messages answers each or none.

If messages are signed, the responses stand under the names of the messages, each made
of what an engine gave for its own message, and putting them in order finds them all.
The relay is told of the end once, last of all, and what it says to that changes nothing.
If one message cannot be signed, there is no response at all, no session is opened for the
messages behind it, and the relay is told nothing.
-/
import QuorumVault.Proofs.Ceremony.Reopening
import QuorumVault.Proofs.Ceremony.Signing
import QuorumVault.Proofs.Request.Keysign
import QuorumVault.Proofs.Request.Responses

namespace QuorumVault

open Run

variable {ε ρ σ : Type}

namespace Keysign

/-! ### Results -/

/-- The responses to messages that were signed, on top of those there are. -/
def collect (results : KeysignResults) (signings : List Signing) : KeysignResults :=
  signings.foldl (fun results s => results.insert s.message.hash s.response) results

/-- Responses under new names leave those there are, and stand behind them. -/
theorem collect_spec {results : KeysignResults} {signings : List Signing}
    (nodup : (signings.map (·.message.hash)).Nodup)
    (new : ∀ s ∈ signings, s.message.hash ∉ results.names) :
    (collect results signings).names = results.names ++ signings.map (·.message.hash) ∧
      (∀ s ∈ signings, (collect results signings).get? s.message.hash = some s.response) ∧
      ∀ name, name ∉ signings.map (·.message.hash) →
        (collect results signings).get? name = results.get? name := by
  induction signings generalizing results with
  | nil => exact ⟨(List.append_nil _).symm, nofun, fun _ _ => rfl⟩
  | cons s rest ih =>
      obtain ⟨apart, nodup⟩ := List.nodup_cons.1 nodup
      obtain ⟨this, later⟩ := List.forall_mem_cons.1 new
      have names := Dictionary.names_insert_of_not_mem this s.response
      have new' : ∀ s' ∈ rest, s'.message.hash ∉ (results.insert s.message.hash s.response).names := by
        intro s' hs mem
        rw [names] at mem
        rcases List.mem_append.1 mem with mem | mem
        · exact later s' hs mem
        · exact apart (List.mem_map.2 ⟨s', hs, List.mem_singleton.1 mem⟩)
      obtain ⟨names', found, others⟩ := ih nodup new'
      refine ⟨?_, List.forall_mem_cons.2 ⟨?_, found⟩, ?_⟩
      · show (collect (results.insert s.message.hash s.response) rest).names = _
        rw [names', names, List.append_assoc]
        rfl
      · show (collect (results.insert s.message.hash s.response) rest).get? _ = _
        rw [others _ apart, Dictionary.get?_insert, if_pos rfl]
      · intro name absent
        rw [List.map_cons, List.mem_cons, not_or] at absent
        obtain ⟨other, absent⟩ := absent
        show (collect (results.insert s.message.hash s.response) rest).get? name = _
        rw [others name absent, Dictionary.get?_insert, if_neg other]

/-! ### Up to the last signature -/

variable {site : Site ε ρ σ} {config : EngineConfig} {request : KeysignRequest} {vault : Vault}
  {committee : List String} {limit : Option Time} {w w' : World ε ρ σ}

/-- The call that tells the relay of the end. -/
abbrev completeCall (request : KeysignRequest) (vault : Vault) : Relay.Call :=
  .complete request.sessionId vault.localPartyId

/-- Signing messages up to the last signature. -/
def signatures (site : Site ε ρ σ) (config : EngineConfig) (request : KeysignRequest) :
    Run ε ρ σ (Vault × KeysignResults) := do
  Run.ofExcept (request.check.mapError RequestFault.error)
  let vault ← openVault site config request
  let committee ← gather site config request vault
  let results ← signAll site config request vault committee request.messages .empty
  return (vault, results)

theorem signMessages_eq_signatures (site : Site ε ρ σ) (config : EngineConfig)
    (request : KeysignRequest) :
    signMessages site config request = signatures site config request >>= fun made =>
      Run.attempt (askRelay site (completeCall request made.1)) >>= fun _ => pure made.2 := by
  simp [signMessages, signatures]

/-- The vault is opened. -/
abbrev opened (request : KeysignRequest) (content : Bytes) : List Event :=
  [.storing (.load (nameOf request)), .stored (.load (nameOf request)) (.ok content)]

theorem openVault_eq_done (h : openVault site config request limit w = (.done vault, w')) :
    ∃ content, w.Since w' (opened request content) ∧
      Container.openBytes content config.encryptionSecret = .ok vault ∧
      vault.publicKeyEcdsa = request.publicKey := by
  obtain ⟨_, w₀, named, h⟩ := bind_eq_done h
  obtain ⟨-, rfl⟩ := ofExcept_eq_done named
  obtain ⟨content, w₁, loaded, h⟩ := bind_eq_done h
  obtain ⟨v, w₂, opens, h⟩ := bind_eq_done h
  obtain ⟨contained, rfl⟩ := ofExcept_eq_done opens
  by_cases other : v.publicKeyEcdsa ≠ request.publicKey
  · rw [if_pos other] at h
    cases h
  · rw [if_neg other] at h
    cases h
    exact ⟨content, askStorage_eq_done loaded, mapError_eq_ok contained, Decidable.not_not.1 other⟩

/-- The members meet. -/
abbrev gathered (config : EngineConfig) (request : KeysignRequest) (vault : Vault)
    (committee : List String) : List Event :=
  [.asked (.register request.sessionId vault.localPartyId),
    .answered (.register request.sessionId vault.localPartyId) (.ok ()),
    .asked (.start request.sessionId config.timeouts.keysignSessionStart),
    .answered (.start request.sessionId config.timeouts.keysignSessionStart) (.ok committee)]

theorem gather_eq_done (h : gather site config request vault limit w = (.done committee, w')) :
    w.Since w' (gathered config request vault committee) := by
  obtain ⟨_, w₁, registered, h⟩ := bind_eq_done h
  obtain ⟨met, w₂, started, h⟩ := bind_eq_done h
  obtain ⟨_, w₃, checked, h⟩ := bind_eq_done h
  obtain ⟨-, rfl⟩ := ofExcept_eq_done checked
  cases h
  exact (askRelay_eq_done registered).trans (askRelay_eq_done started)

/-- The vault of the request is opened and the members meet. -/
structure Begins (config : EngineConfig) (request : KeysignRequest) (vault : Vault)
    (committee : List String) (log : List Event) : Prop where
  /-- What was loaded is the vault, and it has the key of the request. -/
  log_eq : ∃ content, Container.openBytes content config.encryptionSecret = .ok vault ∧
    vault.publicKeyEcdsa = request.publicKey ∧
    log = opened request content ++ gathered config request vault committee

/-- No attempt begins, no session is opened, and the relay is not told of an end. -/
def Idle (log : List Event) : Prop :=
  ∀ e ∈ log, (e.begun? = none ∧ e.isOpening = false) ∧ e.isCompleting = false

theorem Begins.idle {log : List Event} (h : Begins config request vault committee log) : Idle log := by
  obtain ⟨content, -, -, rfl⟩ := h.log_eq
  simp [Idle, Event.begun?, Event.isOpening, Event.isCompleting]

theorem openVault_idle (site : Site ε ρ σ) (config : EngineConfig) (request : KeysignRequest) :
    (openVault site config request).Keeps fun _ log => Idle log :=
  openVault_keeps (steady_forall _) config request
    (fun _ => by simp [Event.begun?, Event.isOpening, Event.isCompleting])
    fun _ _ => by simp [Event.begun?, Event.isOpening, Event.isCompleting]

theorem gather_idle (site : Site ε ρ σ) (config : EngineConfig) (request : KeysignRequest)
    (vault : Vault) : (gather site config request vault).Keeps fun _ log => Idle log := by
  refine gather_keeps (steady_forall _) (fun e plain => ?_) config request vault
  rw [List.forall_mem_singleton]
  exact ⟨⟨plain.not_begun, Event.not_isOpening_of_calm plain.1⟩,
    Event.not_isCompleting_of_quiet plain.2.1⟩

/-! ### How it comes out -/

/-- All messages are signed, each by itself. -/
structure Signed (site : Site ε ρ σ) (config : EngineConfig) (request : KeysignRequest)
    (vault : Vault) (results : KeysignResults) (signings : List Signing) (log : List Event) :
    Prop where
  messages_eq : signings.map (·.message) = request.messages
  names_eq : results.names = request.messages.map (·.hash)
  found : ∀ s ∈ signings, results.get? s.message.hash = some s.response ∧
    s.response.msg = s.message.message ∧
    Signature.respond s.message.family s.message.message s.raw = .ok s.response
  inOrder_eq : results.inOrder request = .ok (signings.map (·.response))
  /-- After the members have met, the messages are signed one after the other. -/
  log_eq : ∃ committee beginning, Begins config request vault committee beginning ∧
    log = beginning ++ signings.flatMap Signing.log ∧
    ∀ s ∈ signings, s.Holds site config request vault committee

/-- Signing messages has failed. -/
inductive Fails (site : Site ε ρ σ) (config : EngineConfig) (request : KeysignRequest) (e : Error) :
    List Event → Prop
  | early {log} (none : ∀ ev ∈ log, ev.begun? = none ∧ ev.isOpening = false) :
      Fails site config request e log
  | message {vault committee beginning failing m rest} {signings : List Signing}
      (begins : Begins config request vault committee beginning)
      (messages_eq : request.messages = signings.map (·.message) ++ m :: rest)
      (signed : ∀ s ∈ signings, s.Holds site config request vault committee)
      (failed : (attempts site config request vault committee m).Ends (.failed e) failing)
      (attempted : ∀ opener ∈ openers (beginning ++ signings.flatMap Signing.log ++ failing),
        ∃ m' ∈ signings.map (·.message) ++ [m], opener = some (label m'))
      (none : ∀ m' ∈ rest,
        some (label m') ∉ openers (beginning ++ signings.flatMap Signing.log ++ failing)) :
      Fails site config request e (beginning ++ signings.flatMap Signing.log ++ failing)

/-- How signing messages comes out, if it returns, and what it logs. -/
def Answers (site : Site ε ρ σ) (config : EngineConfig) (request : KeysignRequest) :
    Ending KeysignResults → List Event → Prop
  | .done results, log => ∃ vault signings early answer,
    Signed site config request vault results signings early ∧
    (∀ ev ∈ early, ev.isCompleting = false) ∧
    log = early ++ [.asked (completeCall request vault), .answered (completeCall request vault) answer]
  | .failed e, log => Fails site config request e log ∧ ∀ ev ∈ log, ev.isCompleting = false
  | .cut, _ | .endless, _ | .overflow, _ => True

/-! ### The parts of a log -/

theorem Signing.Holds.quiet {s : Signing} (h : s.Holds site config request vault committee) :
    ∀ e ∈ s.log, ¬e.Effect := by
  have tries : ∀ e ∈ s.tries, ¬e.Effect :=
    h.attempted.ends.of_logs (attempts_quiet site config request vault committee s.message)
  intro e mem
  rcases List.mem_append.1 mem with mem | mem
  · exact tries e mem
  · exact (h.checked e mem).elim (·.2.1) (·.not_effect)

theorem Signing.Holds.openedIn {s : Signing} (h : s.Holds site config request vault committee) :
    OpenedIn (· = label s.message) s.log := by
  have tries : OpenedIn (· = label s.message) s.tries :=
    h.attempted.ends.of_logs (attempts_openedIn site config request vault committee s.message)
  have checks : ∀ e ∈ s.checks, e.isOpening = false := fun e mem =>
    Event.not_isOpening_of_calm ((h.checked e mem).elim (·.1) (·.calm.1))
  exact tries.append (.of_not_isOpening checks)

theorem not_completing_of_signed {signings : List Signing}
    (holds : ∀ s ∈ signings, s.Holds site config request vault committee) :
    ∀ e ∈ signings.flatMap Signing.log, e.isCompleting = false := by
  intro e mem
  obtain ⟨s, hs, mem⟩ := List.mem_flatMap.1 mem
  exact Event.not_isCompleting_of_quiet ((holds s hs).quiet e mem)

/-- Messages that were signed opened their sessions under their own labels. -/
theorem openedIn_of_signed {signings : List Signing}
    (holds : ∀ s ∈ signings, s.Holds site config request vault committee) :
    OpenedIn (fun l => ∃ m ∈ signings.map (·.message), l = label m)
      (signings.flatMap Signing.log) := by
  induction signings with
  | nil => exact .of_not_isOpening nofun
  | cons s rest ih =>
      obtain ⟨this, later⟩ := List.forall_mem_cons.1 holds
      refine .append (this.openedIn.mono ?_) ((ih later).mono ?_)
      · rintro l rfl
        exact ⟨s.message, List.mem_cons_self, rfl⟩
      · rintro l ⟨m, mem, rfl⟩
        exact ⟨m, List.mem_cons_of_mem _ mem, rfl⟩

/-! ### Signing -/

/-- If all messages are signed, the responses are the signings'. -/
theorem signed_of_done {results : KeysignResults} (valid : request.check = .ok ())
    {beginning : List Event} (begins : Begins config request vault committee beginning)
    (h : signAll site config request vault committee request.messages .empty limit w =
      (.done results, w')) :
    ∃ signings log, w.Since w' log ∧ Signed site config request vault results signings
      (beginning ++ log) ∧ ∀ e ∈ log, e.isCompleting = false := by
  obtain ⟨signings, since, messages_eq, holds, rfl⟩ := signAll_eq_done h
  have hashes : signings.map (·.message.hash) = request.messages.map (·.hash) := by
    rw [← messages_eq, List.map_map]
    rfl
  have nodup : (signings.map (·.message.hash)).Nodup :=
    hashes ▸ KeysignRequest.names_nodup_of_check valid
  have unnamed : ∀ g ∈ signings, g.message.hash ∉ (.empty : KeysignResults).names :=
    fun _ _ => List.not_mem_nil
  obtain ⟨names_eq, found, -⟩ := collect_spec nodup unnamed
  have names : (collect .empty signings).names = request.messages.map (·.hash) :=
    names_eq.trans hashes
  have size : (collect .empty signings).size = request.messages.length := by
    rw [Dictionary.size_eq, names, List.length_map]
  have inOrder : (collect .empty signings).inOrder request = .ok (signings.map (·.response)) := by
    refine KeysignResults.inOrder_eq_ok_iff.2 ⟨size, KeysignResults.pick_eq_ok_iff.2 ?_⟩
    rw [← messages_eq, List.map_map, List.map_map]
    exact List.map_congr_left found
  refine ⟨signings, _, since, ⟨messages_eq, names, fun s hs => ?_, inOrder,
    committee, beginning, begins, rfl, holds⟩, not_completing_of_signed holds⟩
  obtain ⟨_, _, _, -, -, ⟨_, _, _, _, _, responds⟩⟩ := (holds s hs).attempted.log_eq
  exact ⟨found s hs, Signature.respond_msg responds, responds⟩

/-- If messages fail to be signed, one of them has. -/
theorem fails_of_failed {e : Error} (valid : request.check = .ok ()) {beginning : List Event}
    (begins : Begins config request vault committee beginning)
    (h : signAll site config request vault committee request.messages .empty limit w =
      (.failed e, w')) :
    ∃ log, w.Since w' log ∧ Fails site config request e (beginning ++ log) ∧
      ∀ ev ∈ log, ev.isCompleting = false := by
  obtain ⟨signings, m, rest, failing, messages_eq, since, holds, failed⟩ := signAll_eq_failed h
  have quiet : ∀ ev ∈ failing, ¬ev.Effect :=
    failed.of_logs (attempts_quiet site config request vault committee m)
  have own : OpenedIn (· = label m) failing :=
    failed.of_logs (attempts_openedIn site config request vault committee m)
  have opened : OpenedIn (fun l => ∃ m' ∈ signings.map (·.message) ++ [m], l = label m')
      (beginning ++ signings.flatMap Signing.log ++ failing) := by
    refine .append (.append ?_ ((openedIn_of_signed holds).mono ?_)) (own.mono ?_)
    · exact .of_not_isOpening fun ev mem => (begins.idle ev mem).1.2
    · rintro l ⟨m', mem, rfl⟩
      exact ⟨m', List.mem_append_left _ mem, rfl⟩
    · rintro l rfl
      exact ⟨m, List.mem_append_right _ (List.mem_singleton_self m), rfl⟩
  have attempted : ∀ opener ∈ openers (beginning ++ signings.flatMap Signing.log ++ failing),
      ∃ m' ∈ signings.map (·.message) ++ [m], opener = some (label m') := by
    intro opener mem
    obtain ⟨_, rfl, m', among, rfl⟩ := opened none opener mem
    exact ⟨m', among, rfl⟩
  have nodup := KeysignRequest.names_nodup_of_check valid
  have split : request.messages = signings.map (·.message) ++ [m] ++ rest := by
    rw [messages_eq, List.append_assoc]
    rfl
  have none : ∀ m' ∈ rest,
      some (label m') ∉ openers (beginning ++ signings.flatMap Signing.log ++ failing) := by
    intro m' mem opener
    obtain ⟨m'', mem', same⟩ := attempted _ opener
    rw [split, List.map_append, List.nodup_append] at nodup
    exact nodup.2.2 _ (List.mem_map_of_mem mem') _ (List.mem_map_of_mem mem)
      (label_inj (Option.some.inj same)).symm
  refine ⟨_, since, ?_, ?_⟩
  · rw [← List.append_assoc]
    exact .message begins messages_eq holds failed attempted none
  · intro ev mem
    rcases List.mem_append.1 mem with mem | mem
    · exact not_completing_of_signed holds ev mem
    · exact Event.not_isCompleting_of_quiet (quiet ev mem)

theorem check_eq_ok (h : (Run.ofExcept (request.check.mapError RequestFault.error) :
    Run ε ρ σ Unit) limit w = (.done (), w')) : request.check = .ok () ∧ w = w' := by
  obtain ⟨checked, rfl⟩ := ofExcept_eq_done h
  exact ⟨mapError_eq_ok checked, rfl⟩

theorem signatures_eq_done {results : KeysignResults}
    (h : signatures site config request limit w = (.done (vault, results), w')) :
    ∃ signings log, w.Since w' log ∧ Signed site config request vault results signings log ∧
      ∀ e ∈ log, e.isCompleting = false := by
  obtain ⟨_, w₀, checked, h⟩ := bind_eq_done h
  obtain ⟨valid, rfl⟩ := check_eq_ok checked
  obtain ⟨v, w₁, opens, h⟩ := bind_eq_done h
  obtain ⟨committee, w₂, met, h⟩ := bind_eq_done h
  obtain ⟨results', w₃, signs, h⟩ := bind_eq_done h
  cases h
  obtain ⟨content, since, contained, key⟩ := openVault_eq_done opens
  have begins : Begins config request vault committee _ := ⟨content, contained, key, rfl⟩
  obtain ⟨signings, log, since', signed, quiet⟩ := signed_of_done valid begins signs
  refine ⟨signings, _, (since.trans (gather_eq_done met)).trans since', signed, ?_⟩
  exact List.forall_mem_append.2 ⟨fun e mem => (begins.idle e mem).2, quiet⟩

theorem signatures_eq_failed {e : Error}
    (h : signatures site config request limit w = (.failed e, w')) :
    ∃ log, w.Since w' log ∧ Fails site config request e log ∧
      ∀ ev ∈ log, ev.isCompleting = false := by
  have early {log : List Event} (since : w.Since w' log) (idle : Idle log) :
      ∃ log, w.Since w' log ∧ Fails site config request e log ∧
        ∀ ev ∈ log, ev.isCompleting = false :=
    ⟨log, since, .early fun ev mem => (idle ev mem).1, fun ev mem => (idle ev mem).2⟩
  rcases bind_eq_failed h with failed | ⟨_, w₀, checked, h⟩
  · have unchanged : w.Since w' [] := by
      cases hc : request.check.mapError RequestFault.error <;> rw [hc] at failed <;> cases failed
      exact .refl _
    exact early unchanged nofun
  obtain ⟨valid, rfl⟩ := check_eq_ok checked
  obtain ⟨log₁, since₁, idle₁⟩ := openVault_idle site config request limit w
  rcases bind_eq_failed h with failed | ⟨v, w₁, opens, h⟩
  · rw [failed] at since₁
    exact early since₁ idle₁
  rw [opens] at since₁
  obtain ⟨log₂, since₂, idle₂⟩ := gather_idle site config request v limit w₁
  rcases bind_eq_failed h with failed | ⟨committee, w₂, met, h⟩
  · rw [failed] at since₂
    exact early (since₁.trans since₂) (List.forall_mem_append.2 ⟨idle₁, idle₂⟩)
  rcases bind_eq_failed h with failed | ⟨results, w₃, signs, h⟩
  · obtain ⟨content, since, contained, key⟩ := openVault_eq_done opens
    have begins : Begins config request v committee _ := ⟨content, contained, key, rfl⟩
    obtain ⟨log, since', fails, quiet⟩ := fails_of_failed valid begins failed
    refine ⟨_, (since.trans (gather_eq_done met)).trans since', fails, ?_⟩
    exact List.forall_mem_append.2 ⟨fun ev mem => (begins.idle ev mem).2, quiet⟩
  · cases h

/-! ### The relay at the end -/

/-- Up to the last signature the relay is not told of an end, so nothing depends on its answer. -/
theorem signatures_overruled (site : Site ε ρ σ)
    (other : ρ → Time → (c : Relay.Call) → Except Error c.Answer) (config : EngineConfig)
    (request : KeysignRequest) :
    signatures (site.overruled other) config request = signatures site config request := by
  have sessions (family : Family) (opening : Session.Opening) (work : Session → Run ε ρ σ Bytes) :
      Session.withSession (site.overruled other) family opening work =
        Session.withSession site family opening work := by
    cases opening <;> rfl
  have attempted (vault : Vault) (committee : List String) (m : KeysignMessage) :
      attempt (site.overruled other) config request vault committee m =
        attempt site config request vault committee m := by
    unfold attempt
    simp only [Round.fetchSetup_overruled, Round.run_overruled, sessions]
  have attempts_eq (vault : Vault) (committee : List String) (m : KeysignMessage) :
      attempts (site.overruled other) config request vault committee m =
        attempts site config request vault committee m := by
    unfold attempts
    simp only [attempted]
  have verify_eq (vault : Vault) (m : KeysignMessage) (response : KeysignResponse) :
      verify (site.overruled other) request vault m response =
        verify site request vault m response := rfl
  have signAll_eq (vault : Vault) (committee : List String) (messages : List KeysignMessage)
      (results : KeysignResults) :
      signAll (site.overruled other) config request vault committee messages results =
        signAll site config request vault committee messages results := by
    induction messages generalizing results with
    | nil => rfl
    | cons m rest ih => simp only [signAll, attempts_eq, verify_eq, ih]
  have gather_eq (vault : Vault) :
      gather (site.overruled other) config request vault = gather site config request vault := by
    have start := Run.askRelay_overruled site other
      (rfl : (Relay.Call.start request.sessionId config.timeouts.keysignSessionStart).parts = false)
    have register := Run.askRelay_overruled site other
      (rfl : (Relay.Call.register request.sessionId vault.localPartyId).parts = false)
    unfold gather
    rw [start, register]
  have openVault_eq :
      openVault (site.overruled other) config request = openVault site config request := rfl
  unfold signatures
  simp only [openVault_eq, gather_eq, signAll_eq]

/-- Whatever the relay answers at the end, signing messages comes out the same. -/
theorem signMessages_overruled (site : Site ε ρ σ)
    (other : ρ → Time → (c : Relay.Call) → Except Error c.Answer) (config : EngineConfig)
    (request : KeysignRequest) (limit : Option Time) (w : World ε ρ σ) :
    (signMessages (site.overruled other) config request limit w).1 =
      (signMessages site config request limit w).1 := by
  have last (made : Vault × KeysignResults) : Run.Alike (fun _ => true) (· = ·)
      (Run.attempt (askRelay site (completeCall request made.1)) >>= fun _ => pure made.2)
      (Run.attempt (askRelay (site.overruled other) (completeCall request made.1)) >>= fun _ =>
        pure made.2) :=
    .bind (.attempt_askRelay (fun _ _ => rfl) (fun _ _ => rfl) fun _ => rfl) fun _ _ _ => .done rfl
  rw [signMessages_eq_signatures, signMessages_eq_signatures, signatures_overruled]
  rcases bind_cases (signatures site config request) (fun made =>
    Run.attempt (askRelay site (completeCall request made.1)) >>= fun _ => pure made.2) limit w with
    ⟨made, w₁, hm, goes⟩ | ⟨e, e', w₁, hm, ends, stops⟩
  · obtain ⟨_, _, -, -, -, -, same⟩ := last made limit w₁ w₁ (.refl w₁)
    rw [goes, bind_of_done hm]
    exact same.eq.symm
  · rw [ends, bind_of_stops hm stops]

/-! ### The whole -/

/-- Whatever vault is stored, whatever engines and relay do and however long it takes: if signing
returns responses, each message has its own, made of what the engine of its curve gave in the one
attempt that succeeded, and the relay was told of the end once, behind the last signature; if it
fails, either nothing was attempted yet or one message could not be signed, and then no session
was opened for those behind it and the relay was told nothing.  What the relay answers at the end
changes nothing. -/
theorem signMessages_answers (site : Site ε ρ σ) (config : EngineConfig) (request : KeysignRequest) :
    (signMessages site config request).Logs (Answers site config request) ∧
      ∀ other limit w, (signMessages (site.overruled other) config request limit w).1 =
        (signMessages site config request limit w).1 := by
  refine ⟨fun limit w => ?_, fun other limit w =>
    signMessages_overruled site other config request limit w⟩
  have sessions (family : Family) (opening : Session.Opening) (r : Round) :
      (Session.withSession site family opening (r.run site)).Keeps fun _ log => ∀ e ∈ log, True :=
    r.session_keeps site (fun _ => trivial) (fun _ => trivial) fun _ _ => trivial
  obtain ⟨log, since, -⟩ := signMessages_keeps (steady_forall fun _ => True) (fun _ _ _ _ => trivial)
    sessions config request limit w
  rcases h : signMessages site config request limit w with ⟨e, w'⟩
  rw [h] at since
  rw [signMessages_eq_signatures] at h
  cases e with
  | done results =>
      obtain ⟨⟨vault, results'⟩, w₁, signs, h⟩ := bind_eq_done h
      obtain ⟨answer, w₂, told, h⟩ := bind_eq_done h
      cases h
      obtain ⟨signings, early, since₁, signed, quiet⟩ := signatures_eq_done signs
      obtain ⟨parting, since₂, tells⟩ :=
        attempt_askRelay_logs site (completeCall request vault) limit w₁
      rw [told] at since₂ tells
      rcases tells with ⟨waits, -⟩ | ⟨answer, -, rfl⟩
      · cases waits
      · exact ⟨_, since₁.trans since₂, vault, signings, early, answer, signed, quiet, rfl⟩
  | failed e =>
      rcases bind_eq_failed h with failed | ⟨⟨vault, results⟩, w₁, -, h⟩
      · obtain ⟨log, since, fails, quiet⟩ := signatures_eq_failed failed
        exact ⟨log, since, fails, quiet⟩
      · rcases bind_eq_failed h with failed | ⟨answer, w₂, -, h⟩
        · exact absurd failed attempt_ne_failed
        · cases h
  | cut | endless | overflow => exact ⟨log, since, trivial⟩

end Keysign

end QuorumVault
