/-
Every message is signed by itself.

Messages are signed one after the other.  For each there is one attempt that succeeds,
in a session on the message's own curve, opened with the vault's share of the key of that
curve and with a setup message of the message's own scope, and the response is made of
the one result that the engine gave in it.  A message that cannot be signed ends it all:
behind it no session is opened any more, and the relay is not told of an end.
-/
import QuorumVault.Proofs.Ceremony.AllOrNothing
import QuorumVault.Proofs.Ceremony.Openings
import QuorumVault.Proofs.Round.Discipline

namespace QuorumVault

open Run

variable {ε ρ σ : Type}

namespace Event

theorem Record.not_effect {e : Event} (h : e.Record) : ¬e.Effect := by
  cases e with
  | noted | attempt => exact not_false
  | engine | query | asked | answered | storing | stored | queued => cases h

theorem not_isCompleting_of_quiet {e : Event} (quiet : ¬e.Effect) : e.isCompleting = false := by
  cases e with
  | asked c =>
      cases c with
      | complete => exact absurd rfl quiet
      | register | start | setup | upload | download | delete | completed => rfl
  | engine | query | answered | storing | stored | noted | queued | attempt => rfl

end Event

/-! ### Sessions -/

/-- A session whose work is done with a result: it is opened, used in order and freed, and the engine
gives the result in it and no other. -/
inductive Session.Finishes (family : Family) (opening : Session.Opening) (raw : Bytes) :
    List Event → Prop
  | intro {handle uses answer} (inRound : ∀ e ∈ uses, e.InRound)
      (used : Work family handle (deeds uses))
      (finished : .engine family (.finish handle) (.ok raw) ∈ uses)
      (results_eq : results uses = [(family, raw)]) :
      Finishes family opening raw
        (opening.opened family handle :: uses ++ [.engine family (.free handle) answer])

theorem mem_of_results {family : Family} {raw : Bytes} {log : List Event}
    (h : (family, raw) ∈ results log) : ∃ handle, .engine family (.finish handle) (.ok raw) ∈ log := by
  obtain ⟨e, mem, gives⟩ := List.mem_filterMap.1 h
  split at gives
  · cases gives
    exact ⟨_, mem⟩
  · cases gives

/-- Whatever is done in the order of a session is done under its handle. -/
theorem Work.handle_eq {family : Family} {handle : Engine.Handle} {ds : List Deed} {d : Deed}
    (work : Work family handle ds) (mem : d ∈ ds) : d.handle = handle := by
  obtain ⟨before, after, split⟩ := List.append_of_mem mem
  exact (work before d after split).2.1

theorem Round.session_finishes {site : Site ε ρ σ} {family : Family} {opening : Session.Opening}
    {r : Round} {raw : Bytes} {limit : Option Time} {w w' : World ε ρ σ}
    (h : Session.withSession site family opening (r.run site) limit w = (.done raw, w')) :
    ∃ log, w.Since w' log ∧ Session.Finishes family opening raw log := by
  obtain ⟨log, since, within⟩ := Session.withSession_logs site (fun handle =>
    (r.run_results site family handle).and (r.run_work site family handle)) limit w
  rw [h] at since within
  cases within with
  | @freed handle _ log answer told =>
      obtain ⟨⟨inRound, result⟩, work⟩ := told
      have results_eq : results log = [(family, raw)] := result raw rfl
      obtain ⟨handle', finished⟩ := mem_of_results (results_eq ▸ List.mem_singleton_self _)
      have deed : ⟨family, handle', .finishes⟩ ∈ deeds log := List.mem_filterMap.2 ⟨_, finished, rfl⟩
      obtain rfl : handle' = handle := work.handle_eq deed
      exact ⟨_, since, .intro inRound work finished results_eq⟩

/-! ### Responses -/

/-- A response is the response to its message. -/
theorem Signature.respond_msg {family : Family} {message : String} {raw : Bytes}
    {response : KeysignResponse} (h : respond family message raw = .ok response) :
    response.msg = message := by
  unfold respond at h
  split at h
  · cases h
  · cases family with
    | ecdsa =>
        dsimp only at h
        split at h
        · cases h
        · cases h
          rfl
    | eddsa =>
        cases h
        rfl

namespace Keysign

variable {site : Site ε ρ σ} {config : EngineConfig} {request : KeysignRequest} {vault : Vault}
  {committee : List String} {m : KeysignMessage} {response : KeysignResponse}
  {limit : Option Time} {w w' : World ε ρ σ}

theorem label_inj {m m' : KeysignMessage} (h : label m = label m') : m.hash = m'.hash := by
  unfold label at h
  cases family : m.family <;> cases family' : m'.family <;> rw [family, family'] at h
  · exact (String.append_right_inj _).1 h
  · have chars := congrArg String.toList h
    simp [Family.label, String.toList_append] at chars
  · have chars := congrArg String.toList h
    simp [Family.label, String.toList_append] at chars
  · exact (String.append_right_inj _).1 h

/-! ### One attempt -/

/-- The call that fetches the setup message of a scope. -/
abbrev setupCall (config : EngineConfig) (request : KeysignRequest) (scope : String) : Relay.Call :=
  .setup request.sessionId (some scope) config.timeouts.setupMessage

/-- A successful attempt at signing a message: with the setup message of the message's scope and with
the share of the vault's key of the message's curve a session is opened, and the response is made of
the one result that the engine gives in it. -/
inductive Gives (config : EngineConfig) (request : KeysignRequest) (vault : Vault)
    (m : KeysignMessage) (raw : Bytes) (response : KeysignResponse) : List Event → Prop
  | intro {scope body setup text share log} (named : m.scope = .ok scope)
      (opened : Sealing.decode request.hexEncryptionKey body = .ok setup)
      (found : vault.findShare (vault.publicKey m.family) = .ok text)
      (decoded : Base64.decode text = .ok share)
      (finishes : Session.Finishes m.family (.sign setup vault.localPartyId share) raw log)
      (responds : Signature.respond m.family m.message raw = .ok response) :
      Gives config request vault m raw response
        (.asked (setupCall config request scope) ::
          .answered (setupCall config request scope) (.ok body) :: log)

theorem mapError_eq_ok {α β γ : Type} {x : Except α γ} {f : α → β} {y : γ}
    (h : x.mapError f = .ok y) : x = .ok y := by
  cases x with
  | ok y' =>
      cases h
      rfl
  | error e => cases h

theorem share_eq_ok {family : Family} {bytes : Bytes} (h : share vault family = .ok bytes) :
    ∃ text, vault.findShare (vault.publicKey family) = .ok text ∧ Base64.decode text = .ok bytes := by
  unfold share at h
  cases found : vault.findShare (vault.publicKey family) with
  | error e =>
      rw [found] at h
      cases h
  | ok text =>
      rw [found] at h
      exact ⟨text, rfl, mapError_eq_ok h⟩

theorem attempt_eq_done
    (h : attempt site config request vault committee m limit w = (.done response, w')) :
    ∃ log raw, w.Since w' log ∧ Gives config request vault m raw response log := by
  obtain ⟨scope, w₀, scopes, h⟩ := bind_eq_done h
  obtain ⟨named, rfl⟩ := ofExcept_eq_done scopes
  obtain ⟨bytes, w₀, holds, h⟩ := bind_eq_done h
  obtain ⟨held, rfl⟩ := ofExcept_eq_done holds
  obtain ⟨setup, w₁, fetched, h⟩ := bind_eq_done h
  obtain ⟨body, w₀, asked, decodes⟩ := bind_eq_done fetched
  obtain ⟨opened, rfl⟩ := ofExcept_eq_done decodes
  obtain ⟨raw, w₂, worked, answers⟩ := bind_eq_done h
  obtain ⟨responds, rfl⟩ := ofExcept_eq_done answers
  obtain ⟨log, since, finishes⟩ := Round.session_finishes worked
  obtain ⟨text, found, decoded⟩ := share_eq_ok held
  exact ⟨_, raw, (askRelay_eq_done asked).trans since, .intro (mapError_eq_ok named)
    (mapError_eq_ok opened) found decoded finishes (mapError_eq_ok responds)⟩

/-- An attempt logs what its ending allows, which is all there is to know of one that failed. -/
theorem attempt_ends (site : Site ε ρ σ) (config : EngineConfig) (request : KeysignRequest)
    (vault : Vault) (committee : List String) (m : KeysignMessage) :
    (attempt site config request vault committee m).Logs
      (attempt site config request vault committee m).Ends := by
  have sessions (family : Family) (setup bytes : Bytes) (r : Round) (_ : share vault family = .ok bytes) :
      (Session.withSession site family (.sign setup vault.localPartyId bytes) (r.run site)).Keeps
        fun _ log => ∀ e ∈ log, True :=
    r.session_keeps site (fun _ => trivial) (fun _ => trivial) fun _ _ => trivial
  exact (attempt_keeps (steady_forall fun _ => True) (fun _ _ _ _ => trivial) config request sessions
    committee m).ends

/-! ### All attempts -/

/-- The record of a message that was signed. -/
abbrev success (request : KeysignRequest) (vault : Vault) (m : KeysignMessage) : Event :=
  .noted ⟨.keysign, request.sessionId, some vault.localPartyId, "signed message " ++ m.hash⟩

/-- Attempts at signing a message of which the last one has succeeded and all before have failed. -/
structure Attempted (site : Site ε ρ σ) (config : EngineConfig) (request : KeysignRequest)
    (vault : Vault) (committee : List String) (m : KeysignMessage) (raw : Bytes)
    (response : KeysignResponse) (log : List Event) : Prop where
  /-- The attempts stand one after the other, and behind them the record of the success. -/
  log_eq : ∃ before number last,
    log = before ++ .attempt (label m) number :: last ++ [success request vault m] ∧
    RetryPolicy.Attempts.Failures (label m) (attempt site config request vault committee m).Ends
      before ∧
    Gives config request vault m raw response last
  ends : (attempts site config request vault committee m).Ends (.done response) log

/-- If the attempts at signing a message succeed, the last one has. -/
theorem attempts_eq_done
    (h : attempts site config request vault committee m limit w = (.done response, w')) :
    ∃ log raw, w.Since w' log ∧ Attempted site config request vault committee m raw response log := by
  have whole := h
  unfold attempts at h
  cases hp : config.timeouts.keysignRetry? with
  | none =>
      rw [hp] at h
      cases h
  | some policy =>
      rw [hp] at h
      obtain ⟨result, w₁, tried, h⟩ := bind_eq_done h
      obtain ⟨log, since, attempts⟩ := RetryPolicy.run_logs (Timeouts.maxAttempts_pos hp) (label m)
        (fun _ => attempt_ends site config request vault committee m) limit w
      cases result with
      | error e => cases h
      | ok x =>
          rw [attempt_eq_ok tried] at since attempts
          obtain ⟨before, number, last, rfl, failures, limit', u, u', succeeds, logged⟩ :=
            attempts.eq_append_of_done
          obtain ⟨log', raw, logged', gives⟩ := attempt_eq_done succeeds
          cases h
          cases logged.unique logged'
          have recorded := since.record (success request vault m)
          exact ⟨_, raw, recorded, ⟨before, number, last, rfl, failures, gives⟩,
            limit, w, _, whole, recorded⟩

/-- No attempt at a round begins in another one. -/
theorem attempt_unbegun (site : Site ε ρ σ) (config : EngineConfig) (request : KeysignRequest)
    (vault : Vault) (committee : List String) (m : KeysignMessage) :
    (attempt site config request vault committee m).Keeps fun _ log =>
      ∀ e ∈ log, e.begun? = none := by
  have plain (e : Event) (h : e.Plain) : ∀ e' ∈ [e], e'.begun? = none := by
    intro e' mem
    rw [List.mem_singleton.1 mem]
    exact h.not_begun
  exact attempt_keeps (steady_forall _) plain config request (fun family setup bytes r _ =>
    r.session_keeps site (fun _ => rfl) (fun _ => rfl) fun _ inRound => inRound.not_begun) committee m

/-- The attempts at signing a message open their sessions under its label. -/
theorem attempts_openedIn (site : Site ε ρ σ) (config : EngineConfig) (request : KeysignRequest)
    (vault : Vault) (committee : List String) (m : KeysignMessage) :
    (attempts site config request vault committee m).Keeps fun _ log =>
      OpenedIn (· = label m) log := by
  have steady := steady_openedIn (· = label m)
  have noted (record : Audit.Record) : OpenedIn (· = label m) [.noted record] :=
    .of_not_isOpening (by simp [Event.isOpening])
  unfold attempts
  cases h : config.timeouts.keysignRetry? with
  | none => exact .overflow steady
  | some policy =>
      have tries : (policy.run (label m) fun (_ : Nat) =>
          attempt site config request vault committee m).Keeps fun _ log =>
            OpenedIn (· = label m) log :=
        (RetryPolicy.run_logs (Timeouts.maxAttempts_pos h) (label m) fun _ =>
          attempt_unbegun site config request vault committee m).mono
            fun _ _ attempts => attempts.openedIn fun _ _ h => h
      refine .bind steady (.attempt tries) fun result => ?_
      cases result with
      | ok response => exact .bind steady (.record (noted _)) fun _ => .done steady _
      | error e => exact .bind steady (.record (noted _)) fun _ => .fail steady _

theorem attempts_quiet (site : Site ε ρ σ) (config : EngineConfig) (request : KeysignRequest)
    (vault : Vault) (committee : List String) (m : KeysignMessage) :
    (attempts site config request vault committee m).Keeps fun _ log => ∀ e ∈ log, ¬e.Effect := by
  have plain (e : Event) (h : e.Plain) : ∀ e' ∈ [e], ¬e'.Effect := by
    simpa using h.2.1
  have records (e : Event) (h : e.Record) : ∀ e' ∈ [e], ¬e'.Effect := by
    simpa using h.not_effect
  exact attempts_keeps (steady_forall _) plain records config request (fun family setup bytes r _ =>
    r.session_keeps site (fun _ => not_false) (fun _ => not_false) fun _ inRound =>
      inRound.not_effect) committee m

/-! ### All messages -/

/-- A message that was signed. -/
structure Signing where
  message : KeysignMessage
  raw : Bytes
  response : KeysignResponse
  tries : List Event
  checks : List Event

/-- What happened until the message was signed and its signature checked. -/
def Signing.log (s : Signing) : List Event :=
  s.tries ++ s.checks

/-- The message was signed in one of the attempts at it; then its signature was checked, which opens
no session and tells nobody. -/
structure Signing.Holds (site : Site ε ρ σ) (config : EngineConfig) (request : KeysignRequest)
    (vault : Vault) (committee : List String) (s : Signing) : Prop where
  attempted : Attempted site config request vault committee s.message s.raw s.response s.tries
  checked : ∀ e ∈ s.checks, e.Plain ∨ e.Record

theorem verify_ne_failed {e : Error} :
    verify site request vault m response limit w ≠ (.failed e, w') := by
  intro h
  rcases bind_eq_failed h with h | ⟨result, w₁, -, h⟩
  · exact attempt_ne_failed h
  · cases result with
    | ok => cases h
    | error => cases h

theorem verify_logs (site : Site ε ρ σ) (request : KeysignRequest) (vault : Vault)
    (m : KeysignMessage) (response : KeysignResponse) :
    (verify site request vault m response).Keeps fun _ log => ∀ e ∈ log, e.Plain ∨ e.Record :=
  verify_keeps (steady_forall _) request (by simp [Event.Plain, Event.Calm, Event.Effect, Event.Record])
    (by simp +contextual) vault m response

/-- If all messages are signed, each was signed by itself, in order. -/
theorem signAll_eq_done {messages : List KeysignMessage} {results results' : KeysignResults}
    (h : signAll site config request vault committee messages results limit w = (.done results', w')) :
    ∃ signings : List Signing, w.Since w' (signings.flatMap Signing.log) ∧
      signings.map (·.message) = messages ∧
      (∀ s ∈ signings, s.Holds site config request vault committee) ∧
      results' = signings.foldl (fun results s => results.insert s.message.hash s.response) results := by
  induction messages generalizing results w with
  | nil =>
      cases h
      exact ⟨[], .refl _, rfl, nofun, rfl⟩
  | cons m rest ih =>
      obtain ⟨response, w₁, tried, h⟩ := bind_eq_done h
      obtain ⟨_, w₂, checked, h⟩ := bind_eq_done h
      obtain ⟨tries, raw, since, attempted⟩ := attempts_eq_done tried
      obtain ⟨checks, since', plain⟩ := verify_logs site request vault m response limit w₁
      rw [checked] at since'
      obtain ⟨signings, since'', rfl, holds, rfl⟩ := ih h
      let s : Signing := ⟨m, raw, response, tries, checks⟩
      have this : s.Holds site config request vault committee := ⟨attempted, plain⟩
      exact ⟨s :: signings, (since.trans since').trans since'', rfl,
        List.forall_mem_cons.2 ⟨this, holds⟩, rfl⟩

/-- If messages fail to be signed, one of them has, those before it were signed, and nothing has
happened about those behind it. -/
theorem signAll_eq_failed {messages : List KeysignMessage} {results : KeysignResults} {e : Error}
    (h : signAll site config request vault committee messages results limit w = (.failed e, w')) :
    ∃ (signings : List Signing) (m : KeysignMessage) (rest : List KeysignMessage) (failing : List Event),
      messages = signings.map (·.message) ++ m :: rest ∧
      w.Since w' (signings.flatMap Signing.log ++ failing) ∧
      (∀ s ∈ signings, s.Holds site config request vault committee) ∧
      (attempts site config request vault committee m).Ends (.failed e) failing := by
  induction messages generalizing results w with
  | nil => cases h
  | cons m rest ih =>
      rcases bind_eq_failed h with failed | ⟨response, w₁, tried, h⟩
      · obtain ⟨failing, since, -⟩ := attempts_quiet site config request vault committee m limit w
        rw [failed] at since
        exact ⟨[], m, rest, failing, rfl, since, nofun, limit, w, w', failed, since⟩
      · rcases bind_eq_failed h with failed | ⟨_, w₂, checked, h⟩
        · exact absurd failed verify_ne_failed
        · obtain ⟨tries, raw, since, attempted⟩ := attempts_eq_done tried
          obtain ⟨checks, since', plain⟩ := verify_logs site request vault m response limit w₁
          rw [checked] at since'
          obtain ⟨signings, m', rest', failing, rfl, since'', holds, ends⟩ := ih h
          let s : Signing := ⟨m, raw, response, tries, checks⟩
          have this : s.Holds site config request vault committee := ⟨attempted, plain⟩
          refine ⟨s :: signings, m', rest', failing, rfl, ?_, List.forall_mem_cons.2 ⟨this, holds⟩, ends⟩
          rw [List.flatMap_cons, List.append_assoc]
          exact (since.trans since').trans since''

end Keysign

end QuorumVault
