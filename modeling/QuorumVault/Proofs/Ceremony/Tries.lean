/-
What is done in an attempt.

An attempt fetches the setup message of its round, opens a session with it and runs the
round.  All of it is the round's own: every call bears the session and the scope of the
round, the session is opened with what was served for them, and so is what the engine is
handed.  Around that an attempt asks the engine about the result, and it makes no records.
-/
import QuorumVault.Ceremony.Keygen
import QuorumVault.Ceremony.Keysign
import QuorumVault.Proofs.Ceremony.Openings
import QuorumVault.Proofs.Round.Addressing

namespace QuorumVault

open Run

variable {ε ρ σ : Type}

/-- An engine or the relay is called. -/
def Event.Busy : Event → Prop
  | .engine .. | .query .. | .asked _ | .answered .. => True
  | .storing _ | .stored .. | .noted _ | .queued .. | .attempt .. => False

theorem Event.Busy.not_begun {e : Event} (h : e.Busy) : e.begun? = none := by
  cases e with
  | attempt => cases h
  | engine | query | asked | answered | storing | stored | noted | queued => rfl

/-- What a session is opened with. -/
def Session.Opening.setup : Session.Opening → Bytes
  | .keygen setup _ | .sign setup _ _ => setup

namespace Round

variable {r : Round} {log log' : List Event}

/-- Engines and the relay are called, and all of it is the round's own. -/
structure Own (r : Round) (log : List Event) : Prop where
  apart : r.Apart log
  busy : ∀ e ∈ log, e.Busy

theorem Own.nil (r : Round) : r.Own [] := ⟨.nil r, nofun⟩

theorem Own.append (h : r.Own log) (h' : r.Own log') : r.Own (log ++ log') :=
  ⟨h.apart.trans h'.apart, List.forall_mem_append.2 ⟨h.busy, h'.busy⟩⟩

theorem steady_own (r : Round) : Steady fun _ log => r.Own log where
  nil := .nil r
  append := .append
  unended := id

theorem Own.singleton {e : Event} (own : r.OwnsAt [] e) (busy : e.Busy) : r.Own [e] :=
  ⟨(Apart.nil r).append (by simpa using own), by simpa using busy⟩

theorem own_query (r : Round) (family : Family) (q : Engine.Query)
    (answer : Except Error Bytes) : r.Own [.query family q answer] :=
  .singleton (.of_idle trivial (fun _ => not_false) fun _ => not_false) trivial

/-- If the setup message is there, it was served for the round. -/
theorem fetchSetup_logs (site : Site ε ρ σ) (r : Round) :
    (r.fetchSetup site).Logs fun e log =>
      r.Own log ∧ ∀ setup, e = .done setup → r.SetUp log setup := by
  have asked : r.Own [.asked r.setupCall] :=
    .singleton (.of_idle ⟨rfl, rfl⟩ (fun _ => not_false) fun _ => not_false) trivial
  have answered (answer : Except Error String) :
      r.Own [.asked r.setupCall, .answered r.setupCall answer] :=
    asked.append (.singleton (.of_idle ⟨rfl, rfl⟩ (fun _ => not_false) fun _ => not_false) trivial)
  have opens (body : String) : (Run.ofExcept ((Sealing.decode r.hexEncryptionKey body).mapError
      Sealing.Fault.error) : Run ε ρ σ Bytes).Logs fun e log =>
        log = [] ∧ ∀ setup, e = .done setup → Sealing.decode r.hexEncryptionKey body = .ok setup := by
    intro limit w
    cases opened : Sealing.decode r.hexEncryptionKey body with
    | error fault => exact ⟨[], .refl w, rfl, nofun⟩
    | ok setup => exact ⟨[], .refl w, rfl, fun _ same => by cases same; rfl⟩
  refine Logs.bind (askRelay_logs site r.setupCall) opens ?_ ?_
  · rintro body e log log' asks ⟨rfl, opened⟩
    cases asks with
    | waits waits => cases waits
    | done =>
        rw [List.append_nil]
        exact ⟨answered _, fun setup done => ⟨body, by simp, opened setup done⟩⟩
  · intro e e' log stops asks
    cases asks with
    | waits =>
        refine ⟨asked, ?_⟩
        rintro setup rfl
        cases stops
    | done => cases stops
    | failed e =>
        refine ⟨answered _, ?_⟩
        rintro setup rfl
        cases stops

theorem opening_own (family : Family) {opening : Session.Opening}
    (served : r.SetUp log opening.setup) :
    (∀ handle, r.OwnsAt log (opening.opened family handle) ∧ (opening.opened family handle).Busy) ∧
      ∀ e, r.OwnsAt log (opening.refused family e) ∧ (opening.refused family e).Busy := by
  cases opening with
  | keygen | sign =>
      refine ⟨fun handle => ⟨⟨trivial, nofun, ?_⟩, trivial⟩, fun e => ⟨⟨trivial, nofun, ?_⟩, trivial⟩⟩
      · rintro _ rfl
        exact served
      · rintro _ rfl
        exact served

theorem Event.InRound.busy {e : Event} (h : e.InRound) : e.Busy := by
  cases e with
  | engine | query | asked | answered => trivial
  | storing | stored | noted | queued | attempt => cases h

/-- A session that is opened with what was served for the round is the round's own. -/
theorem session_own (site : Site ε ρ σ) (family : Family) (opening : Session.Opening) (r : Round) :
    (Session.withSession site family opening (r.run site)).Logs fun _ log' =>
      ∀ log, r.Own log → r.SetUp log opening.setup → r.Own (log ++ log') := by
  refine (Session.withSession_logs site fun handle => (r.run_apart site ⟨family, handle, false⟩).and
    (r.run_results site family handle)).mono ?_
  intro e log' within log own served
  obtain ⟨opened, refused⟩ := opening_own family served
  have begun (handle : Engine.Handle) : r.Own (log ++ [opening.opened family handle]) :=
    ⟨own.apart.append (by simpa using (opened handle).1),
      List.forall_mem_append.2 ⟨own.busy, by simpa using (opened handle).2⟩⟩
  cases within with
  | refused =>
      exact ⟨own.apart.append (by simpa using (refused _).1),
        List.forall_mem_append.2 ⟨own.busy, by simpa using (refused _).2⟩⟩
  | @freed handle _ log' answer h =>
      obtain ⟨apart, inRound, -⟩ := h
      have freed : r.Own [.engine family (.free handle) answer] :=
        .singleton (.of_idle trivial (fun _ => not_false) fun _ => not_false) trivial
      have whole := ((begun handle).append ⟨apart, fun e mem => Event.InRound.busy (inRound e mem)⟩).append
        freed
      simpa using whole
  | @endless handle log' h =>
      obtain ⟨apart, inRound, -⟩ := h
      have whole := (begun handle).append ⟨apart, fun e mem => Event.InRound.busy (inRound e mem)⟩
      simpa using whole

/-- A round with a session of its own, opened with the round's setup message, is the round's own. -/
theorem play_own (site : Site ε ρ σ) (r : Round) (family : Family) (opening : Bytes → Session.Opening)
    (named : ∀ setup, (opening setup).setup = setup) :
    (r.fetchSetup site >>= fun setup =>
      Session.withSession site family (opening setup) (r.run site)).Keeps fun _ log => r.Own log := by
  refine Logs.bind (fetchSetup_logs site r) (fun setup => session_own site family (opening setup) r)
    ?_ ?_
  · rintro setup e log log' ⟨own, served⟩ session
    refine session log own ?_
    rw [named]
    exact served setup rfl
  · rintro e e' log - ⟨own, -⟩
    exact own

end Round

/-- An attempt at a round that creates a key is the round's own. -/
theorem Keygen.attempt_own (site : Site ε ρ σ) (config : EngineConfig) (request : KeygenRequest)
    (committee : List String) (family : Family) :
    (attempt site config request committee family).Keeps fun _ log =>
      (round config request committee family).Own log := by
  let r := round config request committee family
  have steady := r.steady_own
  have asks (q : Engine.Query) (family : Family) :
      (Run.queryEngine site family q).Keeps fun _ log => r.Own log :=
    .queryEngine steady (r.own_query family q)
  have chains (raw : Bytes) : (chainCode site raw family).Keeps fun _ log => r.Own log := by
    cases family with
    | ecdsa => exact .bind steady (asks _ _) fun _ => .done steady _
    | eddsa => exact .done steady _
  have plays := r.play_own site family (.keygen · request.localPartyId) fun _ => rfl
  have whole : (attempt site config request committee family) =
      (r.fetchSetup site >>= fun setup =>
        Session.withSession site family (.keygen setup request.localPartyId) (r.run site)) >>=
      fun raw => Run.queryEngine site family (.publicKey raw) >>= fun publicKey =>
        chainCode site raw family >>= fun chain =>
          pure ⟨Hex.encode publicKey, chain, Base64.encode raw⟩ := by
    rw [bind_bind]
    rfl
  rw [whole]
  refine .bind steady plays fun raw => ?_
  refine .bind steady (asks _ _) fun publicKey => ?_
  exact .bind steady (chains raw) fun chain => .done steady _

/-- An attempt at signing a message is the own of the round of the message's scope. -/
theorem Keysign.attempt_own (site : Site ε ρ σ) (config : EngineConfig) (request : KeysignRequest)
    (vault : Vault) (committee : List String) (m : KeysignMessage) :
    (attempt site config request vault committee m).Logs fun _ log =>
      log = [] ∨ ∃ scope, m.scope = .ok scope ∧
        (round config request vault committee scope).Own log := by
  unfold attempt
  cases named : m.scope with
  | error fault => exact fun _ w => ⟨[], .refl w, .inl rfl⟩
  | ok scope =>
      let r := round config request vault committee scope
      have steady := r.steady_own
      refine (?_ : Run.Keeps (fun _ log => r.Own log) _).mono fun _ log own => .inr ⟨scope, rfl, own⟩
      cases share vault m.family with
      | error e => exact .fail steady e
      | ok bytes =>
          have plays := r.play_own site m.family (.sign · vault.localPartyId bytes) fun _ => rfl
          have whole := Keeps.bind steady plays fun raw => Keeps.ofExcept (ε := ε) (ρ := ρ) (σ := σ)
            steady ((Signature.respond m.family m.message raw).mapError Signature.OutputFault.error)
          rw [bind_bind] at whole
          exact whole

end QuorumVault
