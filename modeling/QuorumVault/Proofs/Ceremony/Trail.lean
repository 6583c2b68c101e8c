/-
What is recorded of ceremonies.

Nothing is recorded in an attempt; when all attempts at a round are over, one record is
made of how they came out, and one of a signature that does not pass its check.  So the
records of a ceremony can be told from how its rounds come out, and in which order: every
round that succeeds leaves a record of what it made, the one that fails leaves the last
record, and what comes before the rounds or after them leaves none.
-/
import QuorumVault.Proofs.Ceremony.Advisory

namespace QuorumVault

open Run

variable {ε ρ σ α β : Type} {site : Site ε ρ σ} {config : EngineConfig} {limit : Option Time}
  {w w' : World ε ρ σ}

/-! ### Runs that record nothing -/

/-- The record that is made, if one is. -/
def Event.record? : Event → Option Audit.Record
  | .noted record => some record
  | _ => none

theorem Trace.records_eq (t : Trace) : t.records = t.events.filterMap Event.record? :=
  rfl

theorem Trace.records_append (t t' : Trace) : (t ++ t' : Trace).records = t'.records ++ t.records := by
  simp [Trace.records_eq, Trace.events]

theorem World.Since.records {log : List Event} (since : w.Since w' log) :
    w'.trace.records = w.trace.records ++ log.filterMap Event.record? := by
  rw [Trace.records_eq, Trace.records_eq, since, List.filterMap_append]

/-- Nothing is recorded in the run. -/
def Run.Unrecorded (m : Run ε ρ σ α) : Prop :=
  ∀ limit w, (m limit w).2.trace.records = w.trace.records

theorem Run.Unrecorded.of_keeps {m : Run ε ρ σ α}
    (h : m.Keeps fun _ log => ∀ e ∈ log, e.record? = none) : m.Unrecorded := by
  intro limit w
  obtain ⟨log, since, none⟩ := h limit w
  rw [since.records, List.filterMap_eq_nil_iff.2 none, List.append_nil]

/-- Behind a run, nothing more is recorded if the next one records nothing. -/
theorem Run.records_bind {m : Run ε ρ σ α} {f : α → Run ε ρ σ β} (quiet : ∀ x, (f x).Unrecorded) :
    ((m >>= f) limit w).2.trace.records = (m limit w).2.trace.records := by
  rcases bind_cases m f limit w with ⟨x, w₁, run, goes⟩ | ⟨e, e', w₁, run, stopped, -⟩
  · rw [goes, run]
    exact quiet x limit w₁
  · rw [stopped, run]

/-- A run that is not done is the end, and what it fails with is failed with. -/
theorem Run.bind_of_undone {m : Run ε ρ σ α} {f : α → Run ε ρ σ β} {e : Ending α}
    (run : m limit w = (e, w')) (undone : ¬∃ x, e = .done x) :
    ∃ e', (m >>= f) limit w = (e', w') ∧ ∀ err, e = .failed err → e' = .failed err := by
  rcases bind_cases m f limit w with ⟨x, w₁, done, -⟩ | ⟨e, e', w₁, run', stopped, stops⟩
  · exact absurd ⟨x, congrArg Prod.fst (run.symm.trans done)⟩ undone
  · cases run.symm.trans run'
    refine ⟨e', stopped, ?_⟩
    rintro err rfl
    cases stops
    rfl

theorem Event.record?_of_plain {e : Event} (h : e.Plain) : ∀ e' ∈ [e], e'.record? = none := by
  intro e' mem
  cases List.mem_singleton.1 mem
  cases e with
  | noted => exact absurd trivial h.2.2
  | engine | query | asked | answered | storing | stored | queued | attempt => rfl

theorem Event.record?_of_inRound {e : Event} (h : e.InRound) : e.record? = none := by
  cases e with
  | noted => cases h
  | engine | query | asked | answered | storing | stored | queued | attempt => rfl

/-! ### A record of how something came out -/

/-- The records that are made of how a run came out. -/
def Ending.report (success : α → Audit.Record) (failure : Error → Audit.Record) :
    Ending α → List Audit.Record
  | .done x => [success x]
  | .failed e => [failure e]
  | .cut | .endless | .overflow => []

/-- A run of which a record is made when it succeeds, and another one when it fails. -/
theorem Run.Unrecorded.reported {m : Run ε ρ σ α} (quiet : m.Unrecorded)
    {f : Except Error α → Run ε ρ σ α} {success : α → Audit.Record} {failure : Error → Audit.Record}
    (ok : ∀ x limit w, f (.ok x) limit w = (.done x, w.record (.noted (success x))))
    (error : ∀ e limit w, f (.error e) limit w = (.failed e, w.record (.noted (failure e))))
    (limit : Option Time) (w : World ε ρ σ) :
    ((Run.attempt m >>= f) limit w).2.trace.records = w.trace.records ++
      ((Run.attempt m >>= f) limit w).1.report success failure := by
  have same := quiet limit w
  have noted (w₁ : World ε ρ σ) (record : Audit.Record) :
      (w₁.record (.noted record)).trace.records = w₁.trace.records ++ [record] :=
    (w₁.since_record (.noted record)).records
  rcases attempt_cases m limit w with
    ⟨x, w₁, run, taken⟩ | ⟨e, w₁, run, taken⟩ | ⟨e, e', w₁, run, taken, stops, unfailed⟩
  · rw [run] at same
    rw [bind_of_done taken, ok, noted, same]
    rfl
  · rw [run] at same
    rw [bind_of_done taken, error, noted, same]
    rfl
  · rw [run] at same
    cases stops with
    | failed e => exact absurd rfl (unfailed e)
    | cut =>
        rw [bind_of_stops taken .cut, same]
        exact (List.append_nil _).symm
    | endless =>
        rw [bind_of_stops taken .endless, same]
        exact (List.append_nil _).symm
    | overflow =>
        rw [bind_of_stops taken .overflow, same]
        exact (List.append_nil _).symm

/-- Attempts record nothing if no attempt does. -/
theorem RetryPolicy.run_unrecorded {p : RetryPolicy} (pos : 0 < p.maxAttempts) (label : String)
    {op : Nat → Run ε ρ σ α} (h : ∀ n, (op n).Keeps fun _ log => ∀ e ∈ log, e.record? = none) :
    (p.run label op).Unrecorded :=
  .of_keeps (RetryPolicy.run_keeps pos label (steady_forall _)
    (fun _ => List.forall_mem_singleton.2 rfl) h)

theorem Round.session_unrecorded (r : Round) (site : Site ε ρ σ) (family : Family)
    (opening : Session.Opening) :
    (Session.withSession site family opening (r.run site)).Keeps
      fun _ log => ∀ e ∈ log, e.record? = none :=
  r.session_keeps site (fun _ => by cases opening <;> rfl) (fun _ => by cases opening <;> rfl)
    fun _ => Event.record?_of_inRound

/-! ### Creating a vault -/

namespace Keygen

/-- What is recorded of the attempts at a round. -/
def report (request : KeygenRequest) (family : Family) : Ending Outcome → List Audit.Record :=
  Ending.report
    (fun outcome => ⟨.keygen, request.sessionId, some request.localPartyId,
      family.label ++ " key " ++ outcome.publicKey ++ " generated"⟩)
    (fun e => ⟨.ofError e, request.sessionId, some request.localPartyId,
      label family ++ " failed: " ++ e.message⟩)

theorem attempts_reported (site : Site ε ρ σ) (config : EngineConfig) (request : KeygenRequest)
    (committee : List String) (family : Family) (limit : Option Time) (w : World ε ρ σ) :
    (attempts site config request committee family limit w).2.trace.records = w.trace.records ++
      report request family (attempts site config request committee family limit w).1 := by
  unfold attempts
  cases h : config.timeouts.keygenRetry? with
  | none => exact (List.append_nil _).symm
  | some policy =>
      have each (_ : Nat) := attempt_keeps (steady_forall _) (fun _ => Event.record?_of_plain)
        (fun family opening r => r.session_unrecorded site family opening) config request committee
        family
      exact (RetryPolicy.run_unrecorded (Timeouts.maxAttempts_pos h) (label family) each).reported
        (fun _ _ _ => rfl) (fun _ _ _ => rfl) limit w

/-- The members meet to create a vault, if the request is good. -/
def meet (site : Site ε ρ σ) (config : EngineConfig) (request : KeygenRequest) :
    Run ε ρ σ (List String) := do
  Run.ofExcept (request.check.mapError RequestFault.error)
  gather site config request

/-- How the rounds of creating a vault come out, in order. -/
inductive RoundsCome (site : Site ε ρ σ) (config : EngineConfig) (request : KeygenRequest)
    (limit : Option Time) (w : World ε ρ σ) : List (Family × Ending Outcome) → Prop
  | unmet (unmet : ∀ committee w', meet site config request limit w ≠ (.done committee, w')) :
      RoundsCome site config request limit w []
  | first {committee w₁ out w₂} (met : meet site config request limit w = (.done committee, w₁))
      (ecdsa : attempts site config request committee .ecdsa limit w₁ = (out, w₂))
      (unmade : ∀ outcome, out ≠ .done outcome) :
      RoundsCome site config request limit w [(.ecdsa, out)]
  | settling {committee w₁ outcome w₂}
      (met : meet site config request limit w = (.done committee, w₁))
      (ecdsa : attempts site config request committee .ecdsa limit w₁ = (.done outcome, w₂))
      (unsettled : ∀ w₃, Run.wait (some config.timeouts.settleDelay.pause) limit w₂ ≠ (.done (), w₃)) :
      RoundsCome site config request limit w [(.ecdsa, .done outcome)]
  | both {committee w₁ outcome w₂ w₃ out w₄}
      (met : meet site config request limit w = (.done committee, w₁))
      (ecdsa : attempts site config request committee .ecdsa limit w₁ = (.done outcome, w₂))
      (settled : Run.wait (some config.timeouts.settleDelay.pause) limit w₂ = (.done (), w₃))
      (eddsa : attempts site config request committee .eddsa limit w₃ = (out, w₄)) :
      RoundsCome site config request limit w [(.ecdsa, .done outcome), (.eddsa, out)]

/-- What is recorded of creating a vault is how its rounds come out, and one that fails is the end. -/
structure Reported (site : Site ε ρ σ) (config : EngineConfig) (request : KeygenRequest)
    (limit : Option Time) (w : World ε ρ σ) (rounds : List (Family × Ending Outcome))
    (out : Ending (String × String) × World ε ρ σ) : Prop where
  come : RoundsCome site config request limit w rounds
  /-- Of each round, how it came out is recorded, and of nothing else. -/
  records : out.2.trace.records =
    w.trace.records ++ rounds.flatMap fun round => report request round.1 round.2
  fails : ∀ family e, (family, .failed e) ∈ rounds → out.1 = .failed e

theorem meet_unrecorded (site : Site ε ρ σ) (config : EngineConfig) (request : KeygenRequest) :
    (meet site config request).Unrecorded :=
  .of_keeps (.bind (steady_forall _) (.ofExcept (steady_forall _) _) fun _ =>
    gather_keeps (steady_forall _) (fun _ => Event.record?_of_plain) config request)

/-- What is done when both rounds have succeeded. -/
def conclude (site : Site ε ρ σ) (config : EngineConfig) (request : KeygenRequest) (m : Made) :
    Run ε ρ σ (String × String) := do
  leave site request m.committee
  store site config request m

theorem createVault_eq_meet (site : Site ε ρ σ) (config : EngineConfig) (request : KeygenRequest) :
    createVault site config request = meet site config request >>= fun committee =>
      attempts site config request committee .ecdsa >>= fun ecdsa =>
      Run.wait (some config.timeouts.settleDelay.pause) >>= fun _ =>
      attempts site config request committee .eddsa >>= fun eddsa =>
      conclude site config request ⟨committee, ecdsa, eddsa⟩ := by
  unfold meet
  simp only [bind_bind]
  rfl

theorem conclude_unrecorded (site : Site ε ρ σ) (config : EngineConfig) (request : KeygenRequest)
    (m : Made) : (conclude site config request m).Unrecorded := by
  have leaves : (leave site request m.committee).Keeps fun _ log => ∀ e ∈ log, e.record? = none := by
    refine (leave_logs site request m).mono fun e log leaves => ?_
    cases leaves <;> simp [Event.record?]
  have stores : (store site config request m).Keeps fun _ log => ∀ e ∈ log, e.record? = none := by
    intro limit w
    obtain ⟨v, nonce, -, same⟩ := store_eq site config request m limit w
    obtain ⟨log, since, stores⟩ := save_logs site config request m
      (nameOf request v.publicKeyEcdsa) (contentOf request v nonce) limit w.sealOnce
    rw [same]
    refine ⟨log, since, ?_⟩
    generalize (save site config request m _ _ limit w.sealOnce).1 = e at stores
    cases stores with
    | waits | refused => simp [Event.record?]
    | stored => simp [Event.record?, sent]
  exact .of_keeps (.bind (steady_forall _) leaves fun _ => stores)

/-- Behind the second round, nothing more is recorded. -/
theorem second_reported (site : Site ε ρ σ) (config : EngineConfig) (request : KeygenRequest)
    (m : Outcome → Made) (committee : List String) {out : Ending Outcome}
    (eddsa : attempts site config request committee .eddsa limit w = (out, w')) :
    let whole := (attempts site config request committee .eddsa >>= fun outcome =>
      conclude site config request (m outcome)) limit w
    whole.2.trace.records = w.trace.records ++ report request .eddsa out ∧
      ∀ e, out = .failed e → whole.1 = .failed e := by
  have reported := attempts_reported site config request committee .eddsa limit w
  rw [eddsa] at reported
  constructor
  · rw [records_bind fun outcome => conclude_unrecorded site config request (m outcome), eddsa]
    exact reported
  · rintro e rfl
    rw [bind_of_stops eddsa (.failed e)]

/-- When the members have met, how the rounds come out is recorded, and nothing else. -/
theorem rounds_reported {site : Site ε ρ σ} {config : EngineConfig} {request : KeygenRequest}
    {committee : List String} {w₁ : World ε ρ σ}
    (meets : meet site config request limit w = (.done committee, w₁))
    (met : w₁.trace.records = w.trace.records) :
    ∃ rounds, Reported site config request limit w rounds
      ((attempts site config request committee .ecdsa >>= fun ecdsa =>
        Run.wait (some config.timeouts.settleDelay.pause) >>= fun _ =>
        attempts site config request committee .eddsa >>= fun eddsa =>
        conclude site config request ⟨committee, ecdsa, eddsa⟩) limit w₁) := by
  have first := attempts_reported site config request committee .ecdsa limit w₁
  rcases ecdsa : attempts site config request committee .ecdsa limit w₁ with ⟨e, w₂⟩
  rw [ecdsa, met] at first
  by_cases done : ∃ outcome, e = .done outcome
  case neg =>
    obtain ⟨e', stopped, fails⟩ := bind_of_undone ecdsa done
    rw [stopped]
    refine ⟨[(.ecdsa, e)], .first meets ecdsa fun outcome same => done ⟨outcome, same⟩, ?_, ?_⟩
    · exact first.trans (congrArg _ (List.append_nil _).symm)
    · intro family err mem
      cases List.mem_singleton.1 mem
      exact fails err rfl
  obtain ⟨outcome, rfl⟩ := done
  rw [bind_of_done ecdsa]
  rcases wait_some_cases config.timeouts.settleDelay.pause limit w₂ with settled | ⟨last, -, -, cut⟩
  case inr =>
    rw [bind_of_stops cut .cut]
    refine ⟨[(.ecdsa, .done outcome)], .settling meets ecdsa fun w₃ settled => ?_, ?_, ?_⟩
    · cases cut.symm.trans settled
    · exact first.trans (congrArg _ (List.append_nil _).symm)
    · intro family err mem
      cases List.mem_singleton.1 mem
  rw [bind_of_done settled]
  rcases eddsa : attempts site config request committee .eddsa limit
    (w₂.advanceTo (w₂.now + config.timeouts.settleDelay.pause)) with ⟨out, w₄⟩
  obtain ⟨second, fails⟩ :=
    second_reported site config request (⟨committee, outcome, ·⟩) committee eddsa
  refine ⟨_, .both meets ecdsa settled eddsa, ?_, ?_⟩
  · rw [second]
    exact (congrArg (· ++ _) first).trans (by simp)
  · intro family err mem
    rcases List.mem_cons.1 mem with same | mem
    · cases same
    · cases List.mem_singleton.1 mem
      exact fails err rfl

/-- Of creating a vault, how its rounds come out is recorded, and nothing else. -/
theorem createVault_reported (site : Site ε ρ σ) (config : EngineConfig) (request : KeygenRequest)
    (limit : Option Time) (w : World ε ρ σ) :
    ∃ rounds, Reported site config request limit w rounds
      (createVault site config request limit w) := by
  rw [createVault_eq_meet]
  have met := meet_unrecorded site config request limit w
  rcases meets : meet site config request limit w with ⟨e, w₁⟩
  rw [meets] at met
  by_cases done : ∃ committee, e = .done committee
  case neg =>
    obtain ⟨e', stopped, -⟩ := bind_of_undone meets done
    rw [stopped]
    refine ⟨[], .unmet fun committee w' meets' => ?_, ?_, nofun⟩
    · exact done ⟨committee, congrArg Prod.fst (meets.symm.trans meets')⟩
    · exact met.trans (List.append_nil _).symm
  obtain ⟨committee, rfl⟩ := done
  rw [bind_of_done meets]
  exact rounds_reported meets met

end Keygen

/-! ### Signing messages -/

namespace Keysign

variable {request : KeysignRequest} {vault : Vault} {m : KeysignMessage} {response : KeysignResponse}

/-- The key that signatures of a family are checked against, as the engine knows it in a world. -/
inductive KeyOf (site : Site ε ρ σ) (request : KeysignRequest) (vault : Vault) (w : World ε ρ σ) :
    Family → String → Prop
  | eddsa : KeyOf site request vault w .eddsa vault.publicKeyEddsa
  | ecdsa (blank : Text.Blank request.derivePath) :
      KeyOf site request vault w .ecdsa vault.publicKeyEcdsa
  | child {bytes key} (path : ¬Text.Blank request.derivePath)
      (held : share vault .ecdsa = .ok bytes)
      (derived : (site.engine .ecdsa).query (w.engines .ecdsa)
        (.childKey bytes (Text.trim request.derivePath)) = .ok key) :
      KeyOf site request vault w .ecdsa (Hex.encode key)

/-- The signature is good for the message and for the key that it is to be checked against. -/
def Verifies (site : Site ε ρ σ) (request : KeysignRequest) (vault : Vault) (w : World ε ρ σ)
    (m : KeysignMessage) (response : KeysignResponse) : Prop :=
  ∃ message key, m.bytes = .ok message ∧ KeyOf site request vault w m.family key ∧
    Signature.check m.family key message response.r response.s = .ok ()

theorem checkingKey_eq_done_iff {family : Family} {key : String} :
    (checkingKey site request vault family limit w).1 = .done key ↔
      KeyOf site request vault w family key := by
  cases family with
  | eddsa =>
      constructor
      · rintro ⟨⟩
        exact .eddsa
      · rintro ⟨⟩
        rfl
  | ecdsa =>
      unfold checkingKey
      dsimp only
      by_cases blank : Text.Blank request.derivePath
      · rw [if_pos (Text.trim_eq_empty_iff.2 blank)]
        constructor
        · rintro ⟨⟩
          exact .ecdsa blank
        · rintro (_ | _ | ⟨path⟩)
          · rfl
          · exact absurd blank path
      · rw [if_neg fun empty => blank (Text.trim_eq_empty_iff.1 empty)]
        constructor
        · intro done
          obtain ⟨bytes, _, holds, done⟩ := bind_eq_done (Prod.ext done rfl)
          obtain ⟨held, rfl⟩ := ofExcept_eq_done holds
          obtain ⟨child, _, derives, done⟩ := bind_eq_done done
          obtain ⟨derived, -⟩ := ofExcept_eq_done derives
          cases done
          exact .child blank held derived
        · rintro (_ | ⟨empty⟩ | ⟨-, held, derived⟩)
          · exact absurd empty blank
          · rw [held]
            show (andThen (queryEngine site .ecdsa _) _ limit w).1 = _
            unfold andThen queryEngine World.queryEngine
            rw [derived]
            rfl

/-- A check passes if the signature is good, and only then. -/
theorem check_eq_done_iff :
    (check site request vault m response limit w).1 = .done () ↔
      Verifies site request vault w m response := by
  constructor
  · intro done
    obtain ⟨message, _, reads, done⟩ := bind_eq_done (Prod.ext done rfl)
    obtain ⟨read, rfl⟩ := ofExcept_eq_done reads
    obtain ⟨key, _, keyed, done⟩ := bind_eq_done done
    obtain ⟨checked, -⟩ := ofExcept_eq_done done
    exact ⟨message, key, mapError_eq_ok read,
      checkingKey_eq_done_iff.1 (congrArg Prod.fst keyed), mapError_eq_ok checked⟩
  · rintro ⟨message, key, read, keyed, good⟩
    have keyed : (checkingKey site request vault m.family limit w).1 = .done key :=
      checkingKey_eq_done_iff.2 keyed
    unfold check
    rw [read]
    show ((checkingKey site request vault m.family >>= fun key => Run.ofExcept
      ((Signature.check m.family key message response.r response.s).mapError
        Signature.Fault.error)) limit w).1 = .done ()
    rw [bind_of_fst keyed, good]
    rfl

/-- What is recorded of the check of a signature: nothing if it is good, and otherwise that it is
not. -/
inductive Checked (site : Site ε ρ σ) (request : KeysignRequest) (vault : Vault) (w : World ε ρ σ)
    (m : KeysignMessage) (response : KeysignResponse) : List Audit.Record → Prop
  | good (verifies : Verifies site request vault w m response) :
      Checked site request vault w m response []
  | bad (unverified : ¬Verifies site request vault w m response) (reason : Error) :
      Checked site request vault w m response [⟨.verification, request.sessionId,
        some vault.localPartyId, "signature for " ++ m.hash ++ " did not verify: " ++ reason.message⟩]

theorem verify_checked (site : Site ε ρ σ) (request : KeysignRequest) (vault : Vault)
    (m : KeysignMessage) (response : KeysignResponse) (limit : Option Time) (w : World ε ρ σ) :
    ∃ w' records, verify site request vault m response limit w = (.done (), w') ∧
      w'.trace.records = w.trace.records ++ records ∧
      Checked site request vault w m response records := by
  obtain ⟨asked, result, asks, checked, recorded⟩ :=
    exists_recorded site request vault m response limit w
  refine ⟨_, verdict request vault m result, recorded, ?_, ?_⟩
  · have quiet : asked.records = [] := by
      refine List.filterMap_eq_nil_iff.2 fun e mem => ?_
      obtain ⟨⟨t, e⟩, queried, rfl⟩ := List.mem_map.1 mem
      cases asks _ (List.mem_reverse.1 queried)
      rfl
    rw [Trace.records_append, Trace.records_append, quiet]
    cases result <;> rfl
  · have verifies : (check site request vault m response limit w).1 = .done () ↔
        Verifies site request vault w m response := check_eq_done_iff
    rw [checked] at verifies
    cases result with
    | ok => exact .good (verifies.1 rfl)
    | error e => exact .bad (fun good => nomatch verifies.2 good) e

/-- What is recorded of the attempts at signing a message. -/
def report (request : KeysignRequest) (vault : Vault) (m : KeysignMessage) :
    Ending KeysignResponse → List Audit.Record :=
  Ending.report
    (fun _ => ⟨.keysign, request.sessionId, some vault.localPartyId, "signed message " ++ m.hash⟩)
    (fun e => ⟨.ofError e, request.sessionId, some vault.localPartyId,
      label m ++ " failed: " ++ e.message⟩)

theorem attempts_reported (site : Site ε ρ σ) (config : EngineConfig) (request : KeysignRequest)
    (vault : Vault) (committee : List String) (m : KeysignMessage) (limit : Option Time)
    (w : World ε ρ σ) :
    (attempts site config request vault committee m limit w).2.trace.records = w.trace.records ++
      report request vault m (attempts site config request vault committee m limit w).1 := by
  unfold attempts
  cases h : config.timeouts.keysignRetry? with
  | none => exact (List.append_nil _).symm
  | some policy =>
      have each (_ : Nat) : (attempt site config request vault committee m).Keeps
          fun _ log => ∀ e ∈ log, e.record? = none :=
        attempt_keeps (steady_forall _) (fun _ => Event.record?_of_plain) config request
          (fun family setup bytes r _ => r.session_unrecorded site family (.sign setup _ bytes))
          committee m
      exact (RetryPolicy.run_unrecorded (Timeouts.maxAttempts_pos h) (label m) each).reported
        (fun _ _ _ => rfl) (fun _ _ _ => rfl) limit w

/-- How the messages of a request come to be signed, in order, and what is recorded of them. -/
inductive MessagesCome (site : Site ε ρ σ) (config : EngineConfig) (request : KeysignRequest)
    (vault : Vault) (committee : List String) (limit : Option Time) : World ε ρ σ →
    List KeysignMessage → List (KeysignMessage × Ending KeysignResponse) → List Audit.Record → Prop
  | none {w : World ε ρ σ} : MessagesCome site config request vault committee limit w [] [] []
  | signed {w : World ε ρ σ} {m rest response w₁ verdict outs records}
      (signed : attempts site config request vault committee m limit w = (.done response, w₁))
      (checked : Checked site request vault w₁ m response verdict)
      (next : MessagesCome site config request vault committee limit
        (verify site request vault m response limit w₁).2 rest outs records) :
      MessagesCome site config request vault committee limit w (m :: rest)
        ((m, .done response) :: outs) (report request vault m (.done response) ++ verdict ++ records)
  | last {w : World ε ρ σ} {m rest out w₁}
      (tried : attempts site config request vault committee m limit w = (out, w₁))
      (unsigned : ∀ response, out ≠ .done response) :
      MessagesCome site config request vault committee limit w (m :: rest) [(m, out)]
        (report request vault m out)

theorem signAll_reported (site : Site ε ρ σ) (config : EngineConfig) (request : KeysignRequest)
    (vault : Vault) (committee : List String) (limit : Option Time) (messages : List KeysignMessage)
    (results : KeysignResults) (w : World ε ρ σ) :
    ∃ outs records,
      MessagesCome site config request vault committee limit w messages outs records ∧
      (signAll site config request vault committee messages results limit w).2.trace.records =
        w.trace.records ++ records ∧
      ∀ m e, (m, .failed e) ∈ outs →
        (signAll site config request vault committee messages results limit w).1 = .failed e := by
  induction messages generalizing results w with
  | nil => exact ⟨[], [], .none, (List.append_nil _).symm, nofun⟩
  | cons m rest ih =>
      have reported := attempts_reported site config request vault committee m limit w
      unfold signAll
      rcases tried : attempts site config request vault committee m limit w with ⟨out, w₁⟩
      rw [tried] at reported
      by_cases signed : ∃ response, out = .done response
      case neg =>
        obtain ⟨e', stopped, fails⟩ := bind_of_undone tried signed
        rw [stopped]
        refine ⟨_, _, .last tried fun response same => signed ⟨response, same⟩, reported, ?_⟩
        intro m' e mem
        cases List.mem_singleton.1 mem
        exact fails e rfl
      obtain ⟨response, rfl⟩ := signed
      obtain ⟨w₂, verdict, verified, checks, checked⟩ :=
        verify_checked site request vault m response limit w₁
      obtain ⟨outs, records, come, recorded, fails⟩ := ih (results.insert m.hash response) w₂
      rw [bind_of_done tried, bind_of_done verified]
      refine ⟨_, _, .signed tried checked (by rw [verified]; exact come), ?_, ?_⟩
      · rw [recorded, checks, reported, List.append_assoc, List.append_assoc, List.append_assoc]
      · intro m' e mem
        rcases List.mem_cons.1 mem with same | mem
        · cases same
        · exact fails m' e mem

/-- The vault is opened and the members meet, if the request is good. -/
def meet (site : Site ε ρ σ) (config : EngineConfig) (request : KeysignRequest) :
    Run ε ρ σ (Vault × List String) := do
  Run.ofExcept (request.check.mapError RequestFault.error)
  let vault ← openVault site config request
  return (vault, ← gather site config request vault)

theorem meet_unrecorded (site : Site ε ρ σ) (config : EngineConfig) (request : KeysignRequest) :
    (meet site config request).Unrecorded := by
  have steady := steady_forall fun e => e.record? = none
  have opens : (openVault site config request).Keeps fun _ log => ∀ e ∈ log, e.record? = none :=
    openVault_keeps steady config request (fun _ => List.forall_mem_singleton.2 rfl)
      fun _ _ => List.forall_mem_singleton.2 rfl
  refine .of_keeps (.bind steady (.ofExcept steady _) fun _ => .bind steady opens fun vault => ?_)
  exact .bind steady (gather_keeps steady (fun _ => Event.record?_of_plain) config request vault)
    fun _ => .done steady _

/-- What is recorded of signing messages is how they come to be signed, and one that fails is the
end. -/
inductive Reported (site : Site ε ρ σ) (config : EngineConfig) (request : KeysignRequest)
    (limit : Option Time) (w : World ε ρ σ) (out : Ending KeysignResults × World ε ρ σ) : Prop
  | unmet (unmet : ∀ met w', meet site config request limit w ≠ (.done met, w'))
      (records : out.2.trace.records = w.trace.records) :
      Reported site config request limit w out
  | met {vault committee w₁ outs records}
      (met : meet site config request limit w = (.done (vault, committee), w₁))
      (come : MessagesCome site config request vault committee limit w₁ request.messages outs records)
      (records : out.2.trace.records = w.trace.records ++ records)
      (fails : ∀ m e, (m, .failed e) ∈ outs → out.1 = .failed e) :
      Reported site config request limit w out

theorem signMessages_eq_meet (site : Site ε ρ σ) (config : EngineConfig)
    (request : KeysignRequest) :
    signMessages site config request = meet site config request >>= fun met =>
      signAll site config request met.1 met.2 request.messages .empty >>= fun results =>
      Run.attempt (Run.askRelay site (.complete request.sessionId met.1.localPartyId)) >>= fun _ =>
      pure results := by
  unfold meet
  simp only [bind_bind, pure_bind]
  rfl

/-- Of signing messages, how they come to be signed is recorded, and nothing else. -/
theorem signMessages_reported (site : Site ε ρ σ) (config : EngineConfig)
    (request : KeysignRequest) (limit : Option Time) (w : World ε ρ σ) :
    Reported site config request limit w (signMessages site config request limit w) := by
  rw [signMessages_eq_meet]
  have quiet := meet_unrecorded site config request limit w
  rcases meets : meet site config request limit w with ⟨e, w₁⟩
  rw [meets] at quiet
  by_cases done : ∃ met, e = .done met
  case neg =>
    obtain ⟨e', stopped, -⟩ := bind_of_undone meets done
    rw [stopped]
    exact .unmet (fun met w' meets' => done ⟨met, congrArg Prod.fst (meets.symm.trans meets')⟩) quiet
  obtain ⟨⟨vault, committee⟩, rfl⟩ := done
  rw [bind_of_done meets]
  obtain ⟨outs, records, come, recorded, fails⟩ := signAll_reported site config request vault committee
    limit request.messages .empty w₁
  refine .met meets come ?_ fun m e mem => ?_
  · rw [records_bind, recorded, quiet]
    intro results
    have steady := steady_forall fun e => e.record? = none
    exact .of_keeps (.bind steady (.attempt (.askRelay steady (List.forall_mem_singleton.2 rfl)
      fun _ => List.forall_mem_singleton.2 rfl)) fun _ => .done steady results)
  · exact congrArg Prod.fst (bind_of_stops (Prod.ext (fails m e mem) rfl) (.failed e))

end Keysign

/-! ### Kinds of failure -/

namespace Audit.Kind

/-- A failure is recorded as taking too long if the last attempt, however deep, did. -/
theorem ofError_eq_timeout_iff (e : Error) :
    ofError e = .timeout ↔ ∃ detail, e.root = .of .timeout detail := by
  induction e with
  | of kind detail => cases kind <;> simp [ofError, Error.root]
  | exhausted label attempts last ih => exact ih

/-- Every other one is recorded as a failure. -/
theorem ofError_eq_failure_iff (e : Error) :
    ofError e = .failure ↔ ∀ detail, e.root ≠ .of .timeout detail := by
  induction e with
  | of kind detail => cases kind <;> simp [ofError, Error.root]
  | exhausted label attempts last ih => exact ih

end Audit.Kind

/-- What is recorded of a ceremony is how its rounds come out, one after the other, and which
signatures are not good; a round that fails is the end, and its record tells whether it took too
long. -/
theorem ceremonies_recorded (site : Site ε ρ σ) (config : EngineConfig) (limit : Option Time)
    (w : World ε ρ σ) :
    (∀ request, ∃ rounds, Keygen.Reported site config request limit w rounds
      (Keygen.createVault site config request limit w)) ∧
    (∀ request, Keysign.Reported site config request limit w
      (Keysign.signMessages site config request limit w)) ∧
    ∀ e, (Audit.Kind.ofError e = .timeout ↔ ∃ detail, e.root = .of .timeout detail) ∧
      (Audit.Kind.ofError e = .failure ↔ ∀ detail, e.root ≠ .of .timeout detail) :=
  ⟨fun request => Keygen.createVault_reported site config request limit w,
    fun request => Keysign.signMessages_reported site config request limit w,
    fun e => ⟨Audit.Kind.ofError_eq_timeout_iff e, Audit.Kind.ofError_eq_failure_iff e⟩⟩

end QuorumVault
