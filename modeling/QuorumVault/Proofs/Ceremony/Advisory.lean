/-
Checking signatures is advisory.

A signature is checked at once and by the local member alone: the only one who is asked is the
engine, for the key to check against, and all that comes of a check is a record if it does not
pass.  So signing is the same, at the same times, as signing without any checks; and that does
not depend on the path of the key nor on what the engine answers when it is asked for it.
-/
import QuorumVault.Proofs.Ceremony.Isolation
import QuorumVault.Proofs.Round.Sites

namespace QuorumVault

open Run

variable {ε ρ ρ' σ α β : Type}

/-- What engines answer to questions about shares. -/
abbrev Engine.Answers (ε : Type) := Family → ε → Engine.Query → Except Error Bytes

/-- The site with engines that answer questions about shares like this. -/
def Site.asking (site : Site ε ρ σ) (answers : Engine.Answers ε) : Site ε ρ σ :=
  { site with engine := fun family => { site.engine family with query := answers family } }

/-- A round asks no questions about shares. -/
theorem Round.run_asking (site : Site ε ρ σ) (answers : Engine.Answers ε) (r : Round) :
    r.run (site.asking answers) = r.run site := by
  have same : r.SameSite site (site.asking answers) := {
    engine := fun _ _ _ => rfl
    upload := fun _ _ => rfl
    download := fun _ => rfl
    delete := fun _ _ => rfl
    nonce := rfl
    receiverFirst := rfl
    patience := rfl }
  exact same.run_eq

/-! ### Runs that come out at once -/

namespace Run

/-- The run comes out at once, and nothing happens in it but what has the property. -/
def AtOnce (P : Event → Prop) (m : Run ε ρ σ α) : Prop :=
  ∀ limit w, ∃ log : Trace, (∀ x ∈ log, P x.2) ∧
    ∃ result, m limit w = Run.ofExcept result limit { w with trace := log ++ w.trace }

namespace AtOnce

variable {P : Event → Prop} {m : Run ε ρ σ α} {f : α → Run ε ρ σ β} {site : Site ε ρ σ}

theorem ofExcept (x : Except Error α) : AtOnce P (Run.ofExcept x : Run ε ρ σ α) :=
  fun _ _ => ⟨[], nofun, x, rfl⟩

theorem done (x : α) : AtOnce P (pure x : Run ε ρ σ α) :=
  ofExcept (.ok x)

theorem bind (first : m.AtOnce P) (after : ∀ x, (f x).AtOnce P) : (m >>= f).AtOnce P := by
  intro limit w
  obtain ⟨log, all, result, came⟩ := first limit w
  cases result with
  | error e => exact ⟨log, all, .error e, bind_of_stops came (.failed e)⟩
  | ok x =>
      obtain ⟨more, all', result, went⟩ := after x limit { w with trace := log ++ w.trace }
      refine ⟨more ++ log, List.forall_mem_append.2 ⟨all', all⟩, result, ?_⟩
      rw [bind_of_done came, went, List.append_assoc]

theorem queryEngine {family : Family} {q : Engine.Query} (h : ∀ answer, P (.query family q answer)) :
    AtOnce P (Run.queryEngine site family q) :=
  fun _ w => ⟨[(w.now, .query family q ((site.engine family).query (w.engines family) q))],
    by simpa using h _, _, rfl⟩

end AtOnce

end Run

/-! ### Events of checks -/

/-- The engine is asked for the key at a path. -/
inductive Event.AsksChildKey : Event → Prop
  | query (family : Family) (share : Bytes) (path : String) (answer : Except Error Bytes) :
      AsksChildKey (.query family (.childKey share path) answer)

/-- All that happens but the checking of signatures. -/
def Event.unchecked : View
  | .query _ (.childKey ..) _ => none
  | .noted record => if record.kind = .verification then none else some (.noted record)
  | e => some e

/-- What is read off events other than checks is the same to twins. -/
theorem World.Twin.filterMap_events_unchecked {R : ρ → ρ' → Prop} {w : World ε ρ σ} {w' : World ε ρ' σ}
    (h : w.Twin Event.unchecked R w') {f : Event → Option α}
    (queries : ∀ family q answer, f (.query family q answer) = none)
    (verdicts : ∀ record, record.kind = .verification → f (.noted record) = none) :
    w.trace.events.filterMap f = w'.trace.events.filterMap f := by
  refine h.filterMap_events fun e => ?_
  cases e with
  | query family q answer =>
      rw [queries]
      cases q with
      | childKey => rfl
      | publicKey | chainCode => exact queries ..
  | noted record =>
      by_cases verdict : record.kind = .verification
      · rw [verdicts record verdict]
        simp [Event.unchecked, verdict]
      · simp [Event.unchecked, verdict]
  | engine | asked | answered | storing | stored | queued | attempt => rfl

/-! ### Checks -/

namespace Keysign

variable (site : Site ε ρ σ) (config : EngineConfig) (request : KeysignRequest)

/-- A check comes out at once, and nobody but the engine is asked, for a key. -/
theorem check_atOnce (vault : Vault) (m : KeysignMessage) (response : KeysignResponse) :
    (check site request vault m response).AtOnce Event.AsksChildKey := by
  have key : (checkingKey site request vault m.family).AtOnce Event.AsksChildKey := by
    cases m.family with
    | eddsa => exact .done _
    | ecdsa =>
        unfold checkingKey
        dsimp only
        split
        · exact .done _
        · exact .bind (.ofExcept _) fun share => .bind (.queryEngine fun _ => .query ..) fun _ =>
            .done _
  exact .bind (.ofExcept _) fun _ => .bind key fun _ => .ofExcept _

/-- What is recorded of a check. -/
def verdict (vault : Vault) (m : KeysignMessage) : Except Error Unit → List Audit.Record
  | .ok () => []
  | .error e => [⟨.verification, request.sessionId, some vault.localPartyId,
      "signature for " ++ m.hash ++ " did not verify: " ++ e.message⟩]

/-- Whatever comes of a check, it is over at once, and only its record is left. -/
structure Recorded (vault : Vault) (m : KeysignMessage) (response : KeysignResponse)
    (limit : Option Time) (w : World ε ρ σ) (asked : Trace) (result : Except Error Unit) : Prop where
  asks : ∀ x ∈ asked, x.2.AsksChildKey
  checked : check site request vault m response limit w =
    Run.ofExcept result limit { w with trace := asked ++ w.trace }
  recorded : verify site request vault m response limit w =
    (.done (), { w with trace :=
      (verdict request vault m result).map (w.now, .noted ·) ++ asked ++ w.trace })

theorem exists_recorded (vault : Vault) (m : KeysignMessage) (response : KeysignResponse)
    (limit : Option Time) (w : World ε ρ σ) :
    ∃ asked result, Recorded site request vault m response limit w asked result := by
  obtain ⟨asked, asks, result, checked⟩ := check_atOnce site request vault m response limit w
  refine ⟨asked, result, asks, checked, ?_⟩
  have taken : Run.attempt (check site request vault m response) limit w =
      (.done result, { w with trace := asked ++ w.trace }) := by
    unfold Run.attempt
    rw [checked]
    cases result <;> rfl
  unfold verify
  rw [bind_of_done taken]
  cases result <;> rfl

/-- Nothing is seen of a check. -/
theorem verify_unseen (vault : Vault) (m : KeysignMessage) (response : KeysignResponse) :
    (verify site request vault m response).Unseen Event.unchecked := by
  intro limit w
  obtain ⟨asked, result, asks, -, recorded⟩ := exists_recorded site request vault m response limit w
  refine ⟨_, ?_, recorded⟩
  refine List.filterMap_eq_nil_iff.2 fun x mem => ?_
  rcases List.mem_append.1 mem with noted | queried
  · obtain ⟨record, among, rfl⟩ := List.mem_map.1 noted
    cases result with
    | ok => cases among
    | error e =>
        cases List.mem_singleton.1 among
        rfl
  · obtain ⟨t, e⟩ := x
    cases asks _ queried
    rfl

/-! ### Signing without checks -/

/-- Signs messages one after the other and checks no signature. -/
def signAllUnchecked (vault : Vault) (committee : List String) :
    List KeysignMessage → KeysignResults → Run ε ρ σ KeysignResults
  | [], results => return results
  | m :: rest, results => do
    let response ← attempts site config request vault committee m
    signAllUnchecked vault committee rest (results.insert m.hash response)

/-- Signs the messages of a request and checks no signature. -/
def signUnchecked : Run ε ρ σ KeysignResults := do
  Run.ofExcept (request.check.mapError RequestFault.error)
  let vault ← openVault site config request
  let committee ← gather site config request vault
  let results ← signAllUnchecked site config request vault committee request.messages .empty
  let _ ← Run.attempt (Run.askRelay site (.complete request.sessionId vault.localPartyId))
  return results

/-- Whatever engines answer to questions about shares and whatever the path is, a message is signed
in the same way. -/
theorem attempts_asking (answers : Engine.Answers ε) (path : String) (vault : Vault)
    (committee : List String) (m : KeysignMessage) :
    attempts (site.asking answers) config { request with derivePath := path } vault committee m =
      attempts site config request vault committee m := by
  have tries : attempt (site.asking answers) config { request with derivePath := path } vault
      committee m = attempt site config request vault committee m := by
    unfold attempt
    simp only [Round.run_asking]
    rfl
  unfold attempts
  rw [tries]
  rfl

theorem signAllUnchecked_asking (answers : Engine.Answers ε) (path : String) (vault : Vault)
    (committee : List String) (messages : List KeysignMessage) (results : KeysignResults) :
    signAllUnchecked (site.asking answers) config { request with derivePath := path } vault committee
        messages results =
      signAllUnchecked site config request vault committee messages results := by
  induction messages generalizing results with
  | nil => rfl
  | cons m rest ih => simp only [signAllUnchecked, attempts_asking, ih]

/-- Without checks the path and the answers are never looked at. -/
theorem signUnchecked_asking (answers : Engine.Answers ε) (path : String) :
    signUnchecked (site.asking answers) config { request with derivePath := path } =
      signUnchecked site config request := by
  unfold signUnchecked
  simp only [signAllUnchecked_asking]
  rfl

/-! ### Checks make no difference -/

theorem signAll_skips {relay' : Relay ρ'} {scopes : Option String → Prop} (vault : Vault)
    (committee : List String) {messages : List KeysignMessage}
    (used : ∀ m ∈ messages, ∀ name, m.scope = .ok name → scopes (some name))
    (results : KeysignResults) :
    Run.Twin Event.unchecked (site.relay.AgreeWithin scopes relay')
      (signAll site config request vault committee messages results)
      (signAllUnchecked (site.over relay') config request vault committee messages results) := by
  induction messages generalizing results with
  | nil => exact .done _
  | cons m rest ih =>
      obtain ⟨used, later⟩ := List.forall_mem_cons.1 used
      refine .bind (attempts_twin config request vault committee used) fun response => ?_
      exact .skip (verify_unseen site request vault m response) (ih later _)

/-- Signing with checks and without them is the same but for the checks, over relays that agree on the
scopes of the messages. -/
theorem signMessages_skips {relay' : Relay ρ'} :
    Run.Twin Event.unchecked (site.relay.AgreeWithin (Scopes request) relay')
      (signMessages site config request) (signUnchecked (site.over relay') config request) := by
  refine .bind (.ofExcept _) fun _ => ?_
  refine .bind (openVault_twin config request) fun vault => ?_
  refine .bind (gather_twin config request vault) fun committee => ?_
  refine .bind (signAll_skips site config request vault committee ?_ _) fun results => ?_
  · exact fun m mem name named => ⟨m, mem, name, named, rfl⟩
  · exact .bind (.attempt (.askRelay_within nofun)) fun _ => .done _

/-- The records that are not of checks. -/
def otherRecords (trace : Trace) : List Audit.Record :=
  trace.records.filter (·.kind ≠ .verification)

/-- Two runs come to the same, and do the same at the same times, but for the checking of signatures. -/
structure SameButForChecks (x x' : Ending KeysignResults × World ε ρ σ) : Prop where
  /-- They end alike: with the same signatures or with the same failure. -/
  ending : x.1 = x'.1
  now : x.2.now = x'.2.now
  relayCalls : x.2.trace.relayCalls = x'.2.trace.relayCalls
  /-- They call the engines in their sessions alike and are answered alike. -/
  engineCalls : ∀ family, x.2.trace.engineCalls family = x'.2.trace.engineCalls family
  records : otherRecords x.2.trace = otherRecords x'.2.trace
  /-- All of it happens at the same times, and so do the attempts. -/
  trace : x.2.trace.seenBy Event.unchecked = x'.2.trace.seenBy Event.unchecked

namespace SameButForChecks

variable {x x' x'' : Ending KeysignResults × World ε ρ σ}

theorem symm (h : SameButForChecks x x') : SameButForChecks x' x where
  ending := h.ending.symm
  now := h.now.symm
  relayCalls := h.relayCalls.symm
  engineCalls family := (h.engineCalls family).symm
  records := h.records.symm
  trace := h.trace.symm

theorem trans (h : SameButForChecks x x') (h' : SameButForChecks x' x'') : SameButForChecks x x'' where
  ending := h.ending.trans h'.ending
  now := h.now.trans h'.now
  relayCalls := h.relayCalls.trans h'.relayCalls
  engineCalls family := (h.engineCalls family).trans (h'.engineCalls family)
  records := h.records.trans h'.records
  trace := h.trace.trans h'.trace

end SameButForChecks

/-- A run of signing comes to the same as without checks. -/
theorem signMessages_same (limit : Option Time) (w : World ε ρ σ) :
    SameButForChecks (signMessages site config request limit w)
      (signUnchecked site config request limit w) := by
  have agree : site.relay.AgreeWithin (Scopes request) site.relay w.relay w.relay := fun _ _ => rfl
  obtain ⟨ending, twin⟩ :=
    signMessages_skips site config request limit w w ⟨agree, rfl, rfl, rfl, rfl, rfl⟩
  exact {
    ending := ending
    now := twin.now
    relayCalls := twin.filterMap_events_unchecked (fun _ _ _ => rfl) fun _ _ => rfl
    engineCalls := fun _ => twin.filterMap_events_unchecked (fun _ _ _ => rfl) fun _ _ => rfl
    records := by
      unfold otherRecords Trace.records
      rw [List.filter_filterMap, List.filter_filterMap]
      refine twin.filterMap_events_unchecked (fun _ _ _ => rfl) fun record verdict => ?_
      simp [verdict]
    trace := twin.trace }

/-- Checking signatures is advisory. -/
structure Advisory : Prop where
  /-- Signing comes to the same whatever the path of the key is and whatever the engines answer when
  they are asked for it, or about the shares at all. -/
  same : ∀ answers path limit w, SameButForChecks (signMessages site config request limit w)
    (signMessages (site.asking answers) config { request with derivePath := path } limit w)
  /-- It comes to the same without any checks, so that no failure of a check is returned, leads to
  another attempt or keeps another message from being signed. -/
  unchecked : ∀ limit w, SameButForChecks (signMessages site config request limit w)
    (signUnchecked site config request limit w)
  /-- Whatever a check fails with, it is over at once, and a record of the failure is all that is left. -/
  recorded : ∀ vault m response limit w,
    ∃ asked result, Recorded site request vault m response limit w asked result

end Keysign

/-- Checking signatures is advisory, whatever surrounds it. -/
theorem checks_advisory (site : Site ε ρ σ) (config : EngineConfig) (request : KeysignRequest) :
    Keysign.Advisory site config request where
  same answers path limit w := by
    have other := Keysign.signMessages_same (site.asking answers) config
      { request with derivePath := path } limit w
    rw [Keysign.signUnchecked_asking] at other
    exact (Keysign.signMessages_same site config request limit w).trans other.symm
  unchecked := Keysign.signMessages_same site config request
  recorded := Keysign.exists_recorded site request

end QuorumVault
