/-
What passes can be signed.

The texts of a request to sign are read as bytes again and again: by every attempt, for the scope of its
round, and by the check of every signature.  That they can be read is seen to before anything else is
done, so none of these readings fails: signing is the same as signing in which the bytes are at hand.
-/
import QuorumVault.Proofs.Ceremony.Isolation

namespace QuorumVault

/-- The bytes to sign, of a message that can be read. -/
def KeysignMessage.body (m : KeysignMessage) : Bytes :=
  m.bytes.toOption.getD []

namespace Keysign

variable {ε ρ σ : Type}

/-! ### Signing bytes that are at hand -/

section AtHand

variable (site : Site ε ρ σ) (config : EngineConfig) (request : KeysignRequest)

/-- One attempt at signing the bytes of a message. -/
def attemptAtHand (vault : Vault) (committee : List String) (m : KeysignMessage) :
    Run ε ρ σ KeysignResponse := do
  let r := round config request vault committee (KeysignMessage.scopeOf m.body)
  let share ← Run.ofExcept (share vault m.family)
  let setup ← r.fetchSetup site
  let raw ← Session.withSession site m.family (.sign setup vault.localPartyId share) (r.run site)
  Run.ofExcept ((Signature.respond m.family m.message raw).mapError Signature.OutputFault.error)

/-- As many attempts at it as are allowed, and a record of how it came out. -/
def attemptsAtHand (vault : Vault) (committee : List String) (m : KeysignMessage) :
    Run ε ρ σ KeysignResponse :=
  match config.timeouts.keysignRetry? with
  | none => Run.overflow
  | some policy => do
    let op (_ : Nat) := attemptAtHand site config request vault committee m
    match ← Run.attempt (policy.run (label m) op) with
    | .ok response =>
      note request vault .keysign ("signed message " ++ m.hash)
      return response
    | .error e =>
      note request vault (.ofError e) (label m ++ " failed: " ++ e.message)
      Run.fail e

/-- Checks a signature of the bytes of a message. -/
def checkAtHand (vault : Vault) (m : KeysignMessage) (response : KeysignResponse) :
    Run ε ρ σ Unit := do
  let key ← checkingKey site request vault m.family
  Run.ofExcept ((Signature.check m.family key m.body response.r response.s).mapError
    Signature.Fault.error)

/-- Checks it and makes a record if it does not pass. -/
def verifyAtHand (vault : Vault) (m : KeysignMessage) (response : KeysignResponse) :
    Run ε ρ σ Unit := do
  match ← Run.attempt (checkAtHand site request vault m response) with
  | .ok () => return ()
  | .error e =>
    note request vault .verification
      ("signature for " ++ m.hash ++ " did not verify: " ++ e.message)

/-- Signs the bytes of messages one after the other. -/
def signAllAtHand (vault : Vault) (committee : List String) :
    List KeysignMessage → KeysignResults → Run ε ρ σ KeysignResults
  | [], results => return results
  | m :: rest, results => do
    let response ← attemptsAtHand site config request vault committee m
    verifyAtHand site request vault m response
    signAllAtHand vault committee rest (results.insert m.hash response)

/-- Signs the bytes of the messages of a request. -/
def signAtHand : Run ε ρ σ KeysignResults := do
  let vault ← openVault site config request
  let committee ← gather site config request vault
  let results ← signAllAtHand site config request vault committee request.messages .empty
  let _ ← Run.attempt (Run.askRelay site (.complete request.sessionId vault.localPartyId))
  return results

end AtHand

/-! ### It is what comes of reading them -/

variable {site : Site ε ρ σ} {config : EngineConfig} {request : KeysignRequest} {vault : Vault}
  {committee : List String} {m : KeysignMessage}

theorem scope_eq (read : m.bytes = .ok m.body) : m.scope = .ok (KeysignMessage.scopeOf m.body) := by
  unfold KeysignMessage.scope
  rw [read]
  rfl

theorem attempt_eq_atHand (read : m.bytes = .ok m.body) :
    attempt site config request vault committee m =
      attemptAtHand site config request vault committee m := by
  unfold attempt
  rw [scope_eq read]
  rfl

theorem attempts_eq_atHand (read : m.bytes = .ok m.body) :
    attempts site config request vault committee m =
      attemptsAtHand site config request vault committee m := by
  unfold attempts
  rw [attempt_eq_atHand read]
  rfl

theorem verify_eq_atHand (read : m.bytes = .ok m.body) (response : KeysignResponse) :
    verify site request vault m response = verifyAtHand site request vault m response := by
  have checks : check site request vault m response = checkAtHand site request vault m response := by
    unfold check
    rw [read]
    rfl
  unfold verify
  rw [checks]
  rfl

theorem signAll_eq_atHand {messages : List KeysignMessage}
    (read : ∀ m ∈ messages, m.bytes = .ok m.body) (results : KeysignResults) :
    signAll site config request vault committee messages results =
      signAllAtHand site config request vault committee messages results := by
  induction messages generalizing results with
  | nil => rfl
  | cons m rest ih =>
      obtain ⟨first, later⟩ := List.forall_mem_cons.1 read
      simp only [signAll, signAllAtHand, attempts_eq_atHand first, verify_eq_atHand first, ih later]

/-- Signing the messages of a request that passes is signing bytes that are at hand. -/
theorem signMessages_eq_atHand (valid : request.check = .ok ())
    (read : ∀ m ∈ request.messages, m.bytes = .ok m.body) :
    signMessages site config request = signAtHand site config request := by
  rw [signMessages_eq valid]
  unfold signing
  simp only [signAll_eq_atHand read]
  rfl

/-! ### What a request is told -/

/-- What comes of looking at a request to sign. -/
structure Screened (request : KeysignRequest) : Prop where
  passes_iff : request.check = .ok () ↔ request.Signable
  /-- A request that does not pass fails with the first demand that it does not meet. -/
  fails_iff : ∀ err, request.check.mapError RequestFault.error = .error err ↔
    ∃ fault, Demand.FirstUnmet request.demands fault ∧ err = fault.error
  validation : ∀ err, request.check.mapError RequestFault.error = .error err →
    ∃ detail, err = .of .validation detail
  /-- No two texts that pass are the same but for the case of letters. -/
  texts : request.check = .ok () → (request.messages.map (·.message.toLower)).Nodup
  /-- The bytes and the scope of every message that passes can be told. -/
  read : request.check = .ok () → ∀ m ∈ request.messages,
    m.bytes = .ok m.body ∧ m.scope = .ok (KeysignMessage.scopeOf m.body)
  signed : request.check = .ok () → ∀ {ε ρ σ : Type} (site : Site ε ρ σ) (config : EngineConfig),
    signMessages site config request = signAtHand site config request
  /-- No two messages that pass have the same scope, if hashes do not collide. -/
  scopes : request.check = .ok () → NoCollision request → (request.messages.map (·.scope)).Nodup

theorem body_eq (signable : request.Signable) (mem : m ∈ request.messages) :
    m.bytes = .ok m.body := by
  obtain ⟨body, read⟩ := signable.exists_bytes mem
  unfold KeysignMessage.body
  rw [read]
  rfl

theorem scopes_nodup (valid : request.check = .ok ()) (apart : NoCollision request) :
    (request.messages.map (·.scope)).Nodup := by
  have signable := KeysignRequest.check_eq_ok_iff.1 valid
  refine List.pairwise_map.2 ((List.pairwise_map.1 signable.names).imp_of_mem ?_)
  intro m m' mem mem' unlike same
  have named : m.scope = .ok _ := scope_eq (body_eq signable mem)
  rw [eq_of_scope_eq valid apart mem mem' named (same ▸ named)] at unlike
  exact unlike rfl

end Keysign

/-- The requests to sign that pass are those that can be signed; the others are told the first thing
that is wrong with them. -/
theorem requests_screened (request : KeysignRequest) : Keysign.Screened request where
  passes_iff := KeysignRequest.check_eq_ok_iff
  fails_iff err := by
    cases checked : request.check with
    | ok =>
        refine iff_of_false nofun ?_
        rintro ⟨fault, unmet, -⟩
        cases checked.symm.trans (((KeysignRequest.made_check request).error_iff fault).2 unmet)
    | error fault =>
        have first := (KeysignRequest.made_check request).error_iff
        constructor
        · rintro ⟨⟩
          exact ⟨fault, (first fault).1 checked, rfl⟩
        · rintro ⟨fault', unmet, rfl⟩
          cases checked.symm.trans ((first fault').2 unmet)
          rfl
  validation err failed := by
    cases checked : request.check with
    | ok =>
        rw [checked] at failed
        cases failed
    | error fault =>
        rw [checked] at failed
        cases failed
        cases fault <;> exact ⟨_, rfl⟩
  texts valid := (KeysignRequest.check_eq_ok_iff.1 valid).texts_nodup
  read valid m mem :=
    have read := Keysign.body_eq (KeysignRequest.check_eq_ok_iff.1 valid) mem
    ⟨read, Keysign.scope_eq read⟩
  signed valid _ _ _ site config :=
    Keysign.signMessages_eq_atHand valid fun _ mem =>
      Keysign.body_eq (KeysignRequest.check_eq_ok_iff.1 valid) mem
  scopes := Keysign.scopes_nodup

/-- Two messages, one for either curve, have scopes of their own. -/
theorem requests_screened_pair :
    let transfer : KeysignMessage := ⟨"ABCD", "transfer", .ecdsa⟩
    let approval : KeysignMessage := ⟨"abce", "approval", .eddsa⟩
    let request : KeysignRequest := { KeysignRequest.blank with
      publicKey := "02ab", sessionId := "session", hexEncryptionKey := "2a",
      messages := [transfer, approval] }
    request.Signable ∧ Keysign.NoCollision request ∧ request.check = .ok () ∧
      (request.messages.map (·.message.toLower)).Nodup ∧
      (request.messages.map (·.scope)).Nodup := by
  intro transfer approval request
  have first : transfer.bytes = .ok [0xab, 0xcd] :=
    have read : Hex.decode "ABCD" = .ok [0xab, 0xcd] := rfl
    read
  have second : approval.bytes = .ok [0xab, 0xce] :=
    have read : Hex.decode "abce" = .ok [0xab, 0xce] := rfl
    read
  have each {P : KeysignMessage → Prop} (ht : P transfer) (ha : P approval) :
      ∀ m ∈ request.messages, P m :=
    List.forall_mem_cons.2 ⟨ht, List.forall_mem_singleton.2 ha⟩
  have signable : request.Signable := {
    publicKey := by decide
    sessionId := by decide
    hexEncryptionKey := by decide
    messages := nofun
    texts := each (by decide) (by decide)
    named := each (by decide) (by decide)
    digits := each (Hex.exists_decode_iff.1 ⟨_, first⟩) (Hex.exists_decode_iff.1 ⟨_, second⟩)
    names := by decide
    bodies := by simp [request, first, second] }
  have unlike : Blake3.hash [0xab, 0xcd] ≠ Blake3.hash [0xab, 0xce] := by decide +kernel
  have apart : Keysign.NoCollision request := by
    refine each (each ?_ ?_) (each ?_ ?_) <;> intro body body' read read' same
    · exact Except.ok.inj (read.symm.trans read')
    · cases first.symm.trans read
      cases second.symm.trans read'
      exact absurd same unlike
    · cases second.symm.trans read
      cases first.symm.trans read'
      exact absurd same.symm unlike
    · exact Except.ok.inj (read.symm.trans read')
  have screened := requests_screened request
  have passes := screened.passes_iff.2 signable
  exact ⟨signable, apart, passes, screened.texts passes, screened.scopes passes apart⟩

end QuorumVault
