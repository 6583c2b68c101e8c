/-
Signing opens the stored vault and nothing else.

If the storage has a vault under the name that the request asks for, and the vault has
the key of the request, then signing goes on with that vault, and every session that is
opened is one to sign as the vault's member with the vault's share.
-/
import QuorumVault.Proofs.Ceremony.Keeping
import QuorumVault.Proofs.Round.Results
import QuorumVault.Proofs.Vault.Storage

namespace QuorumVault

open Run

variable {ε ρ σ : Type}

/-- If a session is opened, it is one to sign as a member with its share of the curve's key. -/
def Event.SignsAs (party : String) (raw : Family → Bytes) : Event → Prop
  | .engine family (.openSign _ member share) _ => member = party ∧ share = raw family
  | .engine _ (.openKeygen ..) _ => False
  | .engine .. | .query .. | .asked _ | .answered .. | .storing _ | .stored .. | .noted _
  | .queued .. | .attempt .. => True

theorem Event.signsAs_of_calm {e : Event} (calm : e.Calm) (party : String) (raw : Family → Bytes) :
    e.SignsAs party raw := by
  cases e with
  | engine => cases calm
  | query | asked | answered | storing | stored | noted | queued | attempt => trivial

/-- No session is opened in a round. -/
theorem Event.InRound.signsAs {e : Event} (h : e.InRound) (party : String) (raw : Family → Bytes) :
    e.SignsAs party raw := by
  cases e with
  | engine _ c =>
      cases c with
      | openKeygen | openSign => cases h
      | output | receiver | input | finish | free => trivial
  | query | asked | answered | storing | stored | noted | queued | attempt => trivial

namespace Keysign

variable {site : Site ε ρ σ} {config : EngineConfig} {request : KeysignRequest}
  {limit : Option Time} {w : World ε ρ σ} {v : Vault}

/-- The name under which the vault of a request is stored. -/
abbrev nameOf (request : KeysignRequest) : String :=
  (BackupName.mk request.pluginId request.publicKey).text

/-- A valid request is answered by opening the vault and signing with it. -/
theorem signMessages_eq (valid : request.check = .ok ()) :
    signMessages site config request =
      openVault site config request >>= signing site config request := by
  have checked : (Run.ofExcept (request.check.mapError RequestFault.error) : Run ε ρ σ Unit) =
      pure () := by
    rw [valid]
    rfl
  show (Run.ofExcept (request.check.mapError RequestFault.error) >>= fun _ =>
    openVault site config request >>= signing site config request) = _
  rw [checked, pure_bind]

/-- The vault that is stored is opened, unless the storage does not answer. -/
theorem openVault_cases {n : BackupName} (named : BackupName.ofText (nameOf request) = .ok n)
    (loads : ∀ now, site.storage.loadVault w.storage now (nameOf request) config.encryptionSecret =
      .ok v)
    (key : v.publicKeyEcdsa = request.publicKey) :
    (openVault site config request limit w).1.Waits ∨
      (openVault site config request limit w).1 = .done v := by
  unfold openVault
  rw [named]
  show ((askStorage site (.load (nameOf request)) >>= _) limit w).1.Waits ∨
    ((askStorage site (.load (nameOf request)) >>= _) limit w).1 = _
  have loaded := loads w.now
  unfold Storage.loadVault at loaded
  rcases askStorage_cases site (.load (nameOf request)) limit w with waits | ⟨w₁, -, answered⟩
  · exact .inl (bind_of_waits waits).1
  · cases said : (site.storage.ask w.storage w.now (.load (nameOf request))).2.1 with
    | error e =>
        rw [said] at loaded
        cases loaded
    | ok content =>
        rw [said] at loaded answered
        rw [bind_of_done answered]
        refine .inr ?_
        show (((Run.ofExcept ((Container.openBytes content config.encryptionSecret).mapError
          Container.Fault.error) : Run ε ρ σ Vault) >>= _) limit w₁).1 = _
        rw [show (Container.openBytes content config.encryptionSecret).mapError
          Container.Fault.error = .ok v from loaded]
        show ((if v.publicKeyEcdsa ≠ request.publicKey then _ else _ : Run ε ρ σ Vault) limit w₁).1 = _
        rw [if_neg (not_not_intro key)]
        rfl

/-- Signing opens a vault and goes on with it, and all sessions are its member's and its shares'. -/
structure Signs (site : Site ε ρ σ) (config : EngineConfig) (request : KeysignRequest)
    (limit : Option Time) (w : World ε ρ σ) (v : Vault) (raw : Family → Bytes) : Prop where
  opens : (openVault site config request limit w).1.Waits ∨
    (openVault site config request limit w).1 = .done v
  goesOn : signMessages site config request =
    openVault site config request >>= signing site config request
  sessions : ∃ log, w.Since (signMessages site config request limit w).2 log ∧
    ∀ e ∈ log, e.SignsAs v.localPartyId raw

/-- Signing with the vault that is stored opens sessions with its shares. -/
theorem signs_of_loads {raw : Family → Bytes} {n : BackupName} (valid : request.check = .ok ())
    (named : BackupName.ofText (nameOf request) = .ok n)
    (loads : ∀ now, site.storage.loadVault w.storage now (nameOf request) config.encryptionSecret =
      .ok v)
    (key : v.publicKeyEcdsa = request.publicKey)
    (shares : ∀ family, share v family = .ok (raw family)) :
    Signs site config request limit w v raw := by
  have steady := steady_forall fun e => e.SignsAs v.localPartyId raw
  have calm (e : Event) (calm : e.Calm) : ∀ e' ∈ [e], e'.SignsAs v.localPartyId raw := by
    simpa using Event.signsAs_of_calm calm _ _
  have signing_keeps : (signing site config request v).Keeps fun _ log =>
      ∀ e ∈ log, e.SignsAs v.localPartyId raw := by
    refine signing_keeps steady calm config request fun family setup bytes r held => ?_
    have same : bytes = raw family := Except.ok.inj (held.symm.trans (shares family))
    let opening := Session.Opening.sign setup v.localPartyId bytes
    have opened (handle : Engine.Handle) :
        (opening.opened family handle).SignsAs v.localPartyId raw := ⟨rfl, same⟩
    have refused (e : Error) : (opening.refused family e).SignsAs v.localPartyId raw := ⟨rfl, same⟩
    exact r.session_keeps site opened refused fun _ inRound => inRound.signsAs _ _
  have goesOn : signMessages site config request =
      openVault site config request >>= signing site config request := signMessages_eq valid
  have opens : (openVault site config request limit w).1.Waits ∨
      (openVault site config request limit w).1 = .done v := openVault_cases named loads key
  refine ⟨opens, goesOn, ?_⟩
  rw [goesOn]
  have opening_keeps : (openVault site config request).Keeps fun _ log =>
      ∀ e ∈ log, e.SignsAs v.localPartyId raw :=
    openVault_keeps steady config request (fun _ => calm _ trivial) fun _ _ => calm _ trivial
  obtain ⟨log, since, signsAs⟩ := opening_keeps limit w
  rcases opens with waits | opened
  · rw [(bind_of_waits waits).2]
    exact ⟨log, since, signsAs⟩
  · obtain ⟨log', since', signsAs'⟩ :=
      signing_keeps limit (openVault site config request limit w).2
    rw [bind_of_fst opened]
    exact ⟨log ++ log', since.trans since', List.forall_mem_append.2 ⟨signsAs, signsAs'⟩⟩

end Keysign

end QuorumVault
