/-
What the rounds give is what is signed with.

The vault that is stored has the keys that the engines answered and the shares that
they gave in the attempts that succeeded, and the share that is found under either key
is the one of that key.  Loaded again it is the same vault, whatever was sealed, encoded
and written on the way, so that signing under its key opens sessions with these shares.
-/
import QuorumVault.Proofs.Ceremony.Outcome
import QuorumVault.Proofs.Ceremony.Reopening
import QuorumVault.Proofs.Rehearsal.Prompt
import QuorumVault.Proofs.Vault.BackupName

namespace QuorumVault

open Run

variable {ε ρ σ : Type}

namespace Keygen

variable {site : Site ε ρ σ} {config : EngineConfig} {request : KeygenRequest}
  {limit : Option Time} {w w' : World ε ρ σ} {m : Made} {createdAt : Moment} {v : Vault}

/-! ### The vault -/

/-- A vault and the shares in it, as the rounds made them. -/
structure Holding (request : KeygenRequest) (m : Made) (raw : Family → Bytes) (v : Vault) :
    Prop where
  name : v.name = request.name
  localPartyId : v.localPartyId = request.localPartyId
  signers : v.signers = m.committee
  publicKey_ecdsa : v.publicKeyEcdsa = m.ecdsa.publicKey
  publicKey_eddsa : v.publicKeyEddsa = m.eddsa.publicKey
  hexChainCode : m.ecdsa.chainCode = some v.hexChainCode
  keyShares : v.keyShares =
    [⟨v.publicKeyEcdsa, Base64.encode (raw .ecdsa)⟩, ⟨v.publicKeyEddsa, Base64.encode (raw .eddsa)⟩]

/-- Rounds with different keys make a vault of their shares. -/
theorem vault_holding {raw : Family → Bytes} (distinct : m.ecdsa.publicKey ≠ m.eddsa.publicKey)
    (ecdsa : m.ecdsa.share = Base64.encode (raw .ecdsa))
    (eddsa : m.eddsa.share = Base64.encode (raw .eddsa)) (chained : m.ecdsa.chainCode.isSome = true)
    (made : vault request m.committee m.ecdsa m.eddsa createdAt = .ok v) :
    Holding request m raw v := by
  have first : (shares m.ecdsa m.eddsa).find m.ecdsa.publicKey = .ok m.ecdsa.share := by
    unfold MemoryShares.find shares
    rw [Dictionary.get?_insert, if_neg distinct, Dictionary.get?_insert, if_pos rfl]
  have second : (shares m.ecdsa m.eddsa).find m.eddsa.publicKey = .ok m.eddsa.share := by
    unfold MemoryShares.find shares
    rw [Dictionary.get?_insert, if_pos rfl]
  obtain ⟨code, code_eq⟩ := Option.isSome_iff_exists.1 chained
  unfold vault keyShare at made
  simp only [first, second, bind, Except.bind, pure, Except.pure, Except.ok.injEq] at made
  subst made
  refine ⟨rfl, rfl, rfl, rfl, rfl, ?_, ?_⟩
  · rw [code_eq]
    rfl
  · rw [ecdsa, eddsa]

/-- The share under either key of the vault is the one that the engine gave for it. -/
theorem Holding.share?_eq {raw : Family → Bytes} (holding : Holding request m raw v)
    (distinct : v.publicKeyEcdsa ≠ v.publicKeyEddsa) (family : Family) :
    v.share? (v.publicKey family) = some (Base64.encode (raw family)) := by
  unfold Vault.share?
  rw [holding.keyShares]
  cases family with
  | ecdsa => simp [Vault.publicKey]
  | eddsa => simp [Vault.publicKey, distinct]

/-- Signing looks up and decodes the engine's share. -/
theorem Holding.share_eq {raw : Family → Bytes} (holding : Holding request m raw v)
    (distinct : v.publicKeyEcdsa ≠ v.publicKeyEddsa) (family : Family) :
    Keysign.share v family = .ok (raw family) := by
  unfold Keysign.share Vault.findShare
  rw [holding.share?_eq distinct]
  simp only [mapError_ok, bind, Except.bind, Base64.decode_encode]

/-! ### The storage -/

/-- When a vault was stored, the storage has confirmed it and nothing has been stored since. -/
theorem save_eq_done {fileName content : String} {keys : String × String}
    (h : save site config request m fileName content limit w = (.done keys, w')) :
    keys = (m.ecdsa.publicKey, m.eddsa.publicKey) ∧
      (site.storage.ask w.storage w.now (.save fileName content)).2.1 = .ok () ∧
      w'.storage = (site.storage.ask w.storage w.now (.save fileName content)).2.2 := by
  obtain ⟨_, w₁, stored, h⟩ := bind_eq_done h
  obtain ⟨_, w₂, sends, h⟩ := bind_eq_done h
  cases h
  have unchanged : w'.storage = w₁.storage := by
    unfold sendBackup at sends
    cases task : emailTask? site config request fileName content with
    | none =>
        rw [task] at sends
        cases sends
        rfl
    | some task' =>
        rw [task] at sends
        cases sends
        rfl
  rcases askStorage_cases site (.save fileName content) limit w with waits | ⟨w₀, storage, answered⟩
  · rw [stored] at waits
    cases waits
  · obtain ⟨confirmed, rfl⟩ := ofExcept_eq_done (answered.symm.trans stored)
    exact ⟨rfl, confirmed, unchanged.trans storage⟩

/-! ### The whole -/

/-- What is known of a vault that was created, of the run that has created it, which leaves the storage
in some state, and of the signing that follows. -/
structure Kept (site : Site ε ρ σ) (config : EngineConfig) (request : KeygenRequest) (storage : σ)
    (log : List Event) (keys : String × String) (m : Made) (raw : Family → Bytes) (v : Vault) :
    Prop extends Holding request m raw v where
  keys_eq : keys = (v.publicKeyEcdsa, v.publicKeyEddsa)
  rounds : ∃ ecdsa eddsa rest,
    log = gathered config request m.committee ++ ecdsa ++ eddsa ++ rest ∧
    Attempted site config request m.committee .ecdsa (raw .ecdsa) m.ecdsa ecdsa ∧
    Attempted site config request m.committee .eddsa (raw .eddsa) m.eddsa eddsa
  /-- The share that is found under the key of a family is what the engine gave for it. -/
  found : ∀ family, ∃ text, (ShareStore.vault v).find (v.publicKey family) = .ok text ∧
    Base64.decode text = .ok (raw family)
  loads : ∀ now, site.storage.loadVault storage now (nameOf request keys.1)
    request.encryptionPassword = .ok v
  /-- Whoever signs with the vault's key and the request's password over the same storage, signs with
  these shares. -/
  signs : ∀ {ε' ρ' : Type} (site' : Site ε' ρ' σ) (config' : EngineConfig) (signing : KeysignRequest)
    (limit : Option Time) (w : World ε' ρ' σ), site'.storage = site.storage → w.storage = storage →
    config'.encryptionSecret = request.encryptionPassword → signing.check = .ok () →
    signing.publicKey = keys.1 → signing.pluginId = request.pluginId →
    Keysign.Signs site' config' signing limit w v raw

/-- What is kept of creating a vault is what is signed with: in a storage that keeps what it is given,
if the engines' keys differ and there is one for ECDSA. -/
theorem createVault_kept {keys : String × String} (faithful : site.storage.Faithful)
    (created : createVault site config request limit w = (.done keys, w'))
    (distinct : keys.1 ≠ keys.2) (filled : keys.1 ≠ "") :
    ∃ log m raw v, w.Since w' log ∧ Kept site config request w'.storage log keys m raw v := by
  rw [createVault_eq] at created
  obtain ⟨m, w₁, made, created⟩ := bind_eq_done created
  obtain ⟨_, w₂, left, created⟩ := bind_eq_done created
  obtain ⟨raw, ecdsa, eddsa, since, attempted, attempted'⟩ := rounds_eq_done made
  obtain ⟨leaving, since', -⟩ := leave_logs site request m limit w₁
  obtain ⟨v, nonce, sealed, stores⟩ := store_eq site config request m limit w₂
  obtain ⟨storing, since'', -⟩ := save_logs site config request m (nameOf request v.publicKeyEcdsa)
    (contentOf request v nonce) limit w₂.sealOnce
  rw [left] at since'
  rw [stores] at created
  rw [created] at since''
  obtain ⟨rfl, confirmed, storage⟩ := save_eq_done created
  obtain ⟨_, _, _, -, -, -, gives⟩ := attempted.log_eq
  obtain ⟨_, _, _, -, -, -, gives'⟩ := attempted'.log_eq
  obtain ⟨key, -, key_eq⟩ := gives.publicKey
  obtain ⟨code, -, code_eq⟩ := gives.chainCode_ecdsa rfl
  have holding : Holding request m raw v :=
    vault_holding distinct gives.share_eq gives'.share_eq (by rw [code_eq]; rfl) sealed
  have same : nameOf request v.publicKeyEcdsa = nameOf request m.ecdsa.publicKey :=
    congrArg _ holding.publicKey_ecdsa
  have apart : v.publicKeyEcdsa ≠ v.publicKeyEddsa := by
    rw [holding.publicKey_ecdsa, holding.publicKey_eddsa]
    exact distinct
  have loads (now : Time) : site.storage.loadVault w'.storage now
      (nameOf request m.ecdsa.publicKey) request.encryptionPassword = .ok v := by
    rw [storage, ← same]
    exact (faithful _ _ _ _ confirmed).loadVault_eq now
  have found (family : Family) : ∃ text, (ShareStore.vault v).find (v.publicKey family) = .ok text ∧
      Base64.decode text = .ok (raw family) := by
    refine ⟨_, ?_, Base64.decode_encode _⟩
    show v.findShare _ = _
    unfold Vault.findShare
    rw [holding.share?_eq apart]
  have named : BackupName.ofText (nameOf request m.ecdsa.publicKey) =
      .ok ⟨request.pluginId, m.ecdsa.publicKey⟩ := by
    have written := BackupName.ofText_text_encode request.pluginId (key_eq ▸ filled)
    rw [← key_eq] at written
    exact written
  refine ⟨_, m, raw, v, (since.trans since').trans since'', holding, ?_, ?_, found, loads, ?_⟩
  · rw [holding.publicKey_ecdsa, holding.publicKey_eddsa]
  · exact ⟨ecdsa, eddsa, _, List.append_assoc .., attempted, attempted'⟩
  · intro ε' ρ' site' config' signing limit' u sameStorage state secret valid asked plugin
    have name_eq : Keysign.nameOf signing = nameOf request m.ecdsa.publicKey := by
      unfold Keysign.nameOf
      rw [asked, plugin]
    refine Keysign.signs_of_loads valid (name_eq ▸ named) ?_ ?_ (holding.share_eq apart)
    · intro now
      rw [sameStorage, state, secret, name_eq]
      exact loads now
    · rw [asked, holding.publicKey_ecdsa]

/-- There are such vaults: the one that is created when everyone answers at once. -/
theorem createVault_kept_treasury :
    ∃ w', createVault Prompt.treasury.site (.make "" "") Prompt.treasuryRequest none
        Prompt.treasuryStart = (.done ("01", "02"), w') ∧
      Prompt.treasury.site.storage.Faithful ∧ "01" ≠ "02" ∧ "01" ≠ "" ∧
      ∃ log m raw v, Prompt.treasuryStart.Since w' log ∧
        Kept Prompt.treasury.site (.make "" "") Prompt.treasuryRequest w'.storage log ("01", "02")
          m raw v := by
  have keys : (Hex.encode (Prompt.treasury.publicKey .ecdsa),
      Hex.encode (Prompt.treasury.publicKey .eddsa)) = ("01", "02") := by decide
  have faithful := Prompt.treasury.storage_faithful
  have timely : Prompt.Timely (EngineConfig.make "" "").timeouts := Prompt.timely_default
  have created := Prompt.createVault_doneIn (p := Prompt.treasury)
    Prompt.treasuryRequest_check rfl rfl timely
  obtain ⟨w', created, -⟩ := created none Prompt.treasuryStart nofun
  rw [keys] at created
  have kept := createVault_kept faithful created (by decide) (by decide)
  exact ⟨w', created, faithful, by decide, by decide, kept⟩

end Keygen

end QuorumVault
