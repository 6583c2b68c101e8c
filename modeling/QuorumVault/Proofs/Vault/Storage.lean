/-
What was stored is found again.

Nothing is known of a storage but what it answers.  `Storage.Faithful` is all that is
asked of one here: a content whose saving it has confirmed is what it then answers under
that name.  The storage in memory is faithful, since its sealing undoes itself.

A vault that was sealed and saved in a faithful storage is loaded from it with the same
password.  If savings under other names leave a content alone as well, it is so for as long
as nothing else is saved under the name.  With that the form in which vaults are stored
undoes itself through all its layers: the text around the container, the container, its
sealing, and the storage in memory.
-/
import QuorumVault.Proofs.Vault.Container
import QuorumVault.Vault.Storage

namespace QuorumVault

namespace Storage

variable {σ : Type} {st : Storage σ} {s : σ} {name content : String}

/-- Reads and opens the vault under a name. -/
def loadVault (st : Storage σ) (s : σ) (now : Time) (name password : String) :
    Except Error Vault := do
  let content ← (st.ask s now (.load name)).2.1
  (Container.openBytes content password).mapError Container.Fault.error

/-- Whenever it is asked for what stands under a name, the storage answers with a content. -/
def Holds (st : Storage σ) (s : σ) (name content : String) : Prop :=
  ∀ now, (st.ask s now (.load name)).2.1 = .ok (Utf8.encode content)

/-- What was saved is held. -/
def Faithful (st : Storage σ) : Prop :=
  ∀ s now name content, (st.ask s now (.save name content)).2.1 = .ok () →
    st.Holds (st.ask s now (.save name content)).2.2 name content

/-- What is held outlasts a saving under another name. -/
def Lasting (st : Storage σ) : Prop :=
  ∀ s now name content other text, other ≠ name → st.Holds s name content →
    st.Holds (st.ask s now (.save other text)).2.2 name content

/-- What a storage has come to after savings, one after another. -/
def saveAll (st : Storage σ) : σ → List (Time × String × String) → σ
  | s, [] => s
  | s, (now, name, content) :: rest =>
    saveAll st (st.ask s now (.save name content)).2.2 rest

theorem Holds.saveAll (lasting : st.Lasting) {others : List (Time × String × String)}
    (apart : ∀ o ∈ others, o.2.1 ≠ name) :
    ∀ {s : σ}, st.Holds s name content → st.Holds (st.saveAll s others) name content := by
  induction others with
  | nil => exact id
  | cons o rest ih =>
    intro s holds
    have first : o.2.1 ≠ name := apart o (by simp)
    have later : ∀ o ∈ rest, o.2.1 ≠ name := fun o' mem => apart o' (by simp [mem])
    exact ih later (lasting s o.1 name content o.2.1 o.2.2 first holds)

/-- A vault that was sealed and is held is loaded with its password. -/
theorem Holds.loadVault_eq {v : Vault} {password : String} {nonce : Sealing.Nonce}
    (holds : st.Holds s name (Container.ofVault v password nonce).text) (now : Time) :
    st.loadVault s now name password = .ok v := by
  unfold loadVault
  simp only [holds now, bind, Except.bind, Container.openBytes_text_ofVault, mapError_ok]

end Storage

namespace SealedStore

theorem get_save (s : SealedStore) (nonce : Sealing.Nonce) (name content : String) :
    (s.save nonce name content).get name = .ok (Utf8.encode content) := by
  unfold get save
  simp only [Dictionary.get?_insert, if_true, Sealing.Key.unseal_seal, mapError_ok]

theorem get_save_of_ne (s : SealedStore) (nonce : Sealing.Nonce) {name other : String}
    (apart : other ≠ name) (content : String) :
    (s.save nonce other content).get name = s.get name := by
  unfold get save
  simp only [Dictionary.get?_insert, if_neg (Ne.symm apart)]

/-- The storage in memory keeps what it is given. -/
theorem storage_faithful (nonce : Nat → Sealing.Nonce) : (storage nonce).Faithful := by
  intro s now name content saved now'
  show ((s.1.save (nonce s.2) name content).get name).mapError Fault.error = _
  rw [get_save]
  rfl

theorem storage_lasting (nonce : Nat → Sealing.Nonce) : (storage nonce).Lasting := by
  intro s now name content other text apart holds now'
  show ((s.1.save (nonce s.2) other text).get name).mapError Fault.error = _
  rw [get_save_of_ne _ _ apart]
  exact holds now'

end SealedStore

/-- A vault that is sealed, written, stored and opened again with the password is the vault that it
was: its text may have white space around it, and the storage may have been used for other names
in between. -/
theorem Vault.stored_and_reopened (v : Vault) (password : String) (nonce : Sealing.Nonce) :
    let c := Container.ofVault v password nonce
    (∀ before after, Text.Blank before → Text.Blank after →
      Container.ofBytes (Utf8.encode (before ++ c.text ++ after)) = .ok c) ∧
    c.toVault password = .ok v ∧
    ∀ nonces s name saved others loaded, (∀ o ∈ others, o.2.1 ≠ name) →
      let st := SealedStore.storage nonces
      let kept := st.ask s saved (.save name c.text)
      kept.2.1 = .ok () ∧ st.loadVault (st.saveAll kept.2.2 others) loaded name password = .ok v := by
  intro c
  refine ⟨?_, Container.toVault_ofVault v password nonce, ?_⟩
  · intro before after hbefore hafter
    exact Container.ofBytes_append_text_append (Container.version_ofVault ..) hbefore hafter
  · intro nonces s name saved others loaded apart st kept
    have confirmed : kept.2.1 = .ok () := rfl
    have held : st.Holds kept.2.2 name c.text :=
      SealedStore.storage_faithful nonces s saved name c.text confirmed
    have still : st.Holds (st.saveAll kept.2.2 others) name c.text :=
      held.saveAll (SealedStore.storage_lasting nonces) apart
    exact ⟨confirmed, still.loadVault_eq loaded⟩

/-- A vault with a line end behind its text, and with another name used after its own. -/
theorem Vault.stored_and_reopened_treasury :
    let v := { Vault.blank with name := "treasury", signers := ["server", "device"],
                                keyShares := [⟨"02ab", "c2hhcmU="⟩], resharePrefix := some "" }
    let c := Container.ofVault v "secret" (Vector.replicate 12 7)
    let st := SealedStore.storage fun n => Vector.replicate 12 (UInt8.ofNat n)
    let kept := st.ask (SealedStore.empty (.ofPassword "key"), 0) 0 (.save "treasury.vult" c.text)
    Container.ofBytes (Utf8.encode ("" ++ c.text ++ "\n")) = .ok c ∧
      c.toVault "secret" = .ok v ∧ kept.2.1 = .ok () ∧
      st.loadVault (st.saveAll kept.2.2 [(1, "savings.vult", "c2F2aW5ncw==")]) 2 "treasury.vult"
        "secret" = .ok v := by
  intro v c st kept
  obtain ⟨text, opened, stored⟩ := stored_and_reopened v "secret" (Vector.replicate 12 7)
  have apart : ∀ o ∈ [((1 : Time), "savings.vult", "c2F2aW5ncw==")], o.2.1 ≠ "treasury.vult" := by
    decide
  exact ⟨text "" "\n" (by decide) (by decide), opened,
    stored _ (SealedStore.empty (.ofPassword "key"), 0) _ 0 _ 2 apart⟩

end QuorumVault
