/-
The ways in which creating a vault comes out.

Creating a vault has two parts.  Up to the success of both rounds nothing is left
behind; only then the relay is told of the end, the vault is sealed and stored, and a
backup may be sent.  `Creates` has one case for each way in which the whole can come
out, with everything it logs, so that what is to be known about creating vaults is a case
analysis over these six.
-/
import QuorumVault.Proofs.Ceremony.Keeping
import QuorumVault.Proofs.Round.Results

namespace QuorumVault

open Run

variable {ε ρ σ : Type}

/-- What happens in a round leaves nothing behind. -/
theorem Event.InRound.not_effect {e : Event} (h : e.InRound) : ¬e.Effect := by
  cases e with
  | engine | query | noted | attempt => exact not_false
  | asked c | answered c => cases c <;> first | exact Bool.false_ne_true | cases h
  | storing | stored | queued => cases h

namespace Keygen

/-! ### The two parts -/

/-- What both rounds leave, and who took part. -/
structure Made where
  committee : List String
  ecdsa : Outcome
  eddsa : Outcome

/-- Creating a vault up to the success of both rounds. -/
def rounds (site : Site ε ρ σ) (config : EngineConfig) (request : KeygenRequest) :
    Run ε ρ σ Made := do
  Run.ofExcept (request.check.mapError RequestFault.error)
  let committee ← gather site config request
  let ecdsa ← attempts site config request committee .ecdsa
  Run.wait (some config.timeouts.settleDelay.pause)
  let eddsa ← attempts site config request committee .eddsa
  return ⟨committee, ecdsa, eddsa⟩

/-- Storing a vault that has been sealed. -/
def save (site : Site ε ρ σ) (config : EngineConfig) (request : KeygenRequest) (m : Made)
    (fileName content : String) : Run ε ρ σ (String × String) := do
  Run.askStorage site (.save fileName content)
  sendBackup site config request fileName content
  return (m.ecdsa.publicKey, m.eddsa.publicKey)

/-- Sealing the vault and storing it. -/
def store (site : Site ε ρ σ) (config : EngineConfig) (request : KeygenRequest) (m : Made) :
    Run ε ρ σ (String × String) := do
  let createdAt := site.calendar (← Run.now)
  let vault ← Run.ofExcept
    ((vault request m.committee m.ecdsa m.eddsa createdAt).mapError ShareFault.error)
  let container := Container.ofVault vault request.encryptionPassword (← Run.nonce site)
  save site config request m (BackupName.mk request.pluginId vault.publicKeyEcdsa).text
    container.text

/-- A vault is created in two parts, with the leave from the relay in between. -/
theorem createVault_eq (site : Site ε ρ σ) (config : EngineConfig) (request : KeygenRequest) :
    createVault site config request = rounds site config request >>= fun m =>
      leave site request m.committee >>= fun _ => store site config request m := by
  unfold rounds
  simp only [bind_bind, pure_bind]
  rfl

variable {site : Site ε ρ σ} {config : EngineConfig} {request : KeygenRequest}

/-- Until both rounds have succeeded, nothing is left behind. -/
theorem rounds_keeps (site : Site ε ρ σ) (config : EngineConfig) (request : KeygenRequest) :
    (rounds site config request).Keeps fun _ log => ∀ e ∈ log, ¬e.Effect := by
  have steady := steady_forall fun e => ¬e.Effect
  have plain (e : Event) (h : e.Plain) : ∀ e' ∈ [e], ¬e'.Effect := by
    simpa using h.2.1
  have records (e : Event) (h : e.Record) : ∀ e' ∈ [e], ¬e'.Effect := by
    simpa using h.calm.2
  have sessions (family : Family) (opening : Session.Opening) (r : Round) :
      (Session.withSession site family opening (r.run site)).Keeps fun _ log =>
        ∀ e ∈ log, ¬e.Effect :=
    r.session_keeps site (fun _ => by cases opening <;> exact not_false)
      (fun _ => by cases opening <;> exact not_false) fun _ h => h.not_effect
  have attempted (committee : List String) (family : Family) :=
    attempts_keeps steady plain records sessions config request committee family
  refine .bind steady (.ofExcept steady _) fun _ => ?_
  refine .bind steady (gather_keeps steady plain config request) fun committee => ?_
  refine .bind steady (attempted _ _) fun ecdsa => ?_
  refine .bind steady (.wait steady _) fun _ => ?_
  refine .bind steady (attempted _ _) fun eddsa => ?_
  exact .done steady _

/-! ### The end -/

/-- The call that tells the relay of the end. -/
abbrev completeCall (request : KeygenRequest) : Relay.Call :=
  .complete request.sessionId request.localPartyId

/-- The call that asks for the others' end. -/
abbrev completedCall (request : KeygenRequest) (m : Made) : Relay.Call :=
  .completed request.sessionId m.committee

/-- The name under which a vault is stored. -/
abbrev nameOf (request : KeygenRequest) (publicKey : String) : String :=
  (BackupName.mk request.pluginId publicKey).text

/-- What is stored of a vault. -/
abbrev contentOf (request : KeygenRequest) (v : Vault) (nonce : Sealing.Nonce) : String :=
  (Container.ofVault v request.encryptionPassword nonce).text

/-- How the leave from the relay comes out and what it logs. -/
inductive Leaves (request : KeygenRequest) (m : Made) : Ending Unit → List Event → Prop
  | completing {e} (waits : e.Waits) : Leaves request m e [.asked (completeCall request)]
  | parting {e} (x) (waits : e.Waits) : Leaves request m e
      [.asked (completeCall request), .answered (completeCall request) x,
        .asked (completedCall request m)]
  | left (x y) : Leaves request m (.done ())
      [.asked (completeCall request), .answered (completeCall request) x,
        .asked (completedCall request m), .answered (completedCall request m) y]

theorem leave_logs (site : Site ε ρ σ) (request : KeygenRequest) (m : Made) :
    (leave site request m.committee).Logs (Leaves request m) := by
  intro limit w
  unfold leave
  obtain ⟨_, since, ⟨waits, rfl⟩ | ⟨x, done, rfl⟩⟩ :=
    attempt_askRelay_logs site (completeCall request) limit w
  · obtain ⟨waits', left⟩ := bind_of_waits waits
    rw [left]
    exact ⟨_, since, .completing waits'⟩
  rw [bind_of_fst done]
  obtain ⟨_, since', ⟨waits, rfl⟩ | ⟨y, done, rfl⟩⟩ :=
    attempt_askRelay_logs site (completedCall request m) limit
      (Run.attempt (askRelay site (completeCall request)) limit w).2
  · obtain ⟨waits', left⟩ := bind_of_waits waits
    rw [left]
    exact ⟨_, since.trans since', .parting x waits'⟩
  · rw [bind_of_fst done]
    exact ⟨_, since.trans since', .left x y⟩

/-- There is always a vault, and it has the keys of both rounds. -/
theorem exists_vault (request : KeygenRequest) (m : Made) (createdAt : Moment) :
    ∃ v, vault request m.committee m.ecdsa m.eddsa createdAt = .ok v ∧
      v.publicKeyEcdsa = m.ecdsa.publicKey ∧ v.publicKeyEddsa = m.eddsa.publicKey := by
  have kept (key : String) (h : key = m.ecdsa.publicKey ∨ key = m.eddsa.publicKey) :
      ∃ share, (shares m.ecdsa m.eddsa).find key = .ok share := by
    unfold MemoryShares.find shares
    rw [Dictionary.get?_insert, Dictionary.get?_insert]
    by_cases second : key = m.eddsa.publicKey
    · rw [if_pos second]
      exact ⟨_, rfl⟩
    · rw [if_neg second, if_pos (h.resolve_right second)]
      exact ⟨_, rfl⟩
  obtain ⟨first, hfirst⟩ := kept m.ecdsa.publicKey (.inl rfl)
  obtain ⟨second, hsecond⟩ := kept m.eddsa.publicKey (.inr rfl)
  unfold vault keyShare
  simp only [hfirst, hsecond, bind, Except.bind, pure, Except.pure]
  exact ⟨_, rfl, rfl, rfl⟩

/-- The records of the backup that is sent, if one is. -/
def sent (site : Site ε ρ σ) (config : EngineConfig) (request : KeygenRequest)
    (fileName content : String) : List Event :=
  (emailTask? site config request fileName content).toList.map fun task =>
    .queued EmailBackupTask.taskType task.payload

/-- How storing a vault comes out and what it logs. -/
inductive Stores (site : Site ε ρ σ) (config : EngineConfig) (request : KeygenRequest) (m : Made)
    (fileName content : String) : Ending (String × String) → List Event → Prop
  | waits {e} (waits : e.Waits) :
      Stores site config request m fileName content e [.storing (.save fileName content)]
  | refused (e) : Stores site config request m fileName content (.failed e)
      [.storing (.save fileName content), .stored (.save fileName content) (.error e)]
  | stored : Stores site config request m fileName content
      (.done (m.ecdsa.publicKey, m.eddsa.publicKey))
      ([.storing (.save fileName content), .stored (.save fileName content) (.ok ())] ++
        sent site config request fileName content)

theorem sendBackup_eq (site : Site ε ρ σ) (config : EngineConfig) (request : KeygenRequest)
    (fileName content : String) (limit : Option Time) (w : World ε ρ σ) :
    ∃ w', sendBackup site config request fileName content limit w = (.done (), w') ∧
      w.Since w' (sent site config request fileName content) := by
  unfold sendBackup sent
  cases emailTask? site config request fileName content with
  | none => exact ⟨w, rfl, .refl w⟩
  | some task => exact ⟨_, rfl, w.since_record _⟩

theorem save_logs (site : Site ε ρ σ) (config : EngineConfig) (request : KeygenRequest) (m : Made)
    (fileName content : String) :
    (save site config request m fileName content).Logs
      (Stores site config request m fileName content) := by
  intro limit w
  unfold save
  obtain ⟨log, since, asks⟩ := askStorage_logs site (.save fileName content) limit w
  rcases hs : askStorage site (.save fileName content) limit w with ⟨e, w₁⟩
  rw [hs] at since asks
  cases asks with
  | waits waits =>
      have unanswered : (askStorage site (.save fileName content) limit w).1.Waits := by
        rw [hs]
        exact waits
      obtain ⟨waits', left⟩ := bind_of_waits unanswered
      rw [left, hs]
      exact ⟨_, since, .waits waits'⟩
  | failed err =>
      rw [bind_of_stops hs (.failed err)]
      exact ⟨_, since, .refused err⟩
  | done =>
      obtain ⟨w₂, sends, since'⟩ := sendBackup_eq site config request fileName content limit w₁
      rw [bind_of_done hs, bind_of_done sends]
      exact ⟨_, since.trans since', .stored⟩

/-- What is stored is the vault of both rounds, sealed. -/
theorem store_eq (site : Site ε ρ σ) (config : EngineConfig) (request : KeygenRequest) (m : Made)
    (limit : Option Time) (w : World ε ρ σ) :
    ∃ v nonce, vault request m.committee m.ecdsa m.eddsa (site.calendar w.now) = .ok v ∧
      store site config request m limit w = save site config request m
        (nameOf request v.publicKeyEcdsa) (contentOf request v nonce) limit w.sealOnce := by
  obtain ⟨v, made, -, -⟩ := exists_vault request m (site.calendar w.now)
  refine ⟨v, site.nonce w.sealings, made, ?_⟩
  unfold store
  rw [bind_of_done (show Run.now limit w = (.done w.now, w) from rfl), made]
  rfl

/-- Both rounds have succeeded, and this is what has happened until then. -/
structure Succeeds (site : Site ε ρ σ) (config : EngineConfig) (request : KeygenRequest)
    (limit : Option Time) (w : World ε ρ σ) (m : Made) (log : List Event) : Prop where
  quiet : ∀ e ∈ log, ¬e.Effect
  succeed : ∃ w', rounds site config request limit w = (.done m, w') ∧ w.Since w' log

/-- How creating a vault comes out and what it logs. -/
inductive Creates (site : Site ε ρ σ) (config : EngineConfig) (request : KeygenRequest)
    (limit : Option Time) (w : World ε ρ σ) : Ending (String × String) → List Event → Prop
  | fails {e log} (unmade : ∀ m w', rounds site config request limit w ≠ (.done m, w'))
      (undone : ∀ keys, e ≠ .done keys) (quiet : ∀ e ∈ log, ¬e.Effect) :
      Creates site config request limit w e log
  | leaves {m early e e' log} (succeeds : Succeeds site config request limit w m early)
      (leaves : Leaves request m e log) (waits : e.Waits) (waits' : e'.Waits) :
      Creates site config request limit w e' (early ++ log)
  | stores {m early e log log' createdAt v} (nonce)
      (succeeds : Succeeds site config request limit w m early)
      (left : Leaves request m (.done ()) log)
      (made : vault request m.committee m.ecdsa m.eddsa createdAt = .ok v)
      (stores : Stores site config request m (nameOf request v.publicKeyEcdsa)
        (contentOf request v nonce) e log') :
      Creates site config request limit w e (early ++ log ++ log')

/-- Creating a vault comes out in one of the ways there are. -/
theorem createVault_creates (site : Site ε ρ σ) (config : EngineConfig) (request : KeygenRequest)
    (limit : Option Time) (w : World ε ρ σ) :
    ∃ log, w.Since (createVault site config request limit w).2 log ∧
      Creates site config request limit w (createVault site config request limit w).1 log := by
  rw [createVault_eq]
  obtain ⟨early, since, quiet⟩ := rounds_keeps site config request limit w
  rcases bind_cases (rounds site config request) (fun m => leave site request m.committee >>=
    fun _ => store site config request m) limit w with ⟨m, w₁, made, hb⟩ | ⟨e, e', w₁, hm, hb, stops⟩
  · rw [hb]
    rw [made] at since
    have succeeds : Succeeds site config request limit w m early := ⟨quiet, w₁, made, since⟩
    obtain ⟨log, since₁, leaves⟩ := leave_logs site request m limit w₁
    by_cases waits : (leave site request m.committee limit w₁).1.Waits
    · obtain ⟨waits', left⟩ := bind_of_waits waits
      rw [left]
      exact ⟨_, since.trans since₁, .leaves succeeds leaves waits waits'⟩
    · rcases hl : leave site request m.committee limit w₁ with ⟨e, w₂⟩
      rw [hl] at since₁ leaves waits
      cases leaves with
      | completing waits' => exact absurd waits' waits
      | parting x waits' => exact absurd waits' waits
      | left x y =>
          obtain ⟨v, nonce, vault, stores⟩ := store_eq site config request m limit w₂
          obtain ⟨log, since₂, saves⟩ := save_logs site config request m
            (nameOf request v.publicKeyEcdsa) (contentOf request v nonce) limit w₂.sealOnce
          rw [bind_of_done hl, stores]
          exact ⟨_, (since.trans since₁).trans since₂, .stores nonce succeeds (.left x y) vault saves⟩
  · rw [hb]
    rw [hm] at since
    refine ⟨early, since, .fails ?_ ?_ quiet⟩
    · intro m w' made
      rw [hm] at made
      cases made
      cases stops
    · rintro keys rfl
      cases stops

end Keygen

end QuorumVault
