/-
Creating a vault is all or nothing.

A vault is stored once at most, last of all, and only when both rounds have succeeded;
the run returns the keys if and only if the storage took it.  Whatever fails before
leaves nothing behind, and nothing that the relay says at the end changes what is
stored or returned.
-/
import QuorumVault.Proofs.Ceremony.Parting
import QuorumVault.Proofs.Vault.BackupName
import QuorumVault.Proofs.Vault.Container

namespace QuorumVault

/-! ### Kinds of events -/

namespace Event

/-- A call to the storage begins. -/
def isStoring : Event → Bool
  | .storing _ => true
  | _ => false

/-- A task is handed to the queue. -/
def isQueued : Event → Bool
  | .queued .. => true
  | _ => false

/-- The relay is told that the local member has finished. -/
def isCompleting : Event → Bool
  | .asked (.complete ..) => true
  | _ => false

/-- The relay answers to that. -/
def isCompletion : Event → Bool
  | .answered (.complete ..) _ => true
  | _ => false

/-- The relay is asked whether the others have finished. -/
def isParting : Event → Bool
  | .asked (.completed ..) => true
  | _ => false

/-- Something that has to do with storing the vault. -/
def isSaving : Event → Bool
  | .storing _ | .stored .. | .queued .. => true
  | _ => false

/-- An engine, the relay or the storage is called. -/
def isCall : Event → Bool
  | .engine .. | .query .. | .asked _ | .storing _ => true
  | .answered .. | .stored .. | .noted _ | .queued .. | .attempt .. => false

theorem kinds_of_isStoring {ev : Event} (h : ev.isStoring = true) :
    ev.isSaving = true ∧ ev.isCall = true := by
  cases ev <;> first | exact ⟨rfl, rfl⟩ | cases h

theorem isSaving_of_isQueued {ev : Event} (h : ev.isQueued = true) : ev.isSaving = true := by
  cases ev <;> first | rfl | cases h

end Event

/-- Only one element of a list is of some kind, so there is only one way to split the list there. -/
theorem split_unique {α : Type} {P : α → Prop} {x y : α} {a t before after : List α}
    (ha : ∀ z ∈ a, ¬P z) (ht : ∀ z ∈ t, ¬P z) (hy : P y)
    (h : a ++ x :: t = before ++ y :: after) : before = a ∧ y = x ∧ after = t := by
  rcases List.append_eq_append_iff.1 h with ⟨c, rfl, hc⟩ | ⟨c, rfl, hc⟩
  · cases c with
    | nil =>
        obtain ⟨rfl, rfl⟩ := List.cons.inj hc
        exact ⟨List.append_nil a, rfl, rfl⟩
    | cons z c =>
        have later : y ∈ t := by
          rw [(List.cons.inj hc).2]
          exact List.mem_append_right _ List.mem_cons_self
        exact absurd hy (ht y later)
  · cases c with
    | nil =>
        obtain ⟨rfl, rfl⟩ := List.cons.inj hc
        exact ⟨(List.append_nil before).symm, rfl, rfl⟩
    | cons z c =>
        have earlier : y ∈ before ++ z :: c := by
          rw [(List.cons.inj hc).1]
          exact List.mem_append_right _ List.mem_cons_self
        exact absurd hy (ha y earlier)

namespace Keygen

variable {ε ρ σ : Type} {site : Site ε ρ σ} {config : EngineConfig} {request : KeygenRequest}
  {limit : Option Time} {w : World ε ρ σ}

/-- A run of creating a vault has left everything behind, in order, or nothing. -/
structure AllOrNothing (site : Site ε ρ σ) (config : EngineConfig) (request : KeygenRequest)
    (limit : Option Time) (w : World ε ρ σ) (e : Ending (String × String)) (log : List Event) :
    Prop where
  stores_once : log.countP Event.isStoring ≤ 1
  /-- The storage is called to store a vault, after both rounds have succeeded, and then nobody is
  called any more. -/
  stores_last : ∀ before call after, log = before ++ .storing call :: after →
    (∃ m early parting, before = early ++ parting ∧ Succeeds site config request limit w m early ∧
      ∃ content v, call = .save (nameOf request m.ecdsa.publicKey) content ∧
        Container.openBytes (Utf8.encode content) request.encryptionPassword = .ok v ∧
        v.publicKeyEcdsa = m.ecdsa.publicKey ∧ v.publicKeyEddsa = m.eddsa.publicKey) ∧
      ∀ ev ∈ after, ev.isCall = false
  /-- The run returns keys if and only if the vault of these keys was stored. -/
  done_iff : ∀ a b, e = .done (a, b) ↔ ∃ content v,
    .stored (.save (nameOf request a) content) (.ok ()) ∈ log ∧
      Container.openBytes (Utf8.encode content) request.encryptionPassword = .ok v ∧
      v.publicKeyEddsa = b
  /-- If the run fails, nothing was to be stored or the storage has failed like that. -/
  failed : ∀ err, e = .failed err → (∀ call, .storing call ∉ log) ∨
    ∃ name content, .stored (.save name content) (.error err) ∈ log
  nothing : (¬∃ m early, Succeeds site config request limit w m early) → ∀ ev ∈ log, ¬ev.Effect
  /-- The relay is told of the end if and only if both rounds have succeeded, and then once. -/
  completes_iff : log.countP Event.isCompleting ≤ 1 ∧
    (log.countP Event.isCompleting = 1 ↔ ∃ m early, Succeeds site config request limit w m early)
  /-- It is asked for the others' end as often as it has answered to that, so if the run does not
  end while it waits, once if and only if both rounds have succeeded. -/
  parts_iff : log.countP Event.isParting = log.countP Event.isCompletion ∧
    log.countP Event.isParting ≤ 1 ∧ (¬e.Waits → (log.countP Event.isParting = 1 ↔
      ∃ m early, Succeeds site config request limit w m early))
  queues_once : log.countP Event.isQueued ≤ 1
  /-- A task is queued if and only if a vault was stored and a backup is wanted and possible. -/
  queues_iff : (∃ type payload, .queued type payload ∈ log) ↔
    (∃ name content, .stored (.save name content) (.ok ()) ∈ log) ∧
      (∃ email, request.email = some email ∧ ¬Text.Blank email) ∧
      config.emailBackupEnabled = true ∧ site.hasQueue = true
  queued : ∀ type payload, .queued type payload ∈ log → type = EmailBackupTask.taskType ∧
    ∃ email name content, request.email = some email ∧
      .stored (.save name content) (.ok ()) ∈ log ∧
      EmailBackupTask.decoder.parse payload = .ok ⟨request.name, email, name, content⟩

/-! ### The parts of a log -/

/-- What is no effect has nothing to do with storing or leaving. -/
theorem not_saving_of_quiet {ev : Event} (quiet : ¬ev.Effect) : ev.isSaving = false ∧
    ev.isCompleting = false ∧ ev.isCompletion = false ∧ ev.isParting = false := by
  cases ev with
  | engine | query | noted | attempt => exact ⟨rfl, rfl, rfl, rfl⟩
  | storing | stored | queued => exact absurd trivial quiet
  | asked c | answered c =>
      cases c <;> first | exact ⟨rfl, rfl, rfl, rfl⟩ | exact absurd rfl quiet

/-- None of some events is of a kind if none is of a wider kind. -/
theorem countP_eq_zero_of {p q : Event → Bool} (le : ∀ ev, p ev = true → q ev = true)
    {log : List Event} (none : ∀ ev ∈ log, q ev = false) : log.countP p = 0 := by
  refine List.countP_eq_zero.2 fun ev mem holds => ?_
  have wider := le ev holds
  rw [none ev mem] at wider
  cases wider

theorem Leaves.not_saving {m : Made} {e : Ending Unit} {log : List Event}
    (h : Leaves request m e log) : ∀ ev ∈ log, ev.isSaving = false := by
  cases h <;> simp [Event.isSaving]

/-- The leave from the relay is one call, and another one if there is an answer. -/
theorem Leaves.counts {m : Made} {e : Ending Unit} {log : List Event}
    (h : Leaves request m e log) : log.countP Event.isCompleting = 1 ∧
      log.countP Event.isParting = log.countP Event.isCompletion ∧
      log.countP Event.isParting ≤ 1 ∧ (¬e.Waits → log.countP Event.isParting = 1) := by
  cases h with
  | completing waits => exact ⟨rfl, rfl, Nat.zero_le _, fun h => absurd waits h⟩
  | parting x waits => exact ⟨rfl, rfl, Nat.le_refl _, fun _ => rfl⟩
  | left x y => exact ⟨rfl, rfl, Nat.le_refl _, fun _ => rfl⟩

theorem sent_queued (fileName content : String) :
    ∀ ev ∈ sent site config request fileName content, ev.isQueued = true := by
  intro ev mem
  obtain ⟨task, -, rfl⟩ := List.mem_map.1 mem
  rfl

theorem Stores.saving {m : Made} {fileName content : String} {e : Ending (String × String)}
    {log : List Event} (h : Stores site config request m fileName content e log) :
    ∀ ev ∈ log, ev.isSaving = true := by
  cases h with
  | waits => simp [Event.isSaving]
  | refused => simp [Event.isSaving]
  | stored =>
      intro ev mem
      rcases List.mem_append.1 mem with mem | mem
      · rcases List.mem_cons.1 mem with rfl | mem
        · rfl
        · rw [List.mem_singleton.1 mem]
          rfl
      · exact Event.isSaving_of_isQueued (sent_queued _ _ ev mem)

/-- What has to do with storing stands behind everything else. -/
inductive Splits (site : Site ε ρ σ) (config : EngineConfig) (request : KeygenRequest)
    (limit : Option Time) (w : World ε ρ σ) (e : Ending (String × String)) :
    List Event → List Event → Prop
  | unstored {front} (plain : ∀ ev ∈ front, ev.isSaving = false) (undone : ∀ keys, e ≠ .done keys) :
      Splits site config request limit w e front []
  | stores {m early parting back v createdAt} (nonce)
      (plain : ∀ ev ∈ early ++ parting, ev.isSaving = false)
      (succeeds : Succeeds site config request limit w m early)
      (made : vault request m.committee m.ecdsa m.eddsa createdAt = .ok v)
      (stores : Stores site config request m (nameOf request v.publicKeyEcdsa)
        (contentOf request v nonce) e back) :
      Splits site config request limit w e (early ++ parting) back

theorem Creates.splits {e : Ending (String × String)} {log : List Event}
    (h : Creates site config request limit w e log) :
    ∃ front back, log = front ++ back ∧ Splits site config request limit w e front back := by
  have plain {early log : List Event} (quiet : ∀ ev ∈ early, ¬ev.Effect)
      (rest : ∀ ev ∈ log, ev.isSaving = false) : ∀ ev ∈ early ++ log, ev.isSaving = false :=
    fun ev mem => (List.mem_append.1 mem).elim (fun mem => (not_saving_of_quiet (quiet ev mem)).1)
      (rest ev)
  cases h with
  | fails unmade undone quiet =>
      exact ⟨log, [], (List.append_nil log).symm,
        .unstored (fun ev mem => (not_saving_of_quiet (quiet ev mem)).1) undone⟩
  | leaves succeeds left waits waits' =>
      refine ⟨_, [], (List.append_nil _).symm,
        .unstored (plain succeeds.quiet left.not_saving) ?_⟩
      rintro keys rfl
      cases waits'
  | stores nonce succeeds left made stores =>
      exact ⟨_, _, rfl, .stores nonce (plain succeeds.quiet left.not_saving) succeeds made stores⟩

/-! ### Storing -/

theorem not_call_of_sent (fileName content : String) :
    ∀ ev ∈ sent site config request fileName content, ev.isCall = false := by
  intro ev mem
  obtain ⟨task, -, rfl⟩ := List.mem_map.1 mem
  rfl

/-- The call to the storage is the first thing, and the last call. -/
theorem Stores.begins {m : Made} {fileName content : String} {e : Ending (String × String)}
    {log : List Event} (h : Stores site config request m fileName content e log) :
    ∃ rest, log = .storing (.save fileName content) :: rest ∧ ∀ ev ∈ rest, ev.isCall = false := by
  cases h with
  | waits => exact ⟨[], rfl, nofun⟩
  | refused => exact ⟨_, rfl, by simp [Event.isCall]⟩
  | stored =>
      refine ⟨_, rfl, fun ev mem => ?_⟩
      rcases List.mem_cons.1 mem with rfl | mem
      · rfl
      · exact not_call_of_sent _ _ ev mem

theorem Stores.of_stored {m : Made} {fileName content : String} {e : Ending (String × String)}
    {log : List Event} (h : Stores site config request m fileName content e log) {name text : String}
    {x : Except Error Unit} (mem : .stored (.save name text) x ∈ log) :
    name = fileName ∧ text = content ∧
      ((∃ err, x = .error err ∧ e = .failed err) ∨
        x = .ok () ∧ e = .done (m.ecdsa.publicKey, m.eddsa.publicKey)) := by
  cases h with
  | waits => simp at mem
  | refused err =>
      rcases List.mem_cons.1 mem with mem | mem
      · cases mem
      · cases List.mem_singleton.1 mem
        exact ⟨rfl, rfl, .inl ⟨err, rfl, rfl⟩⟩
  | stored =>
      rcases List.mem_append.1 mem with mem | mem
      · rcases List.mem_cons.1 mem with mem | mem
        · cases mem
        · cases List.mem_singleton.1 mem
          exact ⟨rfl, rfl, .inr ⟨rfl, rfl⟩⟩
      · cases sent_queued _ _ _ mem

/-- If the run ends with keys, the storage has taken the vault. -/
theorem Stores.stored_of_done {m : Made} {fileName content : String} {keys : String × String}
    {log : List Event} (h : Stores site config request m fileName content (.done keys) log) :
    keys = (m.ecdsa.publicKey, m.eddsa.publicKey) ∧
      log = [.storing (.save fileName content), .stored (.save fileName content) (.ok ())] ++
        sent site config request fileName content := by
  cases h with
  | waits waits => cases waits
  | stored => exact ⟨rfl, rfl⟩

theorem Stores.stored_of_failed {m : Made} {fileName content : String} {err : Error}
    {log : List Event} (h : Stores site config request m fileName content (.failed err) log) :
    .stored (.save fileName content) (.error err) ∈ log := by
  cases h with
  | waits waits => cases waits
  | refused => simp

/-- The vault of both rounds is what a content of its container opens to. -/
theorem opens (m : Made) {v : Vault} {createdAt : Moment} (nonce : Sealing.Nonce)
    (made : vault request m.committee m.ecdsa m.eddsa createdAt = .ok v) :
    Container.openBytes (Utf8.encode (contentOf request v nonce)) request.encryptionPassword = .ok v ∧
      v.publicKeyEcdsa = m.ecdsa.publicKey ∧ v.publicKeyEddsa = m.eddsa.publicKey := by
  obtain ⟨v', made', ecdsa, eddsa⟩ := exists_vault request m createdAt
  obtain rfl : v' = v := Except.ok.inj (made'.symm.trans made)
  exact ⟨Container.openBytes_text_ofVault _ _ _, ecdsa, eddsa⟩

section

variable {e : Ending (String × String)} {front back : List Event}
  (h : Splits site config request limit w e front back)

include h

theorem Splits.plain : ∀ ev ∈ front, ev.isSaving = false := by
  cases h with
  | unstored plain => exact plain
  | stores _ plain => exact plain

theorem Splits.mem_back {ev : Event} (saving : ev.isSaving = true) (mem : ev ∈ front ++ back) :
    ev ∈ back := by
  refine (List.mem_append.1 mem).resolve_left fun mem => ?_
  rw [h.plain ev mem] at saving
  cases saving

theorem Splits.countP_eq {p : Event → Bool} (le : ∀ ev, p ev = true → ev.isSaving = true) :
    (front ++ back).countP p = back.countP p := by
  rw [List.countP_append, countP_eq_zero_of le h.plain, Nat.zero_add]

theorem Splits.stores_once : (front ++ back).countP Event.isStoring ≤ 1 := by
  rw [h.countP_eq fun ev storing => (Event.kinds_of_isStoring storing).1]
  cases h with
  | unstored => exact Nat.zero_le _
  | stores nonce plain succeeds made stores =>
      obtain ⟨rest, rfl, quiet⟩ := stores.begins
      rw [List.countP_cons, countP_eq_zero_of (q := Event.isCall)
        (fun ev storing => (Event.kinds_of_isStoring storing).2) quiet]
      exact Nat.le_refl _

theorem Splits.stores_last {before after : List Event} {call : Storage.Call}
    (split : front ++ back = before ++ .storing call :: after) :
    (∃ m early parting, before = early ++ parting ∧ Succeeds site config request limit w m early ∧
      ∃ content v, call = .save (nameOf request m.ecdsa.publicKey) content ∧
        Container.openBytes (Utf8.encode content) request.encryptionPassword = .ok v ∧
        v.publicKeyEcdsa = m.ecdsa.publicKey ∧ v.publicKeyEddsa = m.eddsa.publicKey) ∧
      ∀ ev ∈ after, ev.isCall = false := by
  cases h with
  | unstored plain =>
      have mem : Event.storing call ∈ front := by
        rw [List.append_nil] at split
        rw [split]
        exact List.mem_append_right _ List.mem_cons_self
      cases plain _ mem
  | @stores m early parting _ v createdAt nonce plain succeeds made stores =>
      obtain ⟨rest, rfl, quiet⟩ := stores.begins
      obtain ⟨rfl, same, rfl⟩ := split_unique (P := fun ev => ev.isStoring = true)
        (fun ev mem storing => by
          have saving := (Event.kinds_of_isStoring storing).1
          rw [plain ev mem] at saving
          cases saving)
        (fun ev mem storing => by
          have calling := (Event.kinds_of_isStoring storing).2
          rw [quiet ev mem] at calling
          cases calling) rfl split
      obtain ⟨opened, ecdsa, eddsa⟩ := opens m nonce made
      refine ⟨⟨m, early, parting, rfl, succeeds, _, v, ?_, opened, ecdsa, eddsa⟩, quiet⟩
      rw [← ecdsa]
      cases same
      rfl

theorem Splits.done_iff (a b : String) : e = .done (a, b) ↔ ∃ content v,
    .stored (.save (nameOf request a) content) (.ok ()) ∈ front ++ back ∧
      Container.openBytes (Utf8.encode content) request.encryptionPassword = .ok v ∧
      v.publicKeyEddsa = b := by
  constructor
  · rintro rfl
    cases h with
    | unstored plain undone => exact absurd rfl (undone (a, b))
    | @stores m early parting _ v createdAt nonce plain succeeds made stores =>
        obtain ⟨keys, rfl⟩ := stores.stored_of_done
        obtain ⟨rfl, rfl⟩ := Prod.mk.inj keys
        obtain ⟨opened, ecdsa, eddsa⟩ := opens m nonce made
        refine ⟨_, v, ?_, opened, eddsa⟩
        rw [ecdsa]
        simp
  · rintro ⟨content, v, mem, opened, rfl⟩
    have stored := h.mem_back rfl mem
    cases h with
    | unstored => cases stored
    | @stores m early parting _ v' createdAt nonce plain succeeds made stores =>
        obtain ⟨name, rfl, ⟨err, refused, -⟩ | ⟨-, rfl⟩⟩ := stores.of_stored stored
        · cases refused
        obtain ⟨opened', ecdsa, eddsa⟩ := opens m nonce made
        obtain rfl : v = v' := Except.ok.inj (opened.symm.trans opened')
        rw [BackupName.text_inj name, ecdsa, eddsa]

theorem Splits.failed {err : Error} (failed : e = .failed err) :
    (∀ call, .storing call ∉ front ++ back) ∨
      ∃ name content, .stored (.save name content) (.error err) ∈ front ++ back := by
  subst failed
  cases h with
  | unstored plain =>
      left
      intro call mem
      rw [List.append_nil] at mem
      cases plain _ mem
  | stores nonce plain succeeds made stores =>
      exact .inr ⟨_, _, List.mem_append_right _ stores.stored_of_failed⟩

/-! ### The backup -/

omit h

/-- There is a task if it is wanted, enabled and possible. -/
theorem emailTask?_eq_some_iff {fileName content : String} {task : EmailBackupTask} :
    emailTask? site config request fileName content = some task ↔
      ∃ email, request.email = some email ∧ ¬Text.Blank email ∧ config.emailBackupEnabled = true ∧
        site.hasQueue = true ∧ task = ⟨request.name, email, fileName, content⟩ := by
  unfold emailTask?
  cases request.email with
  | none => simp
  | some email =>
      dsimp only
      by_cases wanted : ¬Text.Blank email ∧ config.emailBackupEnabled = true ∧ site.hasQueue = true
      · rw [if_pos wanted]
        constructor
        · rintro ⟨⟩
          exact ⟨email, rfl, wanted.1, wanted.2.1, wanted.2.2, rfl⟩
        · rintro ⟨email, ⟨⟩, -, -, -, rfl⟩
          rfl
      · rw [if_neg wanted]
        constructor
        · nofun
        · rintro ⟨email, ⟨⟩, wants, enabled, possible, -⟩
          exact absurd ⟨wants, enabled, possible⟩ wanted

theorem mem_sent {fileName content type : String} {payload : Bytes} :
    .queued type payload ∈ sent site config request fileName content ↔
      ∃ task, emailTask? site config request fileName content = some task ∧
        type = EmailBackupTask.taskType ∧ payload = task.payload := by
  unfold sent
  rw [List.mem_map]
  constructor
  · rintro ⟨task, mem, ⟨⟩⟩
    exact ⟨task, Option.mem_toList.1 mem, rfl, rfl⟩
  · rintro ⟨task, wanted, rfl, rfl⟩
    exact ⟨task, Option.mem_toList.2 wanted, rfl⟩

/-- A task is queued only behind the storage's consent, and says what was stored. -/
theorem Stores.of_queued {m : Made} {fileName content : String} {log : List Event}
    (h : Stores site config request m fileName content e log) {type : String} {payload : Bytes}
    (mem : .queued type payload ∈ log) :
    .stored (.save fileName content) (.ok ()) ∈ log ∧
      .queued type payload ∈ sent site config request fileName content := by
  cases h with
  | waits => simp at mem
  | refused => simp at mem
  | stored =>
      refine ⟨by simp, (List.mem_append.1 mem).resolve_left fun mem => ?_⟩
      simp at mem

include h

theorem Splits.queues_once : (front ++ back).countP Event.isQueued ≤ 1 := by
  rw [h.countP_eq fun ev queued => Event.isSaving_of_isQueued queued]
  cases h with
  | unstored => exact Nat.zero_le _
  | stores nonce plain succeeds made stores =>
      cases stores with
      | waits => exact Nat.zero_le _
      | refused => exact Nat.zero_le _
      | stored =>
          rw [List.countP_append]
          refine Nat.le_trans (Nat.add_le_add_left List.countP_le_length _) ?_
          unfold sent
          rw [List.length_map]
          cases emailTask? site config request _ _ with
          | none => exact Nat.zero_le _
          | some task => exact Nat.le_refl _

theorem Splits.queued {type : String} {payload : Bytes}
    (mem : .queued type payload ∈ front ++ back) : type = EmailBackupTask.taskType ∧
      ∃ email name content, request.email = some email ∧
        .stored (.save name content) (.ok ()) ∈ front ++ back ∧
        EmailBackupTask.decoder.parse payload = .ok ⟨request.name, email, name, content⟩ := by
  have queued := h.mem_back rfl mem
  cases h with
  | unstored => cases queued
  | stores nonce plain succeeds made stores =>
      obtain ⟨stored, sends⟩ := stores.of_queued queued
      obtain ⟨task, wanted, rfl, rfl⟩ := mem_sent.1 sends
      obtain ⟨email, wants, -, -, -, rfl⟩ := emailTask?_eq_some_iff.1 wanted
      exact ⟨rfl, email, _, _, wants, List.mem_append_right _ stored,
        EmailBackupTask.parse_payload _⟩

theorem Splits.queues_iff : (∃ type payload, .queued type payload ∈ front ++ back) ↔
    (∃ name content, .stored (.save name content) (.ok ()) ∈ front ++ back) ∧
      (∃ email, request.email = some email ∧ ¬Text.Blank email) ∧
      config.emailBackupEnabled = true ∧ site.hasQueue = true := by
  constructor
  · rintro ⟨type, payload, mem⟩
    have queued := h.mem_back rfl mem
    cases h with
    | unstored => cases queued
    | stores nonce plain succeeds made stores =>
        obtain ⟨stored, sends⟩ := stores.of_queued queued
        obtain ⟨task, wanted, -, -⟩ := mem_sent.1 sends
        obtain ⟨email, wants, solid, enabled, possible, -⟩ := emailTask?_eq_some_iff.1 wanted
        exact ⟨⟨_, _, List.mem_append_right _ stored⟩, ⟨email, wants, solid⟩, enabled, possible⟩
  · rintro ⟨⟨name, content, mem⟩, ⟨email, wants, solid⟩, enabled, possible⟩
    have stored := h.mem_back rfl mem
    cases h with
    | unstored => cases stored
    | @stores m early parting _ v createdAt nonce plain succeeds made stores =>
        obtain ⟨rfl, rfl, ⟨err, refused, -⟩ | ⟨-, rfl⟩⟩ := stores.of_stored stored
        · cases refused
        obtain ⟨-, rfl⟩ := stores.stored_of_done
        have wanted : emailTask? site config request (nameOf request v.publicKeyEcdsa)
            (contentOf request v nonce) = some ⟨request.name, email, _, _⟩ :=
          emailTask?_eq_some_iff.2 ⟨email, wants, solid, enabled, possible, rfl⟩
        have sends := mem_sent.2 ⟨_, wanted, rfl, rfl⟩
        exact ⟨_, _, List.mem_append_right _ (List.mem_append_right _ sends)⟩

end

/-! ### The leave -/

/-- The log of a run that has nothing to do with leaving. -/
def Aloof (log : List Event) : Prop :=
  log.countP Event.isCompleting = 0 ∧ log.countP Event.isCompletion = 0 ∧
    log.countP Event.isParting = 0

theorem aloof_of {log : List Event} (h : ∀ ev ∈ log, ev.isCompleting = false ∧
    ev.isCompletion = false ∧ ev.isParting = false) : Aloof log := by
  refine ⟨List.countP_eq_zero.2 ?_, List.countP_eq_zero.2 ?_, List.countP_eq_zero.2 ?_⟩
  · intro ev mem
    rw [(h ev mem).1]
    exact Bool.false_ne_true
  · intro ev mem
    rw [(h ev mem).2.1]
    exact Bool.false_ne_true
  · intro ev mem
    rw [(h ev mem).2.2]
    exact Bool.false_ne_true

theorem Succeeds.aloof {m : Made} {early : List Event}
    (h : Succeeds site config request limit w m early) : Aloof early :=
  aloof_of fun ev mem => (not_saving_of_quiet (h.quiet ev mem)).2

theorem Stores.aloof {m : Made} {fileName content : String} {e : Ending (String × String)}
    {log : List Event} (h : Stores site config request m fileName content e log) : Aloof log := by
  refine aloof_of fun ev mem => ?_
  have saving := h.saving ev mem
  cases ev <;> first | exact ⟨rfl, rfl, rfl⟩ | cases saving

/-- Either the rounds did not both succeed and there are no effects, or the relay was told of the
end. -/
theorem Creates.parts {e : Ending (String × String)} {log : List Event}
    (h : Creates site config request limit w e log) :
    ((¬∃ m early, Succeeds site config request limit w m early) ∧ ∀ ev ∈ log, ¬ev.Effect) ∨
      (∃ m early, Succeeds site config request limit w m early) ∧
        log.countP Event.isCompleting = 1 ∧
        log.countP Event.isParting = log.countP Event.isCompletion ∧
        log.countP Event.isParting ≤ 1 ∧ (¬e.Waits → log.countP Event.isParting = 1) := by
  cases h with
  | fails unmade undone quiet =>
      refine .inl ⟨?_, quiet⟩
      rintro ⟨m, early, succeeds⟩
      obtain ⟨w', made, -⟩ := succeeds.succeed
      exact unmade m w' made
  | leaves succeeds left waits waits' =>
      obtain ⟨completing, completion, once, -⟩ := left.counts
      obtain ⟨before₁, before₂, before₃⟩ := succeeds.aloof
      refine .inr ⟨⟨_, _, succeeds⟩, ?_⟩
      simp only [List.countP_append, before₁, before₂, before₃, Nat.zero_add]
      exact ⟨completing, completion, once, fun h => absurd waits' h⟩
  | stores nonce succeeds left made stores =>
      obtain ⟨completing, completion, once, parting⟩ := left.counts
      obtain ⟨before₁, before₂, before₃⟩ := succeeds.aloof
      obtain ⟨after₁, after₂, after₃⟩ := stores.aloof
      refine .inr ⟨⟨_, _, succeeds⟩, ?_⟩
      simp only [List.countP_append, before₁, before₂, before₃, after₁, after₂, after₃, Nat.zero_add,
        Nat.add_zero]
      exact ⟨completing, completion, once, fun _ => parting nofun⟩

theorem Creates.completes_iff {e : Ending (String × String)} {log : List Event}
    (h : Creates site config request limit w e log) : log.countP Event.isCompleting ≤ 1 ∧
      (log.countP Event.isCompleting = 1 ↔
        ∃ m early, Succeeds site config request limit w m early) := by
  rcases h.parts with ⟨unmade, quiet⟩ | ⟨made, completing, -⟩
  · have none := (aloof_of fun ev mem => (not_saving_of_quiet (quiet ev mem)).2).1
    rw [none]
    exact ⟨Nat.zero_le _, nofun, fun made => absurd made unmade⟩
  · rw [completing]
    exact ⟨Nat.le_refl _, fun _ => made, fun _ => rfl⟩

theorem Creates.parts_iff {e : Ending (String × String)} {log : List Event}
    (h : Creates site config request limit w e log) :
    log.countP Event.isParting = log.countP Event.isCompletion ∧
      log.countP Event.isParting ≤ 1 ∧ (¬e.Waits → (log.countP Event.isParting = 1 ↔
        ∃ m early, Succeeds site config request limit w m early)) := by
  rcases h.parts with ⟨unmade, quiet⟩ | ⟨made, -, completion, once, parting⟩
  · obtain ⟨-, none₁, none₂⟩ := aloof_of fun ev mem => (not_saving_of_quiet (quiet ev mem)).2
    rw [none₁, none₂]
    exact ⟨rfl, Nat.zero_le _, fun _ => ⟨nofun, fun made => absurd made unmade⟩⟩
  · exact ⟨completion, once, fun ended => ⟨fun _ => made, fun _ => parting ended⟩⟩

theorem Creates.allOrNothing {e : Ending (String × String)} {log : List Event}
    (h : Creates site config request limit w e log) :
    AllOrNothing site config request limit w e log := by
  obtain ⟨front, back, rfl, splits⟩ := h.splits
  exact {
    stores_once := splits.stores_once
    stores_last := fun before call after split => splits.stores_last split
    done_iff := splits.done_iff
    failed := fun err failed => splits.failed failed
    nothing := fun unmade => h.parts.elim (fun none => none.2) fun made => absurd made.1 unmade
    completes_iff := h.completes_iff
    parts_iff := h.parts_iff
    queues_once := splits.queues_once
    queues_iff := splits.queues_iff
    queued := fun type payload mem => splits.queued mem }

/-- Whatever engines, relay and storage do and however the run is limited, creating a vault is all or
nothing; and whatever the relay answers at the end, the run ends the same and, but for these answers,
does the same. -/
theorem createVault_allOrNothing (site : Site ε ρ σ) (config : EngineConfig)
    (request : KeygenRequest) (limit : Option Time) (w : World ε ρ σ) :
    (∃ log, w.Since (createVault site config request limit w).2 log ∧
      AllOrNothing site config request limit w (createVault site config request limit w).1 log) ∧
    ∀ other, (createVault (site.overruled other) config request limit w).1 =
        (createVault site config request limit w).1 ∧
      ∃ log log', w.Since (createVault site config request limit w).2 log ∧
        w.Since (createVault (site.overruled other) config request limit w).2 log' ∧
        log.filter (!hides ·) = log'.filter (!hides ·) := by
  constructor
  · obtain ⟨log, since, creates⟩ := createVault_creates site config request limit w
    exact ⟨log, since, creates.allOrNothing⟩
  · exact fun other => createVault_overruled site other config request limit w

end Keygen

end QuorumVault
