/-
Rounds that share a session are kept apart by their scopes.

Whatever is done in a round of a ceremony bears the round's own scope: the setup message that
is waited for, what is uploaded, fetched and deleted, and so what the engine is handed.  So
a ceremony cannot tell relays apart that agree on the scopes of its rounds, and as long as
hashes do not collide no message of one round finds its way into another one.
-/
import QuorumVault.Proofs.Ceremony.Admission
import QuorumVault.Proofs.Ceremony.Signing
import QuorumVault.Proofs.Encoding.Hex
import QuorumVault.Proofs.Rehearsal.Prompt
import QuorumVault.Proofs.Relay.Agree

namespace QuorumVault

open Run Rehearsal

variable {ε ρ ρ' σ : Type} {site : Site ε ρ σ} {relay' : Relay ρ'} {scopes : Option String → Prop}
  {view : View}

/-- What is done in a round is work. -/
theorem Event.OfRound.stage {e : Event} (h : e.OfRound) : e.stage = .working := by
  cases e with
  | asked c | answered c =>
      cases c with
      | register | start | complete | completed => cases h
      | setup | upload | download | delete => rfl
  | engine => rfl
  | query | storing | stored | noted | queued | attempt => cases h

/-- A scope is the hash of bytes. -/
theorem KeysignMessage.exists_bytes_of_scope {m : KeysignMessage} {name : String}
    (named : m.scope = .ok name) : ∃ body, m.bytes = .ok body ∧ name = scopeOf body := by
  unfold scope at named
  cases opened : m.bytes with
  | error fault =>
      rw [opened] at named
      cases named
  | ok body =>
      rw [opened] at named
      exact ⟨body, rfl, (Except.ok.inj named).symm⟩

/-! ### Rounds over relays that agree -/

/-- The relays agree on everything but other scopes. -/
abbrev Relay.AgreeWithin (scopes : Option String → Prop) (relay : Relay ρ) (relay' : Relay ρ') :
    ρ → ρ' → Prop :=
  Relay.Agree (Relay.Call.Within scopes) relay relay'

theorem Run.Twin.askRelay_within {c : Relay.Call} (within : c.Within scopes) :
    Run.Twin view (site.relay.AgreeWithin scopes relay') (Run.askRelay site c)
      (Run.askRelay (site.over relay') c) :=
  .askRelay fun _ _ now agree => agree.matches now within

namespace Round

variable {r : Round}

/-- Relays that agree on a round's scope mirror each other in the round. -/
theorem agree_mirror (used : scopes r.scope) :
    Mirror view r (fun _ => site.relay.AgreeWithin scopes relay') site.relay relay' := by
  have within {c : Relay.Call} (own : c.scope? = some r.scope) : c.Within scopes := by
    intro scope same
    cases own.symm.trans same
    exact used
  refine ⟨fun _ agree => agree, ?_, ?_, ?_⟩
  · intro applied s s' now envelope agree
    obtain ⟨took, answer, state⟩ := agree.matches now (c := .upload envelope r.scope) (within rfl)
    exact ⟨took, congrArg (fun answer => view (.answered (.upload envelope r.scope) answer)) answer,
      state⟩
  · intro applied s s' now agree
    obtain ⟨took, answer, state⟩ := agree.matches now (c := downloadCall r) (within rfl)
    refine ⟨took, ?_, state⟩
    rw [answer]
    exact .refl view r applied _
  · intro applied s s' now hash _ agree
    obtain ⟨took, answer, state⟩ := agree.matches now (c := deleteCall r hash) (within rfl)
    exact ⟨took, congrArg (fun answer => view (.answered (deleteCall r hash) answer)) answer, state⟩

/-- The round over one of them is the round over the other. -/
theorem run_twin (used : scopes r.scope) (session : Session) :
    Run.Twin view (site.relay.AgreeWithin scopes relay') (r.run site session)
      (r.run (site.over relay') session) := by
  intro limit w w' twin
  obtain ⟨same, _, world⟩ := run_twins (agree_mirror used) session limit twin
  exact ⟨same, world⟩

theorem fetchSetup_twin (used : scopes r.scope) :
    Run.Twin view (site.relay.AgreeWithin scopes relay') (r.fetchSetup site)
      (r.fetchSetup (site.over relay')) := by
  refine .bind (.askRelay_within ?_) fun _ => .ofExcept _
  rintro _ ⟨⟩
  exact used

end Round

/-! ### Creating a vault -/

namespace Keygen

variable (config : EngineConfig) (request : KeygenRequest)

/-- The scopes of the rounds. -/
def Scopes (scope : Option String) : Prop :=
  ∃ family, scope = Keygen.scope family

theorem attempts_twin (committee : List String) (family : Family) :
    Run.Twin view (site.relay.AgreeWithin Scopes relay') (attempts site config request committee family)
      (attempts (site.over relay') config request committee family) := by
  have used : Scopes (round config request committee family).scope := ⟨family, rfl⟩
  have tries (_ : Nat) : Run.Twin view (site.relay.AgreeWithin Scopes relay')
      (attempt site config request committee family)
      (attempt (site.over relay') config request committee family) := by
    refine .bind (Round.fetchSetup_twin used) fun setup => ?_
    refine .bind (.withSession family _ (Round.run_twin used)) fun raw => ?_
    refine .bind (.queryEngine family _) fun publicKey => ?_
    cases family with
    | ecdsa => exact .bind (.bind (.queryEngine _ _) fun _ => .done _) fun _ => .done _
    | eddsa => exact .bind (.done _) fun _ => .done _
  unfold attempts
  cases config.timeouts.keygenRetry? with
  | none => exact .overflow
  | some policy =>
      refine .bind (.attempt (.retries policy (label family) tries)) fun result => ?_
      cases result with
      | ok outcome => exact .bind (.record _) fun _ => .done _
      | error e => exact .bind (.record _) fun _ => .fail _

theorem sendBackup_twin (fileName content : String) :
    Run.Twin view (site.relay.AgreeWithin Scopes relay') (sendBackup site config request fileName content)
      (sendBackup (site.over relay') config request fileName content) := by
  have same : emailTask? (site.over relay') config request fileName content =
      emailTask? site config request fileName content := rfl
  unfold sendBackup
  rw [same]
  cases emailTask? site config request fileName content with
  | none => exact .done _
  | some task => exact .record _

/-- A vault is created in the same way over relays that agree on the scopes of the rounds. -/
theorem createVault_twin : Run.Twin view (site.relay.AgreeWithin Scopes relay')
    (createVault site config request) (createVault (site.over relay') config request) := by
  refine .bind (.ofExcept _) fun _ => ?_
  refine .bind (.bind (.askRelay_within nofun) fun _ => .bind (.askRelay_within nofun)
    fun committee => .bind (.ofExcept _) fun _ => .done _) fun committee => ?_
  refine .bind (attempts_twin config request committee .ecdsa) fun ecdsa => ?_
  refine .bind (.wait _) fun _ => ?_
  refine .bind (attempts_twin config request committee .eddsa) fun eddsa => ?_
  refine .bind (.bind (.attempt (.askRelay_within nofun)) fun _ =>
    .bind (.attempt (.askRelay_within nofun)) fun _ => .done _) fun _ => ?_
  refine .bind .now fun now => .bind (.ofExcept _) fun vault => ?_
  refine .bind .nonce fun nonce => .bind (.askStorage _) fun _ => ?_
  exact .bind (sendBackup_twin config request _ _) fun _ => .done _

/-- The rounds that create a vault are kept apart from each other and from everything else. -/
structure Isolated (site : Site ε ρ σ) (relay' : Relay ρ') (config : EngineConfig)
    (request : KeygenRequest) : Prop where
  /-- What is done in a round is done in an attempt at it: for the session, in the scope of the curve,
  as the member of the request, and with what was served for these in the attempt. -/
  addressed : (createVault site config request).Logs fun _ log =>
    ∀ before e after, log = before ++ e :: after → e.OfRound →
      ∃ committee family since, HaveMet config request committee before ∧
        Underway (label family) since before ∧
          (round config request committee family).OwnsAt since e
  /-- Creating a vault is the same over relays that agree on all but other scopes. -/
  same : ∀ limit w s, site.relay.AgreeWithin Scopes relay' w.relay s →
    SameOver (createVault site config request) (createVault (site.over relay') config request)
      limit w s

theorem isolated (site : Site ε ρ σ) (relay' : Relay ρ') : Isolated site relay' config request where
  addressed := by
    refine (createVault_comes site config request).mono ?_
    intro e log comes before ev after split ofRound
    obtain ⟨committee, met, plays⟩ := comes.working split ofRound.stage
    obtain ⟨_, since, underway, family, rfl, owns⟩ := plays ofRound
    exact ⟨committee, family, since, met, underway, owns⟩
  same limit _ _ agree := (createVault_twin config request).sameOver limit agree

end Keygen

/-! ### Signing -/

namespace Keysign

variable (config : EngineConfig) (request : KeysignRequest)

/-- The scopes of the rounds for the messages of a request. -/
def Scopes (request : KeysignRequest) (scope : Option String) : Prop :=
  ∃ m ∈ request.messages, ∃ name, m.scope = .ok name ∧ scope = some name

/-- A message is signed in the same way over relays that agree on its own scope. -/
theorem attempts_twin (vault : Vault) (committee : List String) {m : KeysignMessage}
    (used : ∀ name, m.scope = .ok name → scopes (some name)) :
    Run.Twin view (site.relay.AgreeWithin scopes relay')
      (attempts site config request vault committee m)
      (attempts (site.over relay') config request vault committee m) := by
  have tries (_ : Nat) : Run.Twin view (site.relay.AgreeWithin scopes relay')
      (attempt site config request vault committee m)
      (attempt (site.over relay') config request vault committee m) := by
    -- There is no attempt without a scope, and it is the message's.
    refine .bind_ofExcept fun name named => ?_
    have used : scopes (round config request vault committee name).scope :=
      used name (mapError_eq_ok named)
    refine .bind (.ofExcept _) fun share => ?_
    refine .bind (Round.fetchSetup_twin used) fun setup => ?_
    exact .bind (.withSession m.family _ (Round.run_twin used)) fun raw => .ofExcept _
  unfold attempts
  cases config.timeouts.keysignRetry? with
  | none => exact .overflow
  | some policy =>
      refine .bind (.attempt (.retries policy (label m) tries)) fun result => ?_
      cases result with
      | ok response => exact .bind (.record _) fun _ => .done _
      | error e => exact .bind (.record _) fun _ => .fail _

theorem verify_twin (vault : Vault) (m : KeysignMessage) (response : KeysignResponse) :
    Run.Twin view (site.relay.AgreeWithin scopes relay') (verify site request vault m response)
      (verify (site.over relay') request vault m response) := by
  have key : Run.Twin view (site.relay.AgreeWithin scopes relay')
      (checkingKey site request vault m.family)
      (checkingKey (site.over relay') request vault m.family) := by
    cases m.family with
    | eddsa => exact .done _
    | ecdsa =>
        unfold checkingKey
        dsimp only
        split
        · exact .done _
        · exact .bind (.ofExcept _) fun share => .bind (.queryEngine _ _) fun _ => .done _
  have checks : Run.Twin view (site.relay.AgreeWithin scopes relay')
      (check site request vault m response) (check (site.over relay') request vault m response) :=
    .bind (.ofExcept _) fun message => .bind key fun key => .ofExcept _
  refine .bind (.attempt checks) fun result => ?_
  cases result with
  | ok _ => exact .done _
  | error e => exact .record _

theorem signAll_twin (vault : Vault) (committee : List String) {messages : List KeysignMessage}
    (among : messages ⊆ request.messages) (results : KeysignResults) :
    Run.Twin view (site.relay.AgreeWithin (Scopes request) relay')
      (signAll site config request vault committee messages results)
      (signAll (site.over relay') config request vault committee messages results) := by
  induction messages generalizing results with
  | nil => exact .done _
  | cons m rest ih =>
      obtain ⟨mem, among⟩ := List.cons_subset.1 among
      have used (name : String) (named : m.scope = .ok name) : Scopes request (some name) :=
        ⟨m, mem, name, named, rfl⟩
      refine .bind (attempts_twin config request vault committee used) fun response => ?_
      exact .bind (verify_twin request vault m response) fun _ => ih among _

theorem openVault_twin {R : ρ → ρ' → Prop} : Run.Twin view R (openVault site config request)
    (openVault (site.over relay') config request) := by
  refine .bind (.ofExcept _) fun _ => .bind (.askStorage _) fun content => ?_
  refine .bind (.ofExcept _) fun vault => ?_
  split
  · exact .fail _
  · exact .done _

theorem gather_twin (vault : Vault) : Run.Twin view (site.relay.AgreeWithin scopes relay')
    (gather site config request vault) (gather (site.over relay') config request vault) :=
  .bind (.askRelay_within nofun) fun _ => .bind (.askRelay_within nofun) fun _ =>
    .bind (.ofExcept _) fun _ => .done _

/-- Messages are signed in the same way over relays that agree on their scopes. -/
theorem signMessages_twin : Run.Twin view (site.relay.AgreeWithin (Scopes request) relay')
    (signMessages site config request) (signMessages (site.over relay') config request) := by
  refine .bind (.ofExcept _) fun _ => ?_
  refine .bind (openVault_twin config request) fun vault => ?_
  refine .bind (gather_twin config request vault) fun committee => ?_
  refine .bind (signAll_twin config request vault committee (List.Subset.refl _) _) fun results => ?_
  exact .bind (.attempt (.askRelay_within nofun)) fun _ => .done _

/-- No two messages of the request have the same hash without having the same bytes. -/
def NoCollision (request : KeysignRequest) : Prop :=
  ∀ m ∈ request.messages, ∀ m' ∈ request.messages, ∀ body body', m.bytes = .ok body →
    m'.bytes = .ok body' → Blake3.hash body = Blake3.hash body' → body = body'

/-- If hashes do not collide, the messages of a valid request have scopes of their own. -/
theorem eq_of_scope_eq {request : KeysignRequest} (valid : request.check = .ok ())
    (apart : NoCollision request) {m m' : KeysignMessage} (mem : m ∈ request.messages)
    (mem' : m' ∈ request.messages) {name : String} (named : m.scope = .ok name)
    (named' : m'.scope = .ok name) : m = m' := by
  obtain ⟨body, opened, rfl⟩ := KeysignMessage.exists_bytes_of_scope named
  obtain ⟨body', opened', same⟩ := KeysignMessage.exists_bytes_of_scope named'
  have hashes : Blake3.hash body = Blake3.hash body' := Hex.encode_inj same
  have bodies := apart m mem m' mem' body body' opened opened' hashes
  refine KeysignRequest.eq_of_bytes_eq valid mem mem' ?_
  rw [opened, opened', bodies]

/-- The rounds of a request to sign are kept apart from each other and from everything else. -/
structure Isolated (site : Site ε ρ σ) (relay' : Relay ρ') (config : EngineConfig)
    (request : KeysignRequest) : Prop where
  /-- What is done in a round is done in an attempt at a message: for the session, in the scope of the
  message's bytes, as the member of the vault, and with what was served for these in the attempt. -/
  addressed : (signMessages site config request).Logs fun _ log =>
    ∀ before e after, log = before ++ e :: after → e.OfRound →
      ∃ vault committee m body since, Loaded config request vault before ∧
        m ∈ request.messages ∧ m.bytes = .ok body ∧ Underway (label m) since before ∧
          (round config request vault committee (KeysignMessage.scopeOf body)).OwnsAt since e
  /-- Signing is the same over relays that agree on all but the scopes of other messages. -/
  same : ∀ limit w s, site.relay.AgreeWithin (Scopes request) relay' w.relay s →
    SameOver (signMessages site config request) (signMessages (site.over relay') config request)
      limit w s
  /-- Signing one message of the request is the same over relays that agree on all but the scope of
  another one, if hashes do not collide. -/
  apart : request.check = .ok () → NoCollision request →
    ∀ m ∈ request.messages, ∀ other ∈ request.messages, other ≠ m →
      ∀ vault committee limit w s,
        site.relay.AgreeWithin (fun scope => ∀ name, other.scope = .ok name → scope ≠ some name) relay'
          w.relay s →
        SameOver (attempts site config request vault committee m)
          (attempts (site.over relay') config request vault committee m) limit w s

theorem isolated (site : Site ε ρ σ) (relay' : Relay ρ') : Isolated site relay' config request where
  addressed := by
    refine (signMessages_comes site config request).mono ?_
    intro e log comes before ev after split ofRound
    obtain ⟨vault, committee, loaded, -, plays⟩ := comes.working split ofRound.stage
    obtain ⟨_, since, underway, m, mem, rfl, scope, named, owns⟩ := plays ofRound
    obtain ⟨body, opened, rfl⟩ := KeysignMessage.exists_bytes_of_scope named
    exact ⟨vault, committee, m, body, since, loaded, mem, opened, underway, owns⟩
  same limit _ _ agree := (signMessages_twin config request).sameOver limit agree
  apart valid unmatched m mem other mem' different vault committee limit _ _ agree := by
    refine (attempts_twin config request vault committee ?_).sameOver limit agree
    rintro name named _ named' ⟨⟩
    exact different (eq_of_scope_eq valid unmatched mem' mem named' named)

end Keysign

namespace Prompt

/-- The answers of the rehearsal as a script for mailboxes. -/
def mailboxes (p : Prompt) : MailboxScript where
  register := []
  upload := []
  download := []
  delete := []
  complete := none
  completed := .ok true
  start := ⟨0, .ok [p.party, p.other]⟩
  setups := [("", [⟨0, .ok p.body⟩]), ("eddsa", [⟨0, .ok p.body⟩])]
  inbox := [("", [⟨0, p.other, "", p.body⟩]), ("eddsa", [⟨0, p.other, "", p.body⟩])]
  latency := 0
  sticky := false

/-- The script with a message of another round. -/
def crowded (p : Prompt) : MailboxScript :=
  { p.mailboxes with inbox := ("other", [⟨0, p.other, "", p.body⟩]) :: p.mailboxes.inbox }

end Prompt

/-- Both ceremonies keep their rounds to themselves. -/
theorem ceremonies_isolated (site : Site ε ρ σ) (relay' : Relay ρ') (config : EngineConfig) :
    (∀ request, Keysign.Isolated site relay' config request) ∧
      ∀ request, Keygen.Isolated site relay' config request :=
  ⟨fun request => Keysign.isolated config request site relay',
    fun request => Keygen.isolated config request site relay'⟩

/-- A vault is created in the same way if the relay holds a message of another round too. -/
theorem ceremonies_isolated_crowded :
    let site := Prompt.treasury.site.over Prompt.treasury.mailboxes.relay
    let start := Prompt.treasuryStart.over MailboxProgress.start
    SameOver (Keygen.createVault site (.make "" "") Prompt.treasuryRequest)
      (Keygen.createVault (site.over Prompt.treasury.crowded.relay) (.make "" "")
        Prompt.treasuryRequest) none start start.relay := by
  intro site start
  have agree : site.relay.AgreeWithin Keygen.Scopes Prompt.treasury.crowded.relay start.relay
      start.relay := by
    refine MailboxScript.agree (fun _ _ => rfl) ?_ start.relay
    rintro _ ⟨family, rfl⟩
    cases family <;> rfl
  exact ((ceremonies_isolated site Prompt.treasury.crowded.relay (.make "" "")).2
    Prompt.treasuryRequest).same none start start.relay agree

end QuorumVault
