/-
Rounds in which nothing comes.

A round that is followed long enough ends in time, whatever limit leaves it that.  If
the engine works and the relay answers, but has no messages of the others, it ends
because its time is up and for no other reason.
-/
import QuorumVault.Proofs.Cipher.Sealing
import QuorumVault.Proofs.Round.Punctual

namespace QuorumVault

/-- The engine fails, or the relay does when it is asked for messages. -/
def Event.fails : Event → Bool
  | .engine _ _ (.error _) => true
  | .answered (.setup ..) (.error _) => true
  | .answered (.download ..) (.error _) => true
  | _ => false

namespace Round

variable {ε ρ σ : Type} {site : Site ε ρ σ} {r : Round} {session : Session} {deadline now : Time}
  {w w' : World ε ρ σ} {p : Pumps} {log log' : List Event} {H : List Event → Prop}
  {Q : Except Error Bytes → Prop}

/-- The engine gives so few messages that a round with so many turns is followed to its end. -/
def Followed (site : Site ε ρ σ) (turns : Nat) (log : List Event) : Prop :=
  (emitted log).length + turns < site.patience

theorem followed_hereditary (site : Site ε ρ σ) (turns : Nat) : Hereditary (Followed site turns) := by
  intro log log' h
  unfold Followed at *
  rw [emitted_append, List.length_append] at h
  constructor <;> omega

/-- Nobody fails and setup messages can be opened, but no message comes that is not the member's
own. -/
structure Silence (party keyText : String) (log : List Event) : Prop where
  works : ∀ e ∈ log, e.fails = false
  fetched : ∀ m ∈ fetched log, m.sender = party
  opens : ∀ session scope wait body, .answered (.setup session scope wait) (.ok body) ∈ log →
    ∃ setup, Sealing.decode keyText body = .ok setup

theorem silence_hereditary (party keyText : String) : Hereditary (Silence party keyText) := by
  intro log log' h
  have fetched := h.fetched
  rw [fetched_append] at fetched
  constructor
  · exact ⟨fun e mem => h.works e (List.mem_append_left _ mem),
      fun m mem => fetched m (List.mem_append_left _ mem),
      fun session scope wait body mem => h.opens session scope wait body (List.mem_append_left _ mem)⟩
  · exact ⟨fun e mem => h.works e (List.mem_append_right _ mem),
      fun m mem => fetched m (List.mem_append_right _ mem),
      fun session scope wait body mem => h.opens session scope wait body (List.mem_append_right _ mem)⟩

/-- Logs of a kind are silent. -/
def Silent (H : List Event → Prop) (party keyText : String) : Prop :=
  ∀ log, H log → Silence party keyText log

theorem firstsFrom_eq_nil {party : String} {messages : List Envelope}
    (own : ∀ m ∈ messages, m.sender = party) (before : List Envelope) :
    firstsFrom party before messages = [] := by
  induction messages generalizing before with
  | nil => rfl
  | cons m rest ih =>
      rw [firstsFrom_cons_of_old (.inl (own m List.mem_cons_self))]
      exact ih (fun m mem => own m (List.mem_cons_of_mem _ mem)) _

theorem Silence.not_outboundFails {party : String} (silence : Silence party r.hexEncryptionKey log)
    (keyed : ∃ key, Sealing.Key.ofText r.hexEncryptionKey = .ok key) (e : Error) :
    ¬OutboundFails site r session log e := by
  intro fails
  cases fails with
  | output failed => cases silence.works _ failed
  | receiver failed => cases silence.works _ failed
  | unsealable given sealed =>
      obtain ⟨key, keyed⟩ := keyed
      unfold Sealing.encode at sealed
      rw [keyed] at sealed
      cases sealed

/-- In a silence the receiver waits until its time is up. -/
theorem Standing.result_of_silence (h : Standing site r session deadline now p log)
    (silence : Silence r.party r.hexEncryptionKey log)
    (keyed : ∃ key, Sealing.Key.ofText r.hexEncryptionKey = .ok key)
    {result : Except Error Bytes} (left : p.receiver = .left result) : result = .error r.overdue := by
  obtain ⟨seen, pending, handed, inbound, -, halted⟩ := h.2.halted
  have own : ∀ m ∈ seen ++ pending, m.sender = r.party := inbound.fetched ▸ silence.fetched
  -- nothing of the others was fetched, so nothing was handed over that could end the round
  have nothing : firsts r.party seen = [] :=
    firstsFrom_eq_nil (fun m mem => own m (List.mem_append_left _ mem)) _
  have none : firstsFrom r.party seen pending = [] :=
    firstsFrom_eq_nil (fun m mem => own m (List.mem_append_right _ mem)) _
  obtain rfl : handed = [] := List.map_eq_nil_iff.1 (inbound.firsts.symm.trans nothing)
  have unhanded {answer : Except Error Bool} : ¬EndsWith answer [] := by
    rintro ⟨before, last, split, -⟩
    simp at split
  have halt := halted result left
  rw [none] at halt
  cases halt with
  | unreadable next => cases next
  | refused last => exact absurd last unhanded
  | finished last => exact absurd last unhanded
  | finishedTwice last => exact absurd last unhanded
  | overdue => rfl
  | unfetched none failed => cases silence.works _ failed
  | aborted none fails => exact absurd fails (silence.not_outboundFails keyed _)

/-- So a round in which there is silence has taken too long. -/
theorem Standing.overdue_of_silence (h : Standing site r session deadline now p log)
    (silence : Silence r.party r.hexEncryptionKey log)
    (keyed : ∃ key, Sealing.Key.ofText r.hexEncryptionKey = .ok key)
    {result : Except Error Bytes} (known : p.result? = some result) :
    result = .error r.overdue := by
  unfold Pumps.result? at known
  split at known
  · next failed _ => exact absurd (h.1.outbound _ failed) (silence.not_outboundFails keyed _)
  · next left =>
      cases known
      exact h.result_of_silence silence keyed left
  · cases known

/-- A round ends in time, and if there is silence in it, takes too long. -/
theorem run_endsIn (swift : Swift site) (pauses : r.pollInterval ≠ 0)
    (followed : ∀ log, H log → Followed site r.turns log) :
    (r.run site session).EndsIn H r.longest fun result => Silent H r.party r.hexEncryptionKey →
      (∃ key, Sealing.Key.ofText r.hexEncryptionKey = .ok key) → result = .error r.overdue := by
  intro w
  obtain ⟨log, _, path, -⟩ := run_path site r session none w
  have since := since_of_path path
  refine ⟨log, since, fun kind => ?_⟩
  obtain ⟨last, p, result, intime, path, known, ending, same⟩ :=
    run_inTime swift pauses since (followed log kind)
  refine ⟨result, _, fun silent keyed => ?_, ?_, fun limit left =>
    (same limit (allows_of_leaves left)).trans (Prod.ext ending rfl)⟩
  · exact (standing_of_path path).overdue_of_silence (silent log kind) keyed known
  · calc (r.run site session none w).2.now
        ≤ last + r.pollInterval.pause + r.outboundGrace.pause := (intime.gone_soon known).1
      _ ≤ w.now + r.deadline + r.pollInterval.pause + r.outboundGrace.pause :=
        Nat.add_le_add_right (Nat.add_le_add_right intime.early _) _
      _ = w.now + r.longest := by rw [longest, Nat.add_assoc, Nat.add_assoc, Nat.add_assoc]

/-! ### The setup message -/

/-- The relay answers about a setup message in the time it is given. -/
def Prepares (site : Site ε ρ σ) : Prop :=
  ∀ s now session scope wait, ∃ took,
    (site.relay.ask s now (.setup session scope wait)).1 = some took ∧ took ≤ wait

/-- In a silence the setup message comes and can be opened, so there is a session key. -/
theorem fetchSetup_endsIn (prepares : Prepares site) (hereditary : Hereditary H) (r : Round) :
    (r.fetchSetup site).EndsIn H r.setupTimeout fun result => Silent H r.party r.hexEncryptionKey →
      (∃ setup, result = .ok setup) ∧ ∃ key, Sealing.Key.ofText r.hexEncryptionKey = .ok key := by
  have asked : (Run.askRelay site (.setup r.sessionId r.scope r.setupTimeout)).EndsIn H r.setupTimeout
      fun answer => H [.asked (.setup r.sessionId r.scope r.setupTimeout),
        .answered (.setup r.sessionId r.scope r.setupTimeout) answer] :=
    .askRelay fun s now => prepares s now _ _ _
  refine asked.before hereditary (fun body => ?_) fun e kind silent => ?_
  · refine (Run.EndsIn.ofExcept _).mono (Nat.le_refl 0) fun result known kind silent => ?_
    obtain ⟨setup, opened⟩ := (silent _ kind).opens r.sessionId r.scope r.setupTimeout body (by simp)
    rw [known, opened]
    exact ⟨⟨setup, rfl⟩, Sealing.exists_key_of_decode opened⟩
  · have fails := (silent _ kind).works _ (List.mem_cons_of_mem _ (List.mem_singleton_self _))
    cases fails

theorem session_endsIn (swift : Swift site) (prepares : Prepares site) (pauses : r.pollInterval ≠ 0)
    (hereditary : Hereditary H) (followed : ∀ log, H log → Followed site r.turns log)
    (family : Family) (opening : Bytes → Session.Opening) :
    (r.fetchSetup site >>= fun setup =>
      Session.withSession site family (opening setup) (r.run site)).EndsIn H
        (r.setupTimeout + r.longest) fun result => Silent H r.party r.hexEncryptionKey →
          result = .error r.overdue := by
  refine (fetchSetup_endsIn prepares hereditary r).bind hereditary (fun setup => ?_) ?_
  · refine .withSession hereditary (fun s => (run_endsIn swift pauses followed).mono (Nat.le_refl _)
      fun result known fetched silent => known silent (fetched silent).2) fun e refused _ silent => ?_
    have works := (silent _ refused).works _ (List.mem_singleton_self _)
    cases opened : opening setup <;> rw [opened] at works <;> cases works
  · intro e fetched silent
    obtain ⟨⟨setup, opened⟩, -⟩ := fetched silent
    cases opened

end Round

end QuorumVault
