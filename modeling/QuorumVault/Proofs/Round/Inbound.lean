/-
What the receiver hands to the engine.

The messages that a round hands to its engine are the first ones of those that count
among all it has fetched.  The invariant splits what was fetched into the part that was
seen and the part that is still at hand.  Of the part that was seen, exactly the
messages that count were handed over, and their hashes are what the receiver remembers;
so a message is passed over exactly if it does not count.  What is at hand is told by
what the receiver is doing.

When the receiver leaves, it leaves for a reason, and `Halt` lists the reasons there
are.
-/
import QuorumVault.Proofs.Round.Messages
import QuorumVault.Proofs.Round.Steps

namespace QuorumVault.Round

variable {ε ρ σ : Type}

/-- The sender has failed: the engine failed when it was asked for a message or a recipient, or a
message could not be sealed. -/
inductive OutboundFails (site : Site ε ρ σ) (r : Round) (session : Session) (log : List Event) :
    Error → Prop
  | output {e} (h : .engine session.family (.output session.handle) (.error e) ∈ log) :
      OutboundFails site r session log e
  | receiver {e message place}
      (h : .engine session.family (.receiver session.handle message place) (.error e) ∈ log) :
      OutboundFails site r session log e
  | unsealable {message n fault}
      (h : .engine session.family (.output session.handle) (.ok (some message)) ∈ log)
      (sealed : Sealing.encode r.hexEncryptionKey (site.nonce n) message = .error fault) :
      OutboundFails site r session log fault.error

/-- The messages that were handed over end with one that was answered like this, and the engine
wanted more after those before it. -/
def EndsWith (answer : Except Error Bool) (handed : List Handed) : Prop :=
  ∃ before last, handed = before ++ [last] ∧ (∀ a ∈ before, a.answer = .ok false) ∧
    last.answer = answer

/-- Why the receiver stops handing over messages, of which some may be left, and with which
result. -/
inductive Halt (site : Site ε ρ σ) (r : Round) (session : Session) (deadline now : Time)
    (log : List Event) (handed : List Handed) (rest : List Envelope) : Except Error Bytes → Prop
  | unreadable {m after fault} (next : rest = m :: after)
      (opened : Sealing.decode r.hexEncryptionKey m.body = .error fault) :
      Halt site r session deadline now log handed rest (.error fault.error)
  | refused {e} (last : EndsWith (.error e) handed) :
      Halt site r session deadline now log handed rest (.error e)
  | finished {result} (last : EndsWith (.ok true) handed)
      (demanded : .engine session.family (.finish session.handle) result ∈ log) :
      Halt site r session deadline now log handed rest result
  | finishedTwice (last : EndsWith (.ok true) handed) (again : session.finished = true) :
      Halt site r session deadline now log handed rest (.error session.finishedTwice)
  | overdue (due : deadline ≤ now) :
      Halt site r session deadline now log handed rest (.error r.overdue)
  | unfetched {e} (none : rest = [])
      (failed : .answered (downloadCall r) (.error e) ∈ log) :
      Halt site r session deadline now log handed rest (.error e)
  | aborted {e} (none : rest = []) (failed : OutboundFails site r session log e) :
      Halt site r session deadline now log handed rest (.error aborted)

variable {site : Site ε ρ σ} {r : Round} {session : Session} {deadline now now' : Time}
  {log log' : List Event} {handed : List Handed} {seen pending rest : List Envelope}

theorem OutboundFails.mono {e : Error} (h : OutboundFails site r session log e)
    (le : log ⊆ log') : OutboundFails site r session log' e := by
  cases h with
  | output h => exact .output (le h)
  | receiver h => exact .receiver (le h)
  | unsealable h sealed => exact .unsealable (le h) sealed

/-- A reason stays one when time passes and other things happen. -/
theorem Halt.mono {result : Except Error Bytes}
    (h : Halt site r session deadline now log handed rest result) (later : now ≤ now')
    (le : log ⊆ log') : Halt site r session deadline now' log' handed rest result := by
  cases h with
  | unreadable next opened => exact .unreadable next opened
  | refused last => exact .refused last
  | finished last demanded => exact .finished last (le demanded)
  | finishedTwice last again => exact .finishedTwice last again
  | overdue due => exact .overdue (Nat.le_trans due later)
  | unfetched none failed => exact .unfetched none (le failed)
  | aborted none failed => exact .aborted none (failed.mono le)

/-! ### The invariant -/

/-- Of what was fetched, the messages that count were handed over as far as they were seen. -/
structure Inbound (r : Round) (session : Session) (seen pending : List Envelope)
    (handed : List Handed) (log : List Event) : Prop where
  fetched : fetched log = seen ++ pending
  firsts : firsts r.party seen = handed.map (·.envelope)
  opened : ∀ a ∈ handed, Sealing.decode r.hexEncryptionKey a.envelope.body = .ok a.message
  handlings : handlings log = handed.flatMap (·.handlings r session)

/-- The receiver remembers the messages that were handed over. -/
def Remembers (r : Round) (applied : Applied) (handed : List Handed) : Prop :=
  ∀ hash, applied.contains (Applied.key r.sessionId r.party r.scope hash) = true ↔
    ∃ a ∈ handed, a.envelope.hash = hash

/-- The receiver goes on with what is at hand. -/
structure Going (r : Round) (session : Session) (applied : Applied) (seen pending : List Envelope)
    (handed : List Handed) (log : List Event) : Prop
    extends Inbound r session seen pending handed log where
  unfinished : ∀ a ∈ handed, a.answer = .ok false
  remembers : Remembers r applied handed

/-- The receiver has had a message applied. -/
structure Cleared (r : Round) (session : Session) (finished : Bool) (applied : Applied)
    (seen pending : List Envelope) (handed : List Handed) (log : List Event) : Prop
    extends Inbound r session seen pending handed log where
  last : EndsWith (.ok finished) handed
  remembers : Remembers r applied handed

/-- The receiver has left. -/
structure Gone (site : Site ε ρ σ) (r : Round) (session : Session) (deadline now : Time)
    (log : List Event) (result : Except Error Bytes) (seen pending : List Envelope)
    (handed : List Handed) : Prop extends Inbound r session seen pending handed log where
  unfinished : ∀ a ∈ handed.dropLast, a.answer = .ok false
  halt : Halt site r session deadline now log handed (firstsFrom r.party seen pending) result

/-- What the receiver is doing tells what is at hand. -/
def Receiver.Stands (site : Site ε ρ σ) (r : Round) (session : Session) (deadline now : Time)
    (applied : Applied) (log : List Event) : Receiver → Prop
  | .starting | .asking | .pausing _ | .downloading .. =>
    ∃ seen handed, Going r session applied seen [] handed log
  | .deleting finished rest _ _ _ =>
    ∃ seen handed, Cleared r session finished applied seen rest handed log
  | .left result =>
    ∃ seen pending handed, Gone site r session deadline now log result seen pending handed

/-- So does where it stands in its turn. -/
def Receiving.Stands (site : Site ε ρ σ) (r : Round) (session : Session) (deadline now : Time)
    (p : Pumps) (log : List Event) : Receiving → Prop
  | .idle => p.receiver.Stands site r session deadline now p.applied log
  | .fetching _ => ∃ seen handed, Going r session p.applied seen [] handed log
  | .applying batch => ∃ seen handed, Going r session p.applied seen batch handed log
  | .clearing finished rest _ _ =>
    ∃ seen handed, Cleared r session finished p.applied seen rest handed log
  | .finishing => ∃ seen pending handed, Cleared r session true p.applied seen pending handed log

/-- The receiver has not left. -/
def Receiving.active (p : Pumps) : Receiving → Bool
  | .idle => !p.receiverLeft
  | .fetching _ | .applying _ | .clearing .. | .finishing => true

/-- What sender and receiver have in common: the session of the round, and the reason if the sender
has failed. -/
structure Shared (site : Site ε ρ σ) (r : Round) (session : Session) (active : Bool) (p : Pumps)
    (log : List Event) : Prop where
  family_eq : p.session.family = session.family
  handle_eq : p.session.handle = session.handle
  finished_eq : active = true → p.session.finished = session.finished
  outbound : ∀ e, p.sender = .left (.error e) → OutboundFails site r session log e
  /-- As long as the receiver is there, the signal is only raised by a sender that fails. -/
  signal : active = true → p.signal = .failed → ∃ e, OutboundFails site r session log e

/-! ### Steps of the invariant -/

/-- Events that bring no messages and do nothing about them. -/
def Quiet (log : List Event) : Prop :=
  fetched log = [] ∧ handlings log = []

theorem Inbound.quiet (h : Inbound r session seen pending handed log) (quiet : Quiet log') :
    Inbound r session seen pending handed (log ++ log') where
  fetched := by rw [fetched_append, quiet.1, List.append_nil, h.fetched]
  firsts := h.firsts
  opened := h.opened
  handlings := by rw [handlings_append, quiet.2, List.append_nil, h.handlings]

theorem Going.quiet {applied : Applied} (h : Going r session applied seen pending handed log)
    (quiet : Quiet log') : Going r session applied seen pending handed (log ++ log') where
  toInbound := h.toInbound.quiet quiet
  unfinished := h.unfinished
  remembers := h.remembers

theorem Cleared.quiet {applied : Applied} {finished : Bool}
    (h : Cleared r session finished applied seen pending handed log) (quiet : Quiet log') :
    Cleared r session finished applied seen pending handed (log ++ log') where
  toInbound := h.toInbound.quiet quiet
  last := h.last
  remembers := h.remembers

/-- What the receiver is doing is not changed by time and by what the sender does. -/
theorem Receiver.Stands.quiet {receiver : Receiver} {applied : Applied}
    (h : receiver.Stands site r session deadline now applied log) (later : now ≤ now')
    (quiet : Quiet log') :
    receiver.Stands site r session deadline now' applied (log ++ log') := by
  cases receiver with
  | starting | asking | pausing | downloading =>
      obtain ⟨seen, handed, going⟩ := h
      exact ⟨seen, handed, going.quiet quiet⟩
  | deleting =>
      obtain ⟨seen, handed, cleared⟩ := h
      exact ⟨seen, handed, cleared.quiet quiet⟩
  | left result =>
      obtain ⟨seen, pending, handed, gone⟩ := h
      exact ⟨seen, pending, handed, gone.toInbound.quiet quiet, gone.unfinished,
        gone.halt.mono later (List.subset_append_left _ _)⟩

theorem EndsWith.unfinished {answer : Except Error Bool} (h : EndsWith answer handed) :
    ∀ a ∈ handed.dropLast, a.answer = .ok false := by
  obtain ⟨before, last, rfl, wanting, -⟩ := h
  rwa [List.dropLast_concat]

theorem Going.fetches {applied : Applied} {batch : List Envelope}
    (h : Going r session applied seen [] handed log) (brings : fetched log' = batch)
    (nothing : handlings log' = []) :
    Going r session applied seen batch handed (log ++ log') where
  fetched := by rw [fetched_append, brings, h.fetched, List.append_nil]
  firsts := h.firsts
  opened := h.opened
  handlings := by rw [handlings_append, nothing, List.append_nil, h.handlings]
  unfinished := h.unfinished
  remembers := h.remembers

/-- A message is passed over if it does not count. -/
theorem Going.old_iff {p : Pumps} {m : Envelope}
    (h : Going r session p.applied seen pending handed log) :
    p.Passes r m ↔ m.sender = r.party ∨ ∃ m' ∈ firsts r.party seen, m'.hash = m.hash := by
  rw [Pumps.Passes, Pumps.keyOf, h.remembers, h.firsts]
  constructor
  · rintro (own | ⟨a, ha, same⟩)
    · exact .inl own
    · exact .inr ⟨a.envelope, List.mem_map_of_mem ha, same⟩
  · rintro (own | ⟨m', hm, same⟩)
    · exact .inl own
    · obtain ⟨a, ha, rfl⟩ := List.mem_map.1 hm
      exact .inr ⟨a, ha, same⟩

theorem Going.passesOver {p : Pumps} {m : Envelope}
    (h : Going r session p.applied seen (m :: rest) handed log) (passes : p.Passes r m) :
    Going r session p.applied (seen ++ [m]) rest handed log where
  fetched := by rw [h.fetched, List.append_assoc, List.singleton_append]
  firsts := by
    rw [firsts_append, firstsFrom_cons_of_old (h.old_iff.1 passes), firstsFrom, List.append_nil]
    exact h.firsts
  opened := h.opened
  handlings := h.handlings
  unfinished := h.unfinished
  remembers := h.remembers

theorem Going.next {p : Pumps} {m : Envelope}
    (h : Going r session p.applied seen (m :: rest) handed log) (new : ¬p.Passes r m)
    (after : List Envelope) :
    firstsFrom r.party seen (m :: after) = m :: firstsFrom r.party (seen ++ [m]) after := by
  rw [h.old_iff, not_or] at new
  exact firstsFrom_cons_of_new new.1 new.2

theorem Going.hands {p : Pumps} {m : Envelope} {message : Bytes} {answer : Except Error Bool}
    (h : Going r session p.applied seen (m :: rest) handed log) (new : ¬p.Passes r m)
    (opened : Sealing.decode r.hexEncryptionKey m.body = .ok message)
    (nothing : fetched log' = [])
    (handles : handlings log' = Handed.handlings r session ⟨m, message, answer⟩) :
    Inbound r session (seen ++ [m]) rest (handed ++ [⟨m, message, answer⟩]) (log ++ log') where
  fetched := by rw [fetched_append, nothing, h.fetched]; simp
  firsts := by
    rw [firsts_append, h.next new, firstsFrom, h.firsts, List.map_append]
    rfl
  opened := by
    intro a ha
    rcases List.mem_append.1 ha with ha | ha
    · exact h.opened a ha
    · obtain rfl := List.mem_singleton.1 ha
      exact opened
  handlings := by
    rw [handlings_append, handles, h.handlings, List.flatMap_append]
    simp

theorem Going.endsWith {applied : Applied} {a : Handed}
    (h : Going r session applied seen pending handed log) :
    EndsWith a.answer (handed ++ [a]) :=
  ⟨handed, a, rfl, h.unfinished, rfl⟩

theorem Remembers.insert {applied : Applied} (h : Remembers r applied handed) (a : Handed) :
    Remembers r
      (applied.insert (Applied.key r.sessionId r.party r.scope a.envelope.hash)) (handed ++ [a]) := by
  intro hash
  rw [Applied.contains_insert, Bool.or_eq_true, beq_iff_eq, Applied.key_inj, h]
  constructor
  · rintro (rfl | ⟨a', ha, rfl⟩)
    · exact ⟨a, by simp, rfl⟩
    · exact ⟨a', List.mem_append_left _ ha, rfl⟩
  · rintro ⟨a', ha, rfl⟩
    rcases List.mem_append.1 ha with ha | ha
    · exact .inr ⟨a', ha, rfl⟩
    · exact .inl (by rw [List.mem_singleton.1 ha])

theorem Cleared.going {applied : Applied}
    (h : Cleared r session false applied seen pending handed log) :
    Going r session applied seen pending handed log where
  toInbound := h.toInbound
  unfinished := by
    obtain ⟨before, last, rfl, wanting, answer⟩ := h.last
    intro a ha
    rcases List.mem_append.1 ha with ha | ha
    · exact wanting a ha
    · rw [List.mem_singleton.1 ha, answer]
  remembers := h.remembers

theorem Receiver.Stands.inbound {p : Pumps}
    (h : p.receiver.Stands site r session deadline now p.applied log)
    (waiting : p.receiverLeft = false) :
    ∃ seen pending handed, Inbound r session seen pending handed log ∧
      ∀ a ∈ handed.dropLast, a.answer = .ok false := by
  unfold Pumps.receiverLeft at waiting
  cases hr : p.receiver with
  | starting | asking | pausing | downloading =>
      rw [hr] at h
      obtain ⟨seen, handed, going⟩ := h
      exact ⟨seen, [], handed, going.toInbound, fun a ha =>
        going.unfinished a (List.dropLast_subset _ ha)⟩
  | deleting =>
      rw [hr] at h
      obtain ⟨seen, handed, cleared⟩ := h
      exact ⟨seen, _, handed, cleared.toInbound, cleared.last.unfinished⟩
  | left => simp [hr] at waiting

/-- A receiver that is about to look for messages has none at hand. -/
theorem Receiver.Stands.going {p : Pumps}
    (h : p.receiver.Stands site r session deadline now p.applied log) (asks : p.asksBatch = true) :
    p.receiverLeft = false ∧ ∃ seen handed, Going r session p.applied seen [] handed log := by
  unfold Pumps.asksBatch at asks
  unfold Pumps.receiverLeft
  cases hr : p.receiver with
  | starting | asking | pausing =>
      rw [hr] at h
      exact ⟨rfl, h⟩
  | downloading | deleting | left => simp [hr] at asks

/-! ### Moves of the sender -/

/-- The sender neither fetches messages nor does anything about them. -/
theorem SenderMove.quiet {s s' : SenderAt ε ρ σ} (move : SenderMove site r s log s') :
    Quiet log := by
  cases move with
  | outputFails | lingers | quits | pauses | unsealable | seals | delivered | receiverFails | skips
  | uploads | uploadWaits | uploadResumes | uploaded | leaves => exact ⟨rfl, rfl⟩

/-- A sender that has failed had a reason, now or before. -/
theorem SenderMove.outbound {s s' : SenderAt ε ρ σ} {e : Error}
    (move : SenderMove site r s log s') (failed : s'.pumps.sender = .left (.error e)) :
    s.pumps.sender = .left (.error e) ∨
      OutboundFails site r s.pumps.session log e := by
  cases move with
  | outputFails =>
      cases failed
      exact .inr (.output (List.mem_singleton_self _))
  | receiverFails =>
      cases failed
      exact .inr (.receiver (List.mem_singleton_self _))
  | unsealable asks call sealed =>
      cases failed
      exact .inr (.unsealable (List.mem_singleton_self _) sealed)
  | pauses =>
      dsimp only [Pumps.senderPauses] at failed
      split at failed <;> cases failed
  | seals | skips | uploads | uploadResumes | uploaded => exact .inl failed
  | lingers | quits | delivered | uploadWaits | leaves => cases failed

/-- The reason of a sender that fails is one in any session with the same handle. -/
theorem OutboundFails.congr {session' : Session} {e : Error}
    (h : OutboundFails site r session log e) (family : session.family = session'.family)
    (handle : session.handle = session'.handle) : OutboundFails site r session' log e := by
  cases h with
  | output h => exact .output (family ▸ handle ▸ h)
  | receiver h => exact .receiver (family ▸ handle ▸ h)
  | unsealable h sealed => exact .unsealable (family ▸ handle ▸ h) sealed

theorem SenderMove.shared {active : Bool} {s s' : SenderAt ε ρ σ}
    (h : Shared site r session active s.pumps log) (move : SenderMove site r s log' s') :
    Shared site r session active s'.pumps (log ++ log') := by
  obtain ⟨same, -, -, signal⟩ := move.frame
  have outbound (e : Error) (failed : s'.pumps.sender = .left (.error e)) :
      OutboundFails site r session (log ++ log') e := by
    rcases move.outbound failed with failed | fails
    · exact (h.outbound e failed).mono (List.subset_append_left _ _)
    · exact (fails.congr h.family_eq h.handle_eq).mono (List.subset_append_right _ _)
  refine ⟨same ▸ h.family_eq, same ▸ h.handle_eq, same ▸ h.finished_eq, outbound, ?_⟩
  intro there raised
  rcases signal with signal | ⟨-, e, failed⟩
  · obtain ⟨e, fails⟩ := h.signal there (signal ▸ raised)
    exact ⟨e, fails.mono (List.subset_append_left _ _)⟩
  · exact ⟨e, outbound e failed⟩

/-! ### Moves of the receiver -/

theorem Pumps.receiverLeft_of_asksBatch {p : Pumps} (asks : p.asksBatch = true) :
    p.receiverLeft = false := by
  unfold Pumps.asksBatch at asks
  unfold Pumps.receiverLeft
  cases hr : p.receiver <;> simp_all

/-- A receiver that is there after a move was there before, and has not demanded the result nor
raised the signal. -/
theorem ReceiverMove.active {s s' : ReceiverAt ε ρ σ}
    (move : ReceiverMove site r deadline s log s') (there : s'.doing.active s'.pumps = true) :
    s.doing.active s.pumps = true ∧ s'.pumps.session.finished = s.pumps.session.finished ∧
      (s'.pumps.signal = .failed → s.pumps.signal = .failed) := by
  cases move with
  | begins =>
      refine ⟨there, rfl, fun raised => ?_⟩
      dsimp only [RoundState.set] at raised
      split at raised
      · exact raised
      · cases raised
  | asks asks =>
      exact ⟨by simp [Receiving.active, Pumps.receiverLeft_of_asksBatch asks], rfl, id⟩
  | fetchResumes h | clearResumes h =>
      exact ⟨by simp [Receiving.active, Pumps.receiverLeft, h], rfl, id⟩
  | pauses =>
      unfold Pumps.receiverPauses
      split <;> exact ⟨rfl, rfl, id⟩
  | fetchWaits | fetched | passesOver | applies | clearWaits | goesOn | hasAll =>
      exact ⟨rfl, rfl, id⟩
  | aborts | fetchFails | unreadable | refused | finishedTwice | finishes | timesOut => cases there

theorem ReceiverMove.shared {s s' : ReceiverAt ε ρ σ}
    (h : Shared site r session (s.doing.active s.pumps) s.pumps log)
    (move : ReceiverMove site r deadline s log' s') :
    Shared site r session (s'.doing.active s'.pumps) s'.pumps (log ++ log') := by
  obtain ⟨sender, -, family, handle⟩ := move.frame
  refine ⟨family.trans h.family_eq, handle.trans h.handle_eq, ?_, ?_, ?_⟩
  · intro there
    obtain ⟨before, finished, -⟩ := move.active there
    exact finished.trans (h.finished_eq before)
  · intro e failed
    rw [sender] at failed
    exact (h.outbound e failed).mono (List.subset_append_left _ _)
  · intro there raised
    obtain ⟨before, -, signal⟩ := move.active there
    obtain ⟨e, fails⟩ := h.signal before (signal raised)
    exact ⟨e, fails.mono (List.subset_append_left _ _)⟩

theorem Going.gone {applied : Applied} {result : Except Error Bytes}
    (h : Going r session applied seen pending handed log) (quiet : Quiet log')
    (halt : Halt site r session deadline now (log ++ log') handed
      (firstsFrom r.party seen pending) result) :
    Gone site r session deadline now (log ++ log') result seen pending handed where
  toInbound := h.toInbound.quiet quiet
  unfinished a ha := h.unfinished a (List.dropLast_subset _ ha)
  halt := halt

theorem quiet_nil : Quiet [] := ⟨rfl, rfl⟩

theorem ReceiverMove.stands {s s' : ReceiverAt ε ρ σ}
    (shared : Shared site r session (s.doing.active s.pumps) s.pumps log)
    (stands : s.doing.Stands site r session deadline s.world.now s.pumps log)
    (move : ReceiverMove site r deadline s log' s') :
    s'.doing.Stands site r session deadline s'.world.now s'.pumps (log ++ log') := by
  have hf := shared.family_eq
  have hh := shared.handle_eq
  cases move with
  | begins => exact Receiver.Stands.quiet stands (Nat.le_refl _) quiet_nil
  | aborts asks signal =>
      obtain ⟨there, seen, handed, going⟩ := Receiver.Stands.going stands asks
      obtain ⟨e, fails⟩ := shared.signal (by simp [Receiving.active, there]) signal
      exact ⟨seen, [], handed, going.gone quiet_nil
        (.aborted rfl (fails.mono (List.subset_append_left _ _)))⟩
  | asks asks =>
      obtain ⟨-, seen, handed, going⟩ := Receiver.Stands.going stands asks
      exact ⟨seen, handed, going.quiet ⟨rfl, rfl⟩⟩
  | fetchWaits =>
      obtain ⟨seen, handed, going⟩ := stands
      exact ⟨seen, handed, going.quiet quiet_nil⟩
  | fetchResumes h =>
      dsimp only [Receiving.Stands] at stands
      rw [h] at stands
      obtain ⟨seen, handed, going⟩ := stands
      exact ⟨seen, handed, going.quiet quiet_nil⟩
  | fetchFails =>
      obtain ⟨seen, handed, going⟩ := stands
      exact ⟨seen, [], handed, going.gone ⟨rfl, rfl⟩ (.unfetched rfl (by simp))⟩
  | fetched =>
      obtain ⟨seen, handed, going⟩ := stands
      exact ⟨seen, handed, going.fetches (List.append_nil _) rfl⟩
  | pauses =>
      obtain ⟨seen, handed, going⟩ := stands
      unfold Pumps.receiverPauses
      split <;> exact ⟨seen, handed, going.quiet quiet_nil⟩
  | passesOver passes =>
      obtain ⟨seen, handed, going⟩ := stands
      exact ⟨_, handed, (going.passesOver passes).quiet quiet_nil⟩
  | unreadable new opened =>
      obtain ⟨seen, handed, going⟩ := stands
      exact ⟨seen, _, handed, going.gone quiet_nil (.unreadable (going.next new _) opened)⟩
  | @refused p _ _ m _ message e new opened =>
      obtain ⟨seen, handed, going⟩ := stands
      have handles : Handed.handlings r session ⟨m, message, .error e⟩ =
          [.input p.session.family p.session.handle message (.error e)] := by
        rw [hf, hh]
        rfl
      exact ⟨_, _, _, going.hands new opened rfl handles.symm, going.endsWith.unfinished,
        .refused going.endsWith⟩
  | @applies p _ _ _ m _ message finished _ _ new opened =>
      obtain ⟨seen, handed, going⟩ := stands
      have handles : Handed.handlings r session ⟨m, message, .ok finished⟩ =
          [.input p.session.family p.session.handle message (.ok finished),
            .delete r.sessionId r.party m.hash r.scope] := by
        rw [hf, hh]
        rfl
      exact ⟨_, _, going.hands new opened rfl handles.symm, going.endsWith,
        going.remembers.insert ⟨m, message, .ok finished⟩⟩
  | clearWaits =>
      obtain ⟨seen, handed, cleared⟩ := stands
      exact ⟨seen, handed, cleared.quiet quiet_nil⟩
  | clearResumes h =>
      dsimp only [Receiving.Stands] at stands
      rw [h] at stands
      obtain ⟨seen, handed, cleared⟩ := stands
      exact ⟨seen, handed, cleared.quiet quiet_nil⟩
  | goesOn =>
      obtain ⟨seen, handed, cleared⟩ := stands
      exact ⟨seen, handed, cleared.going.quiet ⟨rfl, rfl⟩⟩
  | hasAll =>
      obtain ⟨seen, handed, cleared⟩ := stands
      exact ⟨seen, _, handed, cleared.quiet ⟨rfl, rfl⟩⟩
  | @finishedTwice p w again =>
      obtain ⟨seen, pending, handed, cleared⟩ := stands
      have same : p.session.finishedTwice = session.finishedTwice := by
        unfold Session.finishedTwice
        rw [hh]
      refine ⟨seen, pending, handed, cleared.toInbound.quiet quiet_nil, cleared.last.unfinished, ?_⟩
      rw [same]
      exact .finishedTwice cleared.last ((shared.finished_eq rfl).symm.trans again)
  | finishes first =>
      obtain ⟨seen, pending, handed, cleared⟩ := stands
      refine ⟨seen, pending, handed, cleared.toInbound.quiet ⟨rfl, rfl⟩, cleared.last.unfinished, ?_⟩
      refine .finished cleared.last ?_
      rw [← hf, ← hh]
      exact List.mem_append_right _ (List.mem_singleton_self _)
  | timesOut waiting due =>
      obtain ⟨seen, pending, handed, inbound, unfinished⟩ := Receiver.Stands.inbound stands waiting
      exact ⟨seen, pending, handed, inbound.quiet quiet_nil, unfinished, .overdue due⟩

/-! ### Rounds -/

/-- What holds between the turns of the pumps. -/
def Standing (site : Site ε ρ σ) (r : Round) (session : Session) (deadline now : Time) (p : Pumps)
    (log : List Event) : Prop :=
  Shared site r session (!p.receiverLeft) p log ∧
    p.receiver.Stands site r session deadline now p.applied log

/-- Why a round hands over no more messages, given how it ends. -/
def HaltsWith (site : Site ε ρ σ) (r : Round) (session : Session) (deadline now : Time)
    (limit : Option Time) (log : List Event) (handed : List Handed) (rest : List Envelope) :
    Ending Bytes → Prop
  | .done raw => Halt site r session deadline now log handed rest (.ok raw)
  | .failed e => ∃ result, Halt site r session deadline now log handed rest result ∧
      (result = .error e ∨ OutboundFails site r session log e)
  | .cut => limit.isSome = true
  | .endless => True
  | .overflow => False

theorem standing_start (site : Site ε ρ σ) (r : Round) (session : Session) (deadline now : Time) :
    Standing site r session deadline now (r.start session) [] := by
  constructor
  · exact ⟨rfl, rfl, fun _ => rfl, nofun, nofun⟩
  · refine ⟨[], [], ⟨rfl, rfl, nofun, rfl⟩, nofun, fun hash => ?_⟩
    simp [Round.start]

theorem Standing.later {p : Pumps} (h : Standing site r session deadline now p log)
    (later : now ≤ now') : Standing site r session deadline now' p log :=
  ⟨h.1, by simpa using h.2.quiet later quiet_nil⟩

theorem Standing.serve {p : Pumps} (h : Standing site r session deadline now p log)
    (then_ later : Time) (pump : Pump) :
    Standing site r session deadline now (p.serve then_ later pump) log := by
  obtain ⟨shared, stands⟩ := h
  have left : (p.serve then_ later pump).receiverLeft = p.receiverLeft := by
    simp [Pumps.receiverLeft]
  refine ⟨⟨?_, ?_, ?_, ?_, ?_⟩, ?_⟩
  · simpa using shared.family_eq
  · simpa using shared.handle_eq
  · simpa [left] using shared.finished_eq
  · simpa using shared.outbound
  · simpa [left] using shared.signal
  · simpa using stands

theorem SenderMove.standing {s s' : SenderAt ε ρ σ}
    (h : Standing site r session deadline s.world.now s.pumps log)
    (move : SenderMove site r s log' s') :
    Standing site r session deadline s'.world.now s'.pumps (log ++ log') := by
  obtain ⟨shared, stands⟩ := h
  obtain ⟨-, receiver, applied, -⟩ := move.frame
  constructor
  · have left : s'.pumps.receiverLeft = s.pumps.receiverLeft := by
      unfold Pumps.receiverLeft
      rw [receiver]
    rw [left]
    exact move.shared shared
  · rw [receiver, applied, move.now_eq]
    exact stands.quiet (Nat.le_refl _) move.quiet

theorem standing_of_path {w w' : World ε ρ σ} {p' : Pumps}
    (path : Path (RoundStep site r deadline) ⟨r.start session, w⟩ log ⟨p', w'⟩) :
    Standing site r session deadline w'.now p' log :=
  path_invariant path
    (I := fun s log => Standing site r session deadline s.world.now s.pumps log)
    (S := fun s log => Standing site r session deadline s.world.now s.pumps log)
    (R := fun s log => Shared site r session (s.doing.active s.pumps) s.pumps log ∧
      s.doing.Stands site r session deadline s.world.now s.pumps log)
    (standing_start site r session deadline w.now)
    (fun t h => h.later (Nat.le_max_left _ t))
    (fun now later pump h => h.serve now later pump)
    id id
    (fun h move => move.standing h)
    id id
    (fun h move => ⟨move.shared h.1, move.stands h.1 h.2⟩)

/-- Whatever the receiver is doing, what counts was handed over as far as it was seen. -/
theorem Receiver.Stands.halted {p : Pumps}
    (h : p.receiver.Stands site r session deadline now p.applied log) :
    ∃ seen pending handed, Inbound r session seen pending handed log ∧
      (∀ a ∈ handed.dropLast, a.answer = .ok false) ∧
      ∀ result, p.receiver = .left result →
        Halt site r session deadline now log handed (firstsFrom r.party seen pending) result := by
  cases there : p.receiverLeft with
  | false =>
      obtain ⟨seen, pending, handed, inbound, unfinished⟩ := h.inbound there
      refine ⟨seen, pending, handed, inbound, unfinished, fun result gone => ?_⟩
      simp [Pumps.receiverLeft, gone] at there
  | true =>
      unfold Pumps.receiverLeft at there
      split at there
      · next result gone =>
          rw [gone] at h
          obtain ⟨seen, pending, handed, left⟩ := h
          refine ⟨seen, pending, handed, left.toInbound, left.unfinished, fun result' gone' => ?_⟩
          cases gone.symm.trans gone'
          exact left.halt
      · cases there

/-- A round that is over has the receiver's reason. -/
theorem haltsWith_of_ended {p : Pumps} {limit : Option Time} {e : Ending Bytes}
    (ended : p.Ended limit e)
    (outbound : ∀ e, p.sender = .left (.error e) → OutboundFails site r session log e)
    (halted : ∀ result, p.receiver = .left result →
      Halt site r session deadline now log handed rest result) :
    HaltsWith site r session deadline now limit log handed rest e := by
  cases e with
  | done raw =>
      dsimp only [Pumps.Ended, Pumps.result?] at ended
      split at ended
      · cases ended
      · next left =>
          cases ended
          exact halted _ left
      · cases ended
  | failed e =>
      dsimp only [Pumps.Ended, Pumps.result?] at ended
      split at ended
      · next failed left =>
          cases ended
          exact ⟨_, halted _ left, .inr (outbound _ failed)⟩
      · next left =>
          cases ended
          exact ⟨_, halted _ left, .inl rfl⟩
      · cases ended
  | cut => exact ended
  | endless => trivial
  | overflow => exact ended

/-- A round hands to its engine the first occurrences of the messages of others among all it
fetches, in order and opened, as far as it gets.  It goes on as long as the engine wants more, asks
the relay once to take away what was applied, and otherwise does nothing about messages; what the
relay answers to that makes no difference.  It stops for one of the reasons there are. -/
theorem run_applies_firsts (site : Site ε ρ σ) (r : Round) (session : Session)
    (limit : Option Time) (w : World ε ρ σ) :
    ∃ log handed rest, w.Since (r.run site session limit w).2 log ∧
      firsts r.party (fetched log) = handed.map (·.envelope) ++ rest ∧
      (∀ a ∈ handed, Sealing.decode r.hexEncryptionKey a.envelope.body = .ok a.message) ∧
      handlings log = handed.flatMap (·.handlings r session) ∧
      (∀ a ∈ handed.dropLast, a.answer = .ok false) ∧
      HaltsWith site r session (w.now + r.deadline) (r.run site session limit w).2.now limit
        log handed rest (r.run site session limit w).1 := by
  let deadline := w.now + r.deadline
  obtain ⟨log, p, since, ⟨shared, stands⟩, ended⟩ := run_invariant site r session limit w
    (I := fun s log => Standing site r session deadline s.world.now s.pumps log)
    (S := fun s log => Standing site r session deadline s.world.now s.pumps log)
    (R := fun s log => Shared site r session (s.doing.active s.pumps) s.pumps log ∧
      s.doing.Stands site r session deadline s.world.now s.pumps log)
    (standing_start site r session deadline w.now)
    (fun t h => h.later (Nat.le_max_left _ t))
    (fun now later pump h => h.serve now later pump)
    id id
    (fun h move => move.standing h)
    id id
    (fun h move => ⟨move.shared h.1, move.stands h.1 h.2⟩)
  obtain ⟨seen, pending, handed, inbound, unfinished, halted⟩ := stands.halted
  refine ⟨log, handed, firstsFrom r.party seen pending, since, ?_, inbound.opened,
    inbound.handlings, unfinished, haltsWith_of_ended ended shared.outbound halted⟩
  rw [inbound.fetched, firsts_append, inbound.firsts]

end QuorumVault.Round
