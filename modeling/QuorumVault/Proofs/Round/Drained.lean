/-
A receiver leaves nothing behind without a reason.

Of what was fetched, everything that counts was handed to the engine, unless the engine
wants no more, a message cannot be opened, or the receiver still waits for the relay to
take away the one it has just handed over.  Whether it waits is told by counting: the
relay then owes an answer to a deletion.
-/
import QuorumVault.Proofs.Round.Inbound

namespace QuorumVault

/-- The messages that were handed to the engine, in order. -/
def inputs (log : List Event) : List Bytes :=
  (handlings log).filterMap fun
    | .input _ _ message _ => some message
    | .delete .. => none

@[simp] theorem inputs_append (log log' : List Event) :
    inputs (log ++ log') = inputs log ++ inputs log' := by
  unfold inputs
  rw [handlings_append, List.filterMap_append]

/-- The relay is asked to take a message away. -/
def Event.isDeletion : Event → Bool
  | .asked (.delete ..) => true
  | _ => false

/-- The relay answers to that. -/
def Event.isDeleted : Event → Bool
  | .answered (.delete ..) _ => true
  | _ => false

/-- The relay owes so many answers to deletions. -/
def Owes (log : List Event) (count : Nat) : Prop :=
  log.countP Event.isDeletion = log.countP Event.isDeleted + count

/-- The relay has not answered to all deletions. -/
def Unanswered (log : List Event) : Prop :=
  log.countP Event.isDeleted < log.countP Event.isDeletion

/-- The engine has refused a message or wants no more. -/
def Sated (session : Session) (log : List Event) : Prop :=
  ∃ message answer, .engine session.family (.input session.handle message) answer ∈ log ∧
    answer ≠ .ok false

/-- A message was fetched that cannot be opened. -/
def Unreadable (keyText : String) (log : List Event) : Prop :=
  ∃ m ∈ fetched log, ∃ fault, Sealing.decode keyText m.body = .error fault

/-- As many messages were handed over as count. -/
def Drained (party : String) (log : List Event) : Prop :=
  (Round.firsts party (fetched log)).length = (inputs log).length

theorem Owes.append {log log' : List Event} {count count' : Nat} (h : Owes log count)
    (more : log'.countP Event.isDeletion + count = log'.countP Event.isDeleted + count') :
    Owes (log ++ log') count' := by
  unfold Owes at h ⊢
  rw [List.countP_append, List.countP_append]
  omega

theorem Owes.unanswered {log : List Event} (h : Owes log 1) : Unanswered log := by
  unfold Owes at h
  unfold Unanswered
  omega

theorem Unanswered.append {log log' : List Event} (h : Unanswered log)
    (none : log'.countP Event.isDeleted = 0) : Unanswered (log ++ log') := by
  unfold Unanswered at h ⊢
  rw [List.countP_append, List.countP_append]
  omega

namespace Round

variable {ε ρ σ : Type} {site : Site ε ρ σ} {r : Round} {session : Session} {deadline now : Time}
  {log log' : List Event} {handed : List Handed} {seen pending : List Envelope}

theorem inputs_flatMap (handed : List Handed) (log : List Event)
    (h : handlings log = handed.flatMap (·.handlings r session)) :
    inputs log = handed.map (·.message) := by
  unfold inputs
  rw [h]
  clear h
  induction handed with
  | nil => rfl
  | cons a rest ih =>
      rw [List.flatMap_cons, List.filterMap_append, ih, List.map_cons]
      unfold Handed.handlings
      cases a.answer <;> rfl

/-- A receiver with nothing at hand has handed over all that counts. -/
theorem Inbound.drained (h : Inbound r session seen [] handed log) : Drained r.party log := by
  unfold Drained
  rw [h.fetched, List.append_nil, h.firsts, inputs_flatMap handed log h.handlings, List.length_map,
    List.length_map]

theorem mem_of_input {family : Family} {handle : Engine.Handle} {message : Bytes}
    {answer : Except Error Bool} (h : .input family handle message answer ∈ handlings log) :
    .engine family (.input handle message) answer ∈ log := by
  obtain ⟨e, mem, handles⟩ := List.mem_filterMap.1 h
  unfold Event.handling? at handles
  split at handles
  · cases handles
    exact mem
  · cases handles
  · cases handles

/-- What was handed over was answered by the engine. -/
theorem Inbound.mem_of_handed (h : Inbound r session seen pending handed log) {a : Handed}
    (mem : a ∈ handed) :
    .engine session.family (.input session.handle a.message) a.answer ∈ log := by
  refine mem_of_input ?_
  rw [h.handlings]
  exact List.mem_flatMap.2 ⟨a, mem, List.mem_cons_self⟩

/-- Once the engine has answered that it wants no more, it is known to. -/
theorem Inbound.sated {answer : Except Error Bool} (h : Inbound r session seen pending handed log)
    (last : EndsWith answer handed) (unwanting : answer ≠ .ok false) : Sated session log := by
  obtain ⟨before, a, rfl, -, rfl⟩ := last
  exact ⟨a.message, a.answer, h.mem_of_handed (by simp), unwanting⟩

/-! ### The invariant -/

/-- Why something may be left. -/
def Settled (r : Round) (session : Session) (log : List Event) : Prop :=
  Drained r.party log ∨ Unanswered log ∨ Sated session log ∨ Unreadable r.hexEncryptionKey log

/-- What the receiver is doing tells whether the relay owes an answer. -/
def Receiver.Settles (r : Round) (session : Session) (log : List Event) : Receiver → Prop
  | .starting | .asking | .pausing _ | .downloading .. => Owes log 0
  | .deleting .. => Owes log 1
  | .left _ => Settled r session log

/-- So does where it stands in its turn. -/
def Receiving.Settles (r : Round) (session : Session) (log : List Event) (p : Pumps) :
    Receiving → Prop
  | .idle => p.receiver.Settles r session log
  | .fetching _ | .applying _ | .finishing => Owes log 0
  | .clearing .. => Owes log 1

theorem Sated.append (h : Sated session log) (log' : List Event) : Sated session (log ++ log') := by
  obtain ⟨message, answer, mem, unwanting⟩ := h
  exact ⟨message, answer, List.mem_append_left _ mem, unwanting⟩

/-- What happens about no message changes nothing. -/
theorem Settled.quiet (h : Settled r session log) (quiet : Quiet log')
    (none : log'.countP Event.isDeleted = 0) : Settled r session (log ++ log') := by
  rcases h with drained | owes | sated | ⟨m, mem, unopened⟩
  · refine .inl ?_
    have silent : inputs log' = [] := by
      unfold inputs
      rw [quiet.2]
      rfl
    unfold Drained
    rw [fetched_append, inputs_append, quiet.1, silent, List.append_nil, List.append_nil]
    exact drained
  · exact .inr (.inl (owes.append none))
  · exact .inr (.inr (.inl (Sated.append sated log')))
  · refine .inr (.inr (.inr ⟨m, ?_, unopened⟩))
    rw [fetched_append]
    exact List.mem_append_left _ mem

theorem Receiver.Settles.quiet {receiver : Receiver} (h : receiver.Settles r session log)
    (quiet : Quiet log') (none : log'.countP Event.isDeletion = 0 ∧ log'.countP Event.isDeleted = 0) :
    receiver.Settles r session (log ++ log') := by
  cases receiver with
  | starting | asking | pausing | downloading | deleting =>
      exact Owes.append h (by rw [none.1, none.2])
  | left => exact Settled.quiet h quiet none.2

theorem SenderMove.undeleting {s s' : SenderAt ε ρ σ} (move : SenderMove site r s log s') :
    log.countP Event.isDeletion = 0 ∧ log.countP Event.isDeleted = 0 := by
  cases move with
  | outputFails | lingers | quits | pauses | unsealable | seals | delivered | receiverFails | skips
  | uploads | uploadWaits | uploadResumes | uploaded | leaves => exact ⟨rfl, rfl⟩

theorem Pumps.owes_of_asksBatch {p : Pumps} (h : p.receiver.Settles r session log)
    (asks : p.asksBatch = true) : Owes log 0 := by
  unfold Pumps.asksBatch at asks
  cases hr : p.receiver with
  | starting | asking | pausing =>
      rw [hr] at h
      exact h
  | downloading | deleting | left => simp [hr] at asks

/-- A receiver that is there has nothing at hand, or waits for the relay to take something away. -/
theorem Receiver.Stands.settled {p : Pumps}
    (stands : p.receiver.Stands site r session deadline now p.applied log)
    (settles : p.receiver.Settles r session log) : Settled r session log := by
  cases hr : p.receiver with
  | starting | asking | pausing | downloading =>
      rw [hr] at stands
      obtain ⟨seen, handed, going⟩ := stands
      exact .inl going.drained
  | deleting =>
      rw [hr] at settles
      exact .inr (.inl settles.unanswered)
  | left =>
      rw [hr] at settles
      exact settles

theorem ReceiverMove.settles {s s' : ReceiverAt ε ρ σ}
    (shared : Shared site r session (s.doing.active s.pumps) s.pumps log)
    (stands : s.doing.Stands site r session deadline s.world.now s.pumps log)
    (settles : s.doing.Settles r session log s.pumps)
    (move : ReceiverMove site r deadline s log' s') :
    s'.doing.Settles r session (log ++ log') s'.pumps := by
  have nothing {count : Nat} (owes : Owes log count) : Owes (log ++ []) count := owes.append rfl
  cases move with
  | begins => exact Receiver.Settles.quiet settles quiet_nil ⟨rfl, rfl⟩
  | aborts asks =>
      obtain ⟨-, seen, handed, going⟩ := Receiver.Stands.going stands asks
      exact Settled.quiet (.inl going.drained) quiet_nil rfl
  | asks asks => exact (Pumps.owes_of_asksBatch settles asks).append rfl
  | fetchWaits => exact nothing settles
  | fetchResumes h =>
      dsimp only [Receiving.Settles] at settles
      rw [h] at settles
      exact nothing settles
  | fetchFails =>
      obtain ⟨seen, handed, going⟩ := stands
      exact Settled.quiet (.inl going.drained) ⟨rfl, rfl⟩ rfl
  | fetched => exact Owes.append settles rfl
  | pauses =>
      unfold Pumps.receiverPauses
      split <;> exact nothing settles
  | passesOver => exact nothing settles
  | @unreadable p w m rest fault new opened =>
      obtain ⟨seen, handed, going⟩ := stands
      refine .inr (.inr (.inr ⟨m, ?_, fault, opened⟩))
      rw [List.append_nil, going.fetched]
      exact List.mem_append_right _ List.mem_cons_self
  | @refused p w w' m rest message e new opened call =>
      refine .inr (.inr (.inl ⟨message, .error e, List.mem_append_right _ ?_, nofun⟩))
      rw [← shared.family_eq, ← shared.handle_eq]
      exact List.mem_singleton_self _
  | applies => exact Owes.append settles rfl
  | clearWaits => exact nothing settles
  | clearResumes h =>
      dsimp only [Receiving.Settles] at settles
      rw [h] at settles
      exact nothing settles
  | goesOn => exact Owes.append settles rfl
  | hasAll => exact Owes.append settles rfl
  | finishedTwice =>
      obtain ⟨seen, pending, handed, cleared⟩ := stands
      exact .inr (.inr (.inl (Sated.append (cleared.toInbound.sated cleared.last nofun) _)))
  | finishes =>
      obtain ⟨seen, pending, handed, cleared⟩ := stands
      exact .inr (.inr (.inl (Sated.append (cleared.toInbound.sated cleared.last nofun) _)))
  | timesOut => exact (Receiver.Stands.settled stands settles).quiet quiet_nil rfl

/-! ### Rounds -/

/-- Of what a round fetches it hands over all that counts, opened and in order, unless there is a reason
for leaving the rest. -/
theorem run_drains (site : Site ε ρ σ) (r : Round) (session : Session) (limit : Option Time)
    (w : World ε ρ σ) :
    ∃ (log : List Event) (handed : List Handed) (rest : List Envelope),
      w.Since (r.run site session limit w).2 log ∧
      firsts r.party (fetched log) = handed.map (·.envelope) ++ rest ∧
      (∀ a ∈ handed, Sealing.decode r.hexEncryptionKey a.envelope.body = .ok a.message) ∧
      inputs log = handed.map (·.message) ∧
      (rest = [] ∨ Unanswered log ∨ Sated session log ∨ Unreadable r.hexEncryptionKey log) := by
  let deadline := w.now + r.deadline
  obtain ⟨log, p, since, ⟨⟨shared, stands⟩, settles⟩, -⟩ := run_invariant site r session limit w
    (I := fun s log => Standing site r session deadline s.world.now s.pumps log ∧
      s.pumps.receiver.Settles r session log)
    (S := fun s log => Standing site r session deadline s.world.now s.pumps log ∧
      s.pumps.receiver.Settles r session log)
    (R := fun s log => (Shared site r session (s.doing.active s.pumps) s.pumps log ∧
      s.doing.Stands site r session deadline s.world.now s.pumps log) ∧
      s.doing.Settles r session log s.pumps)
    ⟨standing_start site r session deadline w.now, rfl⟩
    (fun t h => ⟨h.1.later (Nat.le_max_left _ t), h.2⟩)
    (fun now later pump h => ⟨h.1.serve now later pump, by simpa using h.2⟩)
    id id
    (fun h move => ⟨move.standing h.1, by
      rw [move.frame.2.1]
      exact h.2.quiet move.quiet move.undeleting⟩)
    id id
    (fun h move => ⟨⟨move.shared h.1.1, move.stands h.1.1 h.1.2⟩, move.settles h.1.1 h.1.2 h.2⟩)
  have settled : Settled r session log := stands.settled settles
  obtain ⟨seen, pending, handed, inbound, -, -⟩ := stands.halted
  have given : inputs log = handed.map (·.message) := inputs_flatMap handed log inbound.handlings
  have split : firsts r.party (fetched log) =
      handed.map (·.envelope) ++ firstsFrom r.party seen pending := by
    rw [inbound.fetched, firsts_append, inbound.firsts]
  refine ⟨log, handed, _, since, split, inbound.opened, given, settled.imp_left fun drained => ?_⟩
  unfold Drained at drained
  rw [split, given, List.length_append, List.length_map, List.length_map] at drained
  exact List.eq_nil_of_length_eq_zero (by omega)

end Round

end QuorumVault
