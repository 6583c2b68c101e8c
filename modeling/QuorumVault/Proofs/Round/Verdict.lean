/-
How a round is decided.

Both pumps may come to an end in any order.  A sender that fails decides the round, even
when it fails after the engine has given the result; else the round comes out as the
receiver does.  What either pump came to is told by the log: the sender has failed with
what the engine or the session key has failed it with, and the receiver has a result if
the engine has given it.  That the sender has failed is known to the receiver before the
round is over, but its own failure for that reason is never the round's.
-/
import QuorumVault.Proofs.Cipher.Sealing
import QuorumVault.Proofs.Round.Punctual
import QuorumVault.Proofs.Round.Signal

namespace QuorumVault

namespace Round

variable {ε ρ σ : Type} {site : Site ε ρ σ} {r : Round} {session : Session}
  {deadline now : Time} {log log' : List Event}

/-- The engine gives the result of a session. -/
abbrev resultEvent (session : Session) (raw : Bytes) : Event :=
  .engine session.family (.finish session.handle) (.ok raw)

/-! ### Failures of the sender in a log -/

theorem outboundFails_append {e : Error} : OutboundFails site r session (log ++ log') e ↔
    OutboundFails site r session log e ∨ OutboundFails site r session log' e := by
  constructor
  · intro fails
    cases fails with
    | output h => exact (List.mem_append.1 h).imp .output .output
    | receiver h => exact (List.mem_append.1 h).imp .receiver .receiver
    | unsealable h sealed =>
        exact (List.mem_append.1 h).imp (.unsealable · sealed) (.unsealable · sealed)
  · rintro (fails | fails)
    · exact fails.mono (List.subset_append_left _ _)
    · exact fails.mono (List.subset_append_right _ _)

/-- A failure of the sender is one of its own calls. -/
theorem OutboundFails.exists_mem {e : Error} (h : OutboundFails site r session log e) :
    ∃ event ∈ log, event.byReceiver = false := by
  cases h with
  | output h | receiver h | unsealable h => exact ⟨_, h, rfl⟩

/-- An event with which the sender fails. -/
def Fails (site : Site ε ρ σ) (r : Round) (session : Session) (event : Event) : Prop :=
  ∃ e, OutboundFails site r session [event] e

/-- What a move of the sender logs is the failure with which it leaves, if it does with one. -/
theorem SenderMove.outboundFails_iff {s s' : SenderAt ε ρ σ} (waits : s.doing.Waits s.pumps)
    (move : SenderMove site r s log s') (e : Error) :
    OutboundFails site r s.pumps.session log e ↔ s'.pumps.sender = .left (.error e) := by
  have unfailed := Pumps.sender_ne_left (move.there waits) (.error e)
  cases move with
  | outputFails =>
      constructor
      · intro fails
        cases fails <;> simp_all [Pumps.senderLeaves]
      · intro left
        cases left
        exact .output (List.mem_singleton_self _)
  | receiverFails =>
      constructor
      · intro fails
        cases fails <;> simp_all [Pumps.senderLeaves]
      · intro left
        cases left
        exact .receiver (List.mem_singleton_self _)
  | unsealable asks call sealed =>
      constructor
      · intro fails
        cases fails with
        | output h | receiver h => simp at h
        | unsealable h sealed' =>
            rw [Sealing.encode_eq_error_iff] at sealed sealed'
            cases sealed.symm.trans sealed'
            rfl
      · intro left
        cases left
        exact .unsealable (List.mem_singleton_self _) sealed
  | seals asks call sealed =>
      refine iff_of_false (fun fails => ?_) unfailed
      cases fails with
      | output h | receiver h => simp at h
      | unsealable h sealed' => exact Sealing.encode_ne_error sealed sealed'
  | pauses =>
      refine iff_of_false (fun fails => ?_) ?_
      · cases fails <;> simp_all
      · unfold Pumps.senderPauses
        split <;> nofun
  | lingers | quits | delivered | uploadWaits | leaves =>
      exact iff_of_false (fun fails => by cases fails <;> simp_all) nofun
  | skips | uploads | uploadResumes | uploaded =>
      exact iff_of_false (fun fails => by cases fails <;> simp_all) unfailed

/-- Everything that a move of the receiver logs is the receiver's. -/
theorem ReceiverMove.byReceiver {s s' : ReceiverAt ε ρ σ}
    (move : ReceiverMove site r deadline s log s') : ∀ e ∈ log, e.byReceiver = true := by
  cases move with
  | asks | fetchFails | fetched | goesOn | hasAll | refused | finishes | applies =>
      simp [Event.byReceiver]
  | begins | aborts | fetchWaits | fetchResumes | pauses | passesOver | unreadable | clearWaits
  | clearResumes | finishedTwice | timesOut => exact List.forall_mem_nil _

theorem ReceiverMove.not_outboundFails {s s' : ReceiverAt ε ρ σ}
    (move : ReceiverMove site r deadline s log s') (session : Session) (e : Error) :
    ¬OutboundFails site r session log e := by
  intro fails
  obtain ⟨event, mem, own⟩ := fails.exists_mem
  rw [move.byReceiver event mem] at own
  cases own

/-- What a move of the receiver logs is the result with which it leaves, if it does with one. -/
theorem ReceiverMove.result_iff {s s' : ReceiverAt ε ρ σ} (waits : s.doing.Waits s.pumps)
    (move : ReceiverMove site r deadline s log s') (raw : Bytes) :
    resultEvent s.pumps.session raw ∈ log ↔ s'.pumps.receiver = .left (.ok raw) := by
  have unleft := Pumps.receiver_ne_left (move.there waits) (.ok raw)
  cases move with
  | finishes =>
      constructor
      · intro mem
        cases List.mem_singleton.1 mem
        rfl
      · intro left
        cases left
        exact List.mem_singleton_self _
  | pauses =>
      refine iff_of_false (by simp) ?_
      unfold Pumps.receiverPauses
      split <;> nofun
  | aborts | fetchWaits | fetchFails | unreadable | refused | clearWaits | finishedTwice | timesOut =>
      exact iff_of_false (by simp) nofun
  | begins | asks | fetchResumes | fetched | passesOver | applies | clearResumes | goesOn | hasAll =>
      exact iff_of_false (by simp) unleft

/-! ### What the log tells of the pumps -/

/-- The log tells what either pump has come to. -/
structure Tells (site : Site ε ρ σ) (r : Round) (session : Session) (p : Pumps) (log : List Event) :
    Prop where
  family_eq : p.session.family = session.family
  handle_eq : p.session.handle = session.handle
  /-- The sender has left with the failure that is there, if one is. -/
  sender_iff : ∀ e, OutboundFails site r session log e ↔ p.sender = .left (.error e)
  /-- The receiver has left with the result that is there, if one is. -/
  receiver_iff : ∀ raw, resultEvent session raw ∈ log ↔ p.receiver = .left (.ok raw)

theorem OutboundFails.congr_iff {session' : Session} {e : Error}
    (family : session.family = session'.family) (handle : session.handle = session'.handle) :
    OutboundFails site r session log e ↔ OutboundFails site r session' log e :=
  ⟨(·.congr family handle), (·.congr family.symm handle.symm)⟩

theorem SenderMove.tells {s s' : SenderAt ε ρ σ} (waits : s.doing.Waits s.pumps)
    (h : Tells site r session s.pumps log) (move : SenderMove site r s log' s') :
    Tells site r session s'.pumps (log ++ log') := by
  obtain ⟨same, receiver, -, -⟩ := move.frame
  refine ⟨same ▸ h.family_eq, same ▸ h.handle_eq, fun e => ?_, fun raw => ?_⟩
  · have before : ¬OutboundFails site r session log e := by
      rw [h.sender_iff]
      exact Pumps.sender_ne_left (move.there waits) _
    rw [outboundFails_append, ← move.outboundFails_iff waits e,
      OutboundFails.congr_iff h.family_eq h.handle_eq]
    exact or_iff_right before
  · have silent : resultEvent session raw ∉ log' := by
      intro mem
      cases move.not_byReceiver _ mem
    rw [List.mem_append, receiver, h.receiver_iff]
    exact or_iff_left silent

theorem ReceiverMove.tells {s s' : ReceiverAt ε ρ σ} (waits : s.doing.Waits s.pumps)
    (h : Tells site r session s.pumps log) (move : ReceiverMove site r deadline s log' s') :
    Tells site r session s'.pumps (log ++ log') := by
  obtain ⟨sender, -, family, handle⟩ := move.frame
  refine ⟨family.trans h.family_eq, handle.trans h.handle_eq, fun e => ?_, fun raw => ?_⟩
  · rw [outboundFails_append, sender, h.sender_iff]
    exact or_iff_left (move.not_outboundFails session e)
  · have before : resultEvent session raw ∉ log := by
      rw [h.receiver_iff]
      exact Pumps.receiver_ne_left (move.there waits) _
    have moved := move.result_iff waits raw
    unfold resultEvent at moved
    rw [h.family_eq, h.handle_eq] at moved
    rw [List.mem_append, ← moved]
    exact or_iff_right before

theorem tells_start (site : Site ε ρ σ) (r : Round) (session : Session) :
    Tells site r session (r.start session) [] :=
  ⟨rfl, rfl, fun e => ⟨fun fails => by cases fails <;> simp_all, nofun⟩, fun raw => ⟨nofun, nofun⟩⟩

theorem Tells.serve {p : Pumps} (h : Tells site r session p log) (now later : Time) (pump : Pump) :
    Tells site r session (p.serve now later pump) log :=
  ⟨by simpa using h.family_eq, by simpa using h.handle_eq, by simpa using h.sender_iff,
    by simpa using h.receiver_iff⟩

theorem tells_of_path {w : World ε ρ σ} {s : RoundAt ε ρ σ}
    (path : Path (RoundStep site r deadline) ⟨r.start session, w⟩ log s) :
    Tells site r session s.pumps log :=
  path_invariant path
    (I := fun s log => Tells site r session s.pumps log)
    (S := fun s log => s.doing.Waits s.pumps ∧ Tells site r session s.pumps log)
    (R := fun s log => s.doing.Waits s.pumps ∧ Tells site r session s.pumps log)
    (tells_start site r session)
    (fun _ h => h)
    (fun now later pump h => h.serve now later pump)
    (fun h => ⟨nofun, h⟩)
    (fun h => h.2)
    (fun h move => ⟨move.waits h.1, move.tells h.1 h.2⟩)
    (fun h => ⟨nofun, h⟩)
    (fun h => h.2)
    (fun h move => ⟨move.waits h.1, move.tells h.1 h.2⟩)

/-- Every move may rely on what the signal and the log tell before it: what holds at the start and is
kept by all moves of pumps that have not left holds at the end. -/
theorem keeps_of_path {w : World ε ρ σ} {s : RoundAt ε ρ σ}
    (path : Path (RoundStep site r deadline) ⟨r.start session, w⟩ log s)
    {I : RoundAt ε ρ σ → List Event → Prop} {S : SenderAt ε ρ σ → List Event → Prop}
    {R : ReceiverAt ε ρ σ → List Event → Prop}
    (start : I ⟨r.start session, w⟩ [])
    (passes : ∀ {p w log} t, I ⟨p, w⟩ log → I ⟨p, w.advanceTo t⟩ log)
    (serves : ∀ {p w log} now later pump, I ⟨p, w⟩ log → I ⟨p.serve now later pump, w⟩ log)
    (sends : ∀ {p w log}, I ⟨p, w⟩ log → S ⟨.idle, p, w⟩ log)
    (sent : ∀ {p w log}, S ⟨.idle, p, w⟩ log → I ⟨p, w⟩ log)
    (sending : ∀ {s log s' log'}, s.doing.Waits s.pumps → Signalled s.pumps →
      Tells site r session s.pumps log → S s log → SenderMove site r s log' s' → S s' (log ++ log'))
    (receives : ∀ {p w log}, I ⟨p, w⟩ log → R ⟨.idle, p, w⟩ log)
    (received : ∀ {p w log}, R ⟨.idle, p, w⟩ log → I ⟨p, w⟩ log)
    (receiving : ∀ {s log s' log'}, s.doing.Waits s.pumps → Signalled s.pumps →
      Tells site r session s.pumps log → R s log → ReceiverMove site r deadline s log' s' →
        R s' (log ++ log')) : I s log := by
  have kept := path_invariant path
    (I := fun s log => Signalled s.pumps ∧ Tells site r session s.pumps log ∧ I s log)
    (S := fun s log => s.doing.Waits s.pumps ∧ Signalled s.pumps ∧
      Tells site r session s.pumps log ∧ S s log)
    (R := fun s log => s.doing.Waits s.pumps ∧ Signalled s.pumps ∧
      Tells site r session s.pumps log ∧ R s log)
    ⟨signalled_start r session, tells_start site r session, start⟩
    (fun t ⟨signalled, tells, h⟩ => ⟨signalled, tells, passes t h⟩)
    (fun now later pump ⟨signalled, tells, h⟩ => ⟨signalled.serve now later pump,
      tells.serve now later pump, serves now later pump h⟩)
    (fun ⟨signalled, tells, h⟩ => ⟨nofun, signalled, tells, sends h⟩)
    (fun ⟨_, signalled, tells, h⟩ => ⟨signalled, tells, sent h⟩)
    (fun ⟨waits, signalled, tells, h⟩ move => ⟨move.waits waits, move.signalled waits signalled,
      move.tells waits tells, sending waits signalled tells h move⟩)
    (fun ⟨signalled, tells, h⟩ => ⟨nofun, signalled, tells, receives h⟩)
    (fun ⟨_, signalled, tells, h⟩ => ⟨signalled, tells, received h⟩)
    (fun ⟨waits, signalled, tells, h⟩ move => ⟨move.waits waits, move.signalled waits signalled,
      move.tells waits tells, receiving waits signalled tells h move⟩)
  exact kept.2.2

/-! ### A sender that fails first -/

/-- The sender fails before the receiver has done anything. -/
def FailsFirst (site : Site ε ρ σ) (r : Round) (session : Session) (log : List Event) : Prop :=
  ∃ before event after, log = before ++ event :: after ∧ Untouched before ∧
    Fails site r session event

/-- If the sender fails first, the receiver does nothing. -/
structure Heeds (site : Site ε ρ σ) (r : Round) (session : Session) (idle : Prop) (p : Pumps)
    (log : List Event) : Prop where
  /-- A receiver that has done nothing has not begun or has left. -/
  begun : Untouched log → idle ∧ (p.receiver = .starting ∨ p.receiverLeft = true)
  /-- If the sender has failed first, nothing was done and nothing will be. -/
  barred : FailsFirst site r session log → Untouched log ∧ Barred p

/-- The failure is in the first of two logs, or the receiver has done nothing there. -/
theorem FailsFirst.of_append (h : FailsFirst site r session (log ++ log')) :
    FailsFirst site r session log ∨
      Untouched log ∧ ∃ event ∈ log', Fails site r session event := by
  obtain ⟨before, event, after, split, untouched, fails⟩ := h
  rcases split_append split with ⟨rest, rfl, -⟩ | ⟨front, rfl, rfl⟩
  · exact .inl ⟨before, event, rest, rfl, untouched, fails⟩
  · exact .inr ⟨fun e mem => untouched e (List.mem_append_left _ mem), event, by simp, fails⟩

theorem SenderMove.heeds {s s' : SenderAt ε ρ σ} (waits : s.doing.Waits s.pumps)
    (signalled : Signalled s.pumps) (tells : Tells site r session s.pumps log)
    (h : Heeds site r session True s.pumps log) (move : SenderMove site r s log' s') :
    Heeds site r session True s'.pumps (log ++ log') := by
  obtain ⟨-, receiver, -, -⟩ := move.frame
  have left_eq : s'.pumps.receiverLeft = s.pumps.receiverLeft := by
    unfold Pumps.receiverLeft
    rw [receiver]
  refine ⟨fun untouched => ?_, fun fails => ?_⟩
  · rw [receiver, left_eq]
    exact h.begun fun e mem => untouched e (List.mem_append_left _ mem)
  · rcases fails.of_append with before | ⟨untouched, event, mem, e, fails⟩
    · have there := move.there waits
      rw [(h.barred before).2.senderLeft] at there
      cases there
    · have failed : s'.pumps.senderFailed = true := by
        have now : OutboundFails site r s.pumps.session log' e :=
          (OutboundFails.congr_iff tells.family_eq tells.handle_eq).2
            (fails.mono (by simpa using mem))
        unfold Pumps.senderFailed
        rw [(move.outboundFails_iff waits e).1 now]
      refine ⟨untouched.append move.not_byReceiver, failed, ?_⟩
      rw [receiver, left_eq]
      rcases (h.begun untouched).2 with starting | left
      · refine .inl ⟨starting, (move.signalled waits signalled).failed failed ?_⟩
        rw [left_eq, Pumps.receiverLeft, starting]
      · exact .inr left

theorem ReceiverMove.heeds {s s' : ReceiverAt ε ρ σ} (waits : s.doing.Waits s.pumps)
    (h : Heeds site r session (s.doing = .idle) s.pumps log)
    (move : ReceiverMove site r deadline s log' s') :
    Heeds site r session (s'.doing = .idle) s'.pumps (log ++ log') := by
  have there := move.there waits
  refine ⟨fun untouched => ?_, fun fails => ?_⟩
  · have before := h.begun fun e mem => untouched e (List.mem_append_left _ mem)
    have none (e : Event) (mem : e ∈ log') : False := by
      have own := move.byReceiver e mem
      rw [untouched e (List.mem_append_right _ mem)] at own
      cases own
    obtain ⟨idle, starting | left⟩ := before
    · cases move with
      | begins => exact ⟨rfl, .inl starting⟩
      | aborts | timesOut => exact ⟨rfl, .inr rfl⟩
      | asks => exact (none _ (List.mem_singleton_self _)).elim
      | fetchResumes waiting | clearResumes waiting => cases waiting.symm.trans starting
      | fetchWaits | fetchFails | fetched | pauses | passesOver | unreadable | refused | applies
      | clearWaits | goesOn | hasAll | finishedTwice | finishes => cases idle
    · rw [left] at there
      cases there
  · rcases fails.of_append with before | ⟨-, event, mem, e, fails⟩
    · obtain ⟨untouched, barred⟩ := h.barred before
      obtain ⟨-, still, rfl⟩ := move.barred (h.begun untouched).1 barred
      exact ⟨untouched.append (List.forall_mem_nil _), still⟩
    · exact absurd (fails.mono (by simpa using mem)) (move.not_outboundFails session e)

theorem heeds_start (site : Site ε ρ σ) (r : Round) (session : Session) :
    Heeds site r session True (r.start session) [] := by
  refine ⟨fun _ => ⟨trivial, .inl rfl⟩, fun first => ?_⟩
  obtain ⟨before, event, after, split, -⟩ := first
  simp at split

theorem Heeds.serve {p : Pumps} {idle : Prop} (h : Heeds site r session idle p log)
    (now later : Time) (pump : Pump) : Heeds site r session idle (p.serve now later pump) log :=
  ⟨by simpa [Pumps.receiverLeft] using h.begun,
    fun first => ⟨(h.barred first).1, (h.barred first).2.serve now later pump⟩⟩

theorem heeds_of_path {w : World ε ρ σ} {s : RoundAt ε ρ σ}
    (path : Path (RoundStep site r deadline) ⟨r.start session, w⟩ log s) :
    Heeds site r session True s.pumps log :=
  keeps_of_path path
    (I := fun s log => Heeds site r session True s.pumps log)
    (S := fun s log => Heeds site r session True s.pumps log)
    (R := fun s log => Heeds site r session (s.doing = .idle) s.pumps log)
    (heeds_start site r session)
    (fun _ h => h)
    (fun now later pump h => h.serve now later pump)
    id id
    (fun waits signalled tells h move => move.heeds waits signalled tells h)
    (fun h => ⟨fun untouched => ⟨rfl, (h.begun untouched).2⟩, h.barred⟩)
    (fun h => ⟨fun untouched => ⟨trivial, (h.begun untouched).2⟩, h.barred⟩)
    (fun waits _ _ h move => move.heeds waits h)

/-! ### The receiver's own failure -/

/-- Somebody has answered with the failure. -/
def Raised (log : List Event) (e : Error) : Prop :=
  ∃ event ∈ log, event.error? = some e

/-- A sender that has failed with a receiver's failure was told it. -/
theorem OutboundFails.raised (h : OutboundFails site r session log aborted) : Raised log aborted := by
  generalize aborted_eq : aborted = e at h
  cases h with
  | output h | receiver h => exact ⟨_, h, rfl⟩
  | @unsealable _ _ fault => cases fault <;> cases aborted_eq

/-- A receiver has left with its own failure only if the sender has failed. -/
theorem raised_of_halt {handed : List Handed} {rest : List Envelope}
    (sound : ∀ e, ¬OutboundFails site r session log e)
    (handled : ∀ a ∈ handed, ∀ e, a.answer = .error e →
      .engine session.family (.input session.handle a.message) (.error e) ∈ log)
    (halt : Halt site r session deadline now log handed rest (.error aborted)) :
    Raised log aborted := by
  generalize aborted_eq : aborted = e at halt
  cases halt with
  | @unreadable _ _ fault => cases fault <;> cases aborted_eq
  | refused last =>
      obtain ⟨before, a, rfl, -, refuses⟩ := last
      exact ⟨_, handled a (by simp) e refuses, rfl⟩
  | finished last demanded => exact ⟨_, demanded, rfl⟩
  | finishedTwice =>
      have texts := congrArg (fun e : Error => e.message.toList[14]?) aborted_eq
      simp [Round.aborted, Session.finishedTwice, Error.message, Error.Kind.title] at texts
  | overdue => cases aborted_eq
  | unfetched none failed => exact ⟨_, failed, rfl⟩
  | aborted none failed => exact absurd failed (sound _)

/-! ### Rounds -/

/-- A moment of a round that begins in a world, whatever the order in which the pumps have had their
turns. -/
abbrev Reaches (site : Site ε ρ σ) (r : Round) (session : Session) (w : World ε ρ σ)
    (log : List Event) (s : RoundAt ε ρ σ) : Prop :=
  Path (RoundStep site r (w.now + r.deadline)) ⟨r.start session, w⟩ log s

/-- How a round is decided whose pumps are both gone. -/
structure Decided (site : Site ε ρ σ) (r : Round) (session : Session) (deadline now : Time)
    (p : Pumps) (log : List Event) (result : Except Error Bytes) : Prop where
  /-- If the sender has failed, that is the result; else it is what the receiver has come to. -/
  result_eq : ∃ outbound inbound, p.sender = .left outbound ∧ p.receiver = .left inbound ∧
    result = match outbound with
      | .error e => .error e
      | .ok () => inbound
  sender_iff : ∀ e, p.sender = .left (.error e) ↔ OutboundFails site r session log e
  receiver_iff : ∀ raw, p.receiver = .left (.ok raw) ↔ resultEvent session raw ∈ log
  receiver_halts : ∀ inbound, p.receiver = .left inbound → ∃ handed rest,
    Halt site r session deadline now log handed rest inbound
  /-- There is a result if the engine has given it and the sender has met no failure. -/
  ok_iff : ∀ raw, result = .ok raw ↔
    resultEvent session raw ∈ log ∧ ∀ e, ¬OutboundFails site r session log e
  /-- What a receiver fails with when it sees that the sender has failed is no result, unless somebody
  else has failed with it. -/
  unaborted : result = .error aborted → Raised log aborted

/-- What holds of a round whatever the order in which its pumps have their turns. -/
structure Orderly (site : Site ε ρ σ) (r : Round) (session : Session) (w : World ε ρ σ) : Prop where
  leads : ∀ {log log' s s'}, Reaches site r session w log s →
    Path (RoundStep site r (w.now + r.deadline)) s log' s' →
      s.pumps.signal.Leads s'.pumps.signal
  /-- The signal says that the round is over as soon as the sender has failed or the receiver has
  left. -/
  over_iff : ∀ {log s}, Reaches site r session w log s →
    (s.pumps.signal.isTerminal = true ↔
      s.pumps.senderFailed = true ∨ s.pumps.receiverLeft = true)
  sees : ∀ {log s}, Reaches site r session w log s → s.pumps.receiverLeft = false →
    (s.pumps.signal = .failed ↔ s.pumps.senderFailed = true)
  /-- If the sender fails before the receiver has begun, the receiver never does anything. -/
  barred : ∀ {log log' s s'}, Reaches site r session w log s →
    s.pumps.senderFailed = true → s.pumps.receiver = .starting →
      Path (RoundStep site r (w.now + r.deadline)) s log' s' → Untouched (log ++ log')
  /-- So if the sender's failure is the first thing that might concern the receiver. -/
  untouched : ∀ {log s}, Reaches site r session w log s →
    FailsFirst site r session log → Untouched log
  decided : ∀ {log s result}, Reaches site r session w log s → s.pumps.result? = some result →
    Decided site r session (w.now + r.deadline) s.world.now s.pumps log result

variable {w : World ε ρ σ} {p : Pumps} {s : RoundAt ε ρ σ} {result : Except Error Bytes}

theorem exists_left_of_result? (known : p.result? = some result) :
    ∃ outbound inbound, p.sender = .left outbound ∧ p.receiver = .left inbound ∧
      result = match outbound with
        | .error e => .error e
        | .ok () => inbound := by
  unfold Pumps.result? at known
  split at known
  · next sender receiver => exact ⟨_, _, sender, receiver, (Option.some.inj known).symm⟩
  · next sender receiver => exact ⟨_, _, sender, receiver, (Option.some.inj known).symm⟩
  · cases known

/-- A round that returns has both pumps gone. -/
theorem result?_of_ended {limit : Option Time} (ended : p.Ended limit (.ofResult result)) :
    p.result? = some result := by
  cases result with
  | ok raw => exact ended
  | error e => exact ended

/-- When both pumps are gone, the round is decided. -/
theorem decided_of_path (path : Path (RoundStep site r deadline) ⟨r.start session, w⟩ log s)
    (known : s.pumps.result? = some result) :
    Decided site r session deadline s.world.now s.pumps log result := by
  have tells := tells_of_path path
  obtain ⟨seen, pending, handed, inbound, -, halts⟩ := (standing_of_path path).2.halted
  obtain ⟨outbound, received, sender, receiver, result_eq⟩ := exists_left_of_result? known
  have halted := halts received receiver
  refine ⟨⟨outbound, received, sender, receiver, result_eq⟩, fun e => (tells.sender_iff e).symm,
    fun raw => (tells.receiver_iff raw).symm, fun inbound left => ?_, fun raw => ?_, fun own => ?_⟩
  · exact ⟨handed, _, halts inbound left⟩
  · simp only [tells.receiver_iff, tells.sender_iff, sender, receiver]
    cases outbound with
    | error e => simp [result_eq]
    | ok => simp [result_eq]
  · cases outbound with
    | error e =>
        obtain rfl : e = aborted := by simpa [result_eq] using own
        exact ((tells.sender_iff _).2 sender).raised
    | ok =>
        have sound (e : Error) : ¬OutboundFails site r session log e := by
          rw [tells.sender_iff, sender]
          nofun
        obtain rfl : received = .error aborted := result_eq.symm.trans own
        refine raised_of_halt sound (fun a mem e refuses => ?_) halted
        rw [← refuses]
        exact inbound.mem_of_handed mem

/-- A receiver that has not begun when the sender has failed is barred. -/
theorem barred_of_path (path : Path (RoundStep site r deadline) ⟨r.start session, w⟩ log s)
    (failed : s.pumps.senderFailed = true) (starting : s.pumps.receiver = .starting) :
    Barred s.pumps := by
  have there : s.pumps.receiverLeft = false := by
    rw [Pumps.receiverLeft, starting]
  exact ⟨failed, .inl ⟨starting, (signalled_of_path path).failed failed there⟩⟩

theorem orderly (site : Site ε ρ σ) (r : Round) (session : Session) (w : World ε ρ σ) :
    Orderly site r session w where
  leads _ path := signal_leads path
  over_iff path := (signalled_of_path path).over_iff
  sees {log s} path there := by
    have signalled := signalled_of_path path
    refine ⟨fun known => ?_, fun failed => signalled.failed failed there⟩
    have terminal : s.pumps.signal.isTerminal = true := by
      rw [known]
      rfl
    rcases signalled.over_iff.1 terminal with failed | left
    · exact failed
    · rw [left] at there
      cases there
  barred path failed starting path' :=
    (untouched_of_path path starting).append
      (untouched_of_barred (barred_of_path path failed starting) path')
  untouched path first := ((heeds_of_path path).barred first).1
  decided path known := decided_of_path path known

/-- Whatever the order in which the pumps have their turns, a round is in order; and a run of it is
such a round, so that what it returns has been decided by its pumps. -/
theorem run_decides (site : Site ε ρ σ) (r : Round) (session : Session) (limit : Option Time)
    (w : World ε ρ σ) :
    Orderly site r session w ∧
    ∃ log p, Reaches site r session w log ⟨p, (r.run site session limit w).2⟩ ∧
      w.Since (r.run site session limit w).2 log ∧
      ∀ result, (r.run site session limit w).1 = .ofResult result →
        Decided site r session (w.now + r.deadline) (r.run site session limit w).2.now p log
          result := by
  obtain ⟨log, p, path, ended⟩ := run_path site r session limit w
  refine ⟨orderly site r session w, log, p, path, since_of_path path, fun result returns => ?_⟩
  rw [returns] at ended
  exact decided_of_path path (result?_of_ended ended)

end Round

end QuorumVault
