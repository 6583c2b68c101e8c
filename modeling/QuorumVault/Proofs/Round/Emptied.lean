/-
A round leaves no message of its engine behind.

The sender stops asking for messages only when the receiver has left, and the last thing that
happens in a round is that the engine says it has none.  Many engines hold the messages they
have yet to give out in a queue, to which they add when they are handed one.  The queue of such an
engine is empty when the round returns, and all that was ever in it was offered at every place of
the committee.  A member whom the engine names at two places gets the message twice.
-/
import QuorumVault.Proofs.Rehearsal.Exchange
import QuorumVault.Proofs.Round.Offers

namespace QuorumVault

/-! ### Engines with a queue -/

/-- The call is one of a round in a session. -/
def Engine.Call.Works (handle : Engine.Handle) : Engine.Call → Prop
  | .output h | .receiver h _ _ | .input h _ | .finish h => h = handle
  | .openKeygen .. | .openSign .. | .free _ => False

/-- The engine holds the messages of a session that it has yet to give out in a queue. -/
structure Queues {ε : Type} (engine : Engine ε) (handle : Engine.Handle) (queue : ε → List Bytes) :
    Prop where
  /-- A message that it gives out is the first of the queue. -/
  pops : ∀ {s s' message}, engine.call s (.output handle) = (.ok (some message), s') →
    queue s = message :: queue s'
  empty : ∀ {s s'}, engine.call s (.output handle) = (.ok none, s') → queue s = [] ∧ queue s' = []
  /-- It may add to the queue when it is handed a message. -/
  grows : ∀ {s s' message answer}, engine.call s (.input handle message) = (answer, s') →
    ∃ more, queue s' = queue s ++ more
  receiver : ∀ {s s' message place answer},
    engine.call s (.receiver handle message place) = (answer, s') → queue s' = queue s
  finish : ∀ {s s' answer}, engine.call s (.finish handle) = (answer, s') → queue s' = queue s

/-- The calls to the engine of a family, in order. -/
def callsTo (family : Family) (log : List Event) : List Engine.Call :=
  log.filterMap fun
    | .engine f c _ => if f = family then some c else none
    | _ => none

/-- The messages that are added to the queue when the engine serves a call. -/
def addedBy {ε : Type} (engine : Engine ε) (queue : ε → List Bytes) (s : ε) : Engine.Call → List Bytes
  | .input handle message => (queue (engine.call s (.input handle message)).2).drop (queue s).length
  | _ => []

/-- The messages that are added to the queue while the engine serves some calls. -/
def queuedBy {ε : Type} (engine : Engine ε) (queue : ε → List Bytes) : ε → List Engine.Call → List Bytes
  | _, [] => []
  | s, c :: rest => addedBy engine queue s c ++ queuedBy engine queue (engine.call s c).2 rest

/-- The engine goes from one state to another while a log is made, and no call is to it but those of a
round in the session. -/
inductive Evolves {ε : Type} (engine : Engine ε) (session : Session) : ε → List Event → ε → Prop
  | nil (s) : Evolves engine session s [] s
  | call {s s₁ s' c answer log} (works : c.Works session.handle)
      (serves : engine.call s c = (answer, s₁)) (rest : Evolves engine session s₁ log s') :
      Evolves engine session s (.engine session.family c answer :: log) s'
  | passes {s s' e log} (other : ∀ family c answer, e ≠ .engine family c answer)
      (rest : Evolves engine session s log s') : Evolves engine session s (e :: log) s'

namespace Evolves

variable {ε : Type} {engine : Engine ε} {session : Session} {s s' s'' : ε} {log log' : List Event}

theorem trans (h : Evolves engine session s log s') (h' : Evolves engine session s' log' s'') :
    Evolves engine session s (log ++ log') s'' := by
  induction h with
  | nil => exact h'
  | call works serves rest ih => exact .call works serves (ih h')
  | passes other rest ih => exact .passes other (ih h')

/-- The last thing that happens is that the engine serves a call. -/
theorem last {family : Family} {c : Engine.Call} {answer : Except Error c.Answer}
    (h : Evolves engine session s (log ++ [.engine family c answer]) s') :
    ∃ s₁, engine.call s₁ c = (answer, s') := by
  generalize all_eq : log ++ [.engine family c answer] = all at h
  induction h generalizing log with
  | nil => simp at all_eq
  | call works serves rest ih =>
      cases log with
      | nil =>
          cases all_eq
          cases rest
          exact ⟨_, serves⟩
      | cons e log => exact ih (List.cons.inj all_eq).2
  | passes other rest ih =>
      cases log with
      | nil => exact absurd (List.cons.inj all_eq).1.symm (other _ _ _)
      | cons e log => exact ih (List.cons.inj all_eq).2

/-- Unless the engine fails to give a message, what was in its queue and what was added is what it has
given out and what is still there. -/
theorem queue_eq {queue : ε → List Bytes} (queues : Queues engine session.handle queue)
    (h : Evolves engine session s log s')
    (sound : ∀ e, .engine session.family (.output session.handle) (.error e) ∉ log) :
    queue s ++ queuedBy engine queue s (callsTo session.family log) = emitted log ++ queue s' := by
  induction h with
  | nil s => simp [queuedBy, callsTo]
  | @passes s s' e log other rest ih =>
      have quiet : emitted (e :: log) = emitted log ∧
          callsTo session.family (e :: log) = callsTo session.family log := by
        cases e with
        | engine family c answer => exact absurd rfl (other family c answer)
        | query | asked | answered | storing | stored | noted | queued | attempt => exact ⟨rfl, rfl⟩
      rw [quiet.1, quiet.2]
      exact ih fun e mem => sound e (List.mem_cons_of_mem _ mem)
  | @call s s₁ s' c answer log works serves rest ih =>
      have ih := ih fun e mem => sound e (List.mem_cons_of_mem _ mem)
      have calls : callsTo session.family (.engine session.family c answer :: log) =
          c :: callsTo session.family log := by
        simp [callsTo]
      have next : (engine.call s c).2 = s₁ := congrArg Prod.snd serves
      rw [calls, queuedBy, next]
      cases c with
      | openKeygen | openSign | free => cases works
      | output handle =>
          obtain rfl : handle = session.handle := works
          match answer with
          | .error e => exact absurd List.mem_cons_self (sound e)
          | .ok none =>
              obtain ⟨before, after⟩ := queues.empty serves
              rw [after] at ih
              rw [before]
              exact ih
          | .ok (some message) =>
              rw [queues.pops serves]
              exact congrArg (message :: ·) ih
      | receiver handle message place =>
          obtain rfl : handle = session.handle := works
          rw [queues.receiver serves] at ih
          exact ih
      | finish handle =>
          obtain rfl : handle = session.handle := works
          rw [queues.finish serves] at ih
          exact ih
      | input handle message =>
          obtain rfl : handle = session.handle := works
          obtain ⟨more, added⟩ := queues.grows serves
          rw [addedBy, next, added, List.drop_left, ← List.append_assoc, ← added]
          exact ih

end Evolves

theorem World.engines_askRelay {ε ρ σ : Type} {site : Site ε ρ σ} {c : Relay.Call}
    {took : Option Duration} {answer : Except Error c.Answer} {w w' : World ε ρ σ}
    (h : w.askRelay site c = (took, answer, w')) : w'.engines = w.engines := by
  cases h
  rfl

namespace Round

variable {ε ρ σ : Type} {site : Site ε ρ σ} {r : Round} {session : Session} {deadline : Time}
  {log log' : List Event}

/-! ### The engine of a round -/

/-- A call in the session is served. -/
theorem evolves_callEngine {w w' : World ε ρ σ} {p : Pumps} {c : Engine.Call}
    {answer : Except Error c.Answer} (family : p.session.family = session.family)
    (call : w.callEngine site p.session.family c = (answer, w')) (works : c.Works session.handle) :
    Evolves (site.engine session.family) session (w.engines session.family)
      [.engine p.session.family c answer] (w'.engines session.family) := by
  rw [family] at call ⊢
  have serves : (site.engine session.family).call (w.engines session.family) c =
      (answer, w'.engines session.family) := by
    cases call
    simp [World.record]
  exact .call works serves (.nil _)

/-- Nothing that is no call changes the engine. -/
theorem evolves_passes {s : ε} (others : ∀ e ∈ log, ∀ family c answer, e ≠ .engine family c answer) :
    Evolves (site.engine session.family) session s log s := by
  induction log with
  | nil => exact .nil _
  | cons e rest ih =>
      exact .passes (others e List.mem_cons_self) (ih fun e mem => others e (List.mem_cons_of_mem _ mem))

theorem SenderMove.evolves {s s' : SenderAt ε ρ σ}
    (family : s.pumps.session.family = session.family)
    (handle : s.pumps.session.handle = session.handle) (move : SenderMove site r s log s') :
    Evolves (site.engine session.family) session (s.world.engines session.family) log
      (s'.world.engines session.family) := by
  cases move with
  | outputFails _ call | lingers _ call | quits _ call | pauses _ call | unsealable _ call
  | receiverFails call | skips call => exact evolves_callEngine family call handle
  | seals _ call =>
      have served := evolves_callEngine family call handle
      exact served
  | uploads call _ ask =>
      rw [World.engines_askRelay ask]
      exact (evolves_callEngine family call handle).trans (evolves_passes (by simp))
  | delivered | uploadWaits | uploadResumes | leaves => exact .nil _
  | uploaded => exact evolves_passes (by simp)

theorem ReceiverMove.evolves {s s' : ReceiverAt ε ρ σ}
    (family : s.pumps.session.family = session.family)
    (handle : s.pumps.session.handle = session.handle)
    (move : ReceiverMove site r deadline s log s') :
    Evolves (site.engine session.family) session (s.world.engines session.family) log
      (s'.world.engines session.family) := by
  cases move with
  | refused _ _ call | finishes _ call => exact evolves_callEngine family call handle
  | applies _ _ call ask =>
      rw [World.engines_askRelay ask]
      exact (evolves_callEngine family call handle).trans (evolves_passes (by simp))
  | asks _ _ ask =>
      rw [World.engines_askRelay ask]
      exact evolves_passes (by simp)
  | fetchFails | fetched | goesOn | hasAll => exact evolves_passes (by simp)
  | begins | aborts | fetchWaits | fetchResumes | pauses | passesOver | unreadable | clearWaits
  | clearResumes | finishedTwice | timesOut => exact .nil _

theorem evolves_of_path {w : World ε ρ σ} {s : RoundAt ε ρ σ}
    (path : Path (RoundStep site r deadline) ⟨r.start session, w⟩ log s) :
    Evolves (site.engine session.family) session (w.engines session.family) log
      (s.world.engines session.family) :=
  keeps_of_path path
    (I := fun s log => Evolves (site.engine session.family) session (w.engines session.family) log
      (s.world.engines session.family))
    (S := fun s log => Evolves (site.engine session.family) session (w.engines session.family) log
      (s.world.engines session.family))
    (R := fun s log => Evolves (site.engine session.family) session (w.engines session.family) log
      (s.world.engines session.family))
    (.nil _)
    (fun _ h => h)
    (fun _ _ _ h => h)
    id id
    (fun _ _ tells h move => h.trans (move.evolves tells.family_eq tells.handle_eq))
    id id
    (fun _ _ tells h move => h.trans (move.evolves tells.family_eq tells.handle_eq))

/-! ### The last call of a round -/

/-- The sender has asked for its last message. -/
def Pumps.senderDone (p : Pumps) : Bool :=
  match p.sender with
  | .lingering _ | .left (.ok ()) => true
  | .asking | .uploading .. | .pausing _ | .left (.error _) => false

/-- The engine has no message. -/
abbrev silenceEvent (session : Session) : Event :=
  .engine session.family (.output session.handle) (.ok none)

/-- When the sender has asked for its last message, the receiver has left, and nothing has happened
since. -/
def Closed (session : Session) (p : Pumps) (log : List Event) : Prop :=
  p.senderDone = true → p.receiverLeft = true ∧ ∃ before, log = before ++ [silenceEvent session]

theorem Pumps.senderDone_of_asksOutput {p : Pumps} (asks : p.asksOutput = true) :
    p.senderDone = false := by
  unfold Pumps.asksOutput at asks
  unfold Pumps.senderDone
  cases hs : p.sender <;> simp_all

/-- A sender that sees that the round is over sees that the receiver has left. -/
theorem Signalled.left {p : Pumps} (h : Signalled p) (asks : p.asksOutput = true)
    (terminal : p.signal.isTerminal = true) : p.receiverLeft = true := by
  have unfailed := Pumps.senderFailed_of_there (Pumps.senderLeft_of_asksOutput asks)
  rcases h.over_iff.1 terminal with failed | left
  · rw [unfailed] at failed
    cases failed
  · exact left

theorem SenderMove.closed {s s' : SenderAt ε ρ σ} (signalled : Signalled s.pumps)
    (tells : Tells site r session s.pumps log)
    (h : (s.doing ≠ .idle → s.pumps.senderDone = false) ∧ Closed session s.pumps log)
    (move : SenderMove site r s log' s') :
    (s'.doing ≠ .idle → s'.pumps.senderDone = false) ∧ Closed session s'.pumps (log ++ log') := by
  have silence : Event.engine s.pumps.session.family s.pumps.outputCall (.ok none) =
      silenceEvent session := by
    unfold Pumps.outputCall silenceEvent
    rw [tells.family_eq, tells.handle_eq]
  have still (unfinished : s.pumps.senderDone = false) : Closed session s.pumps (log ++ log') := by
    intro done
    rw [unfinished] at done
    cases done
  cases move with
  | outputFails | unsealable | receiverFails | delivered | uploadWaits =>
      exact ⟨nofun, nofun⟩
  | lingers asks call signal =>
      exact ⟨nofun, fun _ => ⟨signalled.left asks (by rw [signal]; rfl), log, by rw [← silence]⟩⟩
  | quits asks call signal =>
      refine ⟨nofun, fun _ => ⟨signalled.left asks ?_, log, by rw [← silence]⟩⟩
      rcases signal with signal | signal
      · rw [signal]
        rfl
      · rw [signal]
        rfl
  | pauses asks =>
      unfold Pumps.senderPauses
      split <;> exact ⟨nofun, nofun⟩
  | seals asks =>
      have unfinished := Pumps.senderDone_of_asksOutput asks
      exact ⟨fun _ => unfinished, still unfinished⟩
  | skips | uploads | uploaded =>
      have unfinished := h.1 nofun
      exact ⟨fun _ => unfinished, still unfinished⟩
  | @uploadResumes p w message body places envelope answer ready waiting =>
      have unfinished : p.senderDone = false := by
        rw [Pumps.senderDone, waiting]
      exact ⟨fun _ => unfinished, still unfinished⟩
  | @leaves p w ready lingering =>
      have done : p.senderDone = true := by
        rw [Pumps.senderDone, lingering]
      rw [List.append_nil]
      exact ⟨nofun, fun _ => h.2 done⟩

theorem ReceiverMove.closed {s s' : ReceiverAt ε ρ σ} (waits : s.doing.Waits s.pumps)
    (h : Closed session s.pumps log) (move : ReceiverMove site r deadline s log' s') :
    Closed session s'.pumps (log ++ log') := by
  intro done
  have before : s.pumps.senderDone = true := by
    unfold Pumps.senderDone at done ⊢
    rwa [move.frame.1] at done
  have there := move.there waits
  rw [(h before).1] at there
  cases there

theorem closed_of_path {w : World ε ρ σ} {s : RoundAt ε ρ σ}
    (path : Path (RoundStep site r deadline) ⟨r.start session, w⟩ log s) :
    Closed session s.pumps log :=
  keeps_of_path path
    (I := fun s log => Closed session s.pumps log)
    (S := fun s log => (s.doing ≠ .idle → s.pumps.senderDone = false) ∧ Closed session s.pumps log)
    (R := fun s log => Closed session s.pumps log)
    nofun
    (fun _ h => h)
    (fun now later pump h => by simpa [Closed, Pumps.senderDone, Pumps.receiverLeft] using h)
    (fun h => ⟨nofun, h⟩)
    (fun h => h.2)
    (fun _ signalled tells h move => move.closed signalled tells h)
    id id
    (fun waits _ _ h move => move.closed waits h)

/-! ### Rounds -/

/-- A round that returns without a failure of its sender leaves nothing behind. -/
structure LeavesNothing (site : Site ε ρ σ) (r : Round) (session : Session) (w w' : World ε ρ σ)
    (log : List Event) (offered : List Offered) : Prop where
  last : ∃ before, log = before ++ [silenceEvent session]
  offers : Offers site r session w.sealings log offered
  /-- Nobody gets a message more or less often than the engine names them for it. -/
  once : ∀ a ∈ offered, ∀ who, who ≠ "" →
    (a.postings r session).count (.offered r.party [who] a.body r.scope) = a.named.count (some who)
  queue_nil : ∀ queue, Queues (site.engine session.family) session.handle queue →
    queue (w'.engines session.family) = []
  /-- All that ever was in the queue was offered, each message once and in order. -/
  queued : ∀ queue, Queues (site.engine session.family) session.handle queue →
    queue (w.engines session.family) ++ queuedBy (site.engine session.family) queue
      (w.engines session.family) (callsTo session.family log) = offered.map (·.message)

theorem leavesNothing_of_path {w : World ε ρ σ} {s : RoundAt ε ρ σ} {result : Except Error Bytes}
    (path : Path (RoundStep site r deadline) ⟨r.start session, w⟩ log s)
    (known : s.pumps.result? = some result)
    (sound : ∀ e, ¬OutboundFails site r session log e) :
    ∃ offered, LeavesNothing site r session w s.world log offered := by
  obtain ⟨outbound, inbound, sender, -, -⟩ := exists_left_of_result? known
  obtain rfl : outbound = .ok () := by
    cases outbound with
    | ok => rfl
    | error e => exact absurd (((tells_of_path path).sender_iff e).2 sender) (sound e)
  have done : s.pumps.senderDone = true := by
    rw [Pumps.senderDone, sender]
  obtain ⟨-, before, rfl⟩ := closed_of_path path done
  have offers := offers_of_path path
  rw [sender] at offers
  obtain ⟨offered, offers, -⟩ := offers
  have evolves := evolves_of_path path
  have queue_nil (queue) (queues : Queues (site.engine session.family) session.handle queue) :
      queue (s.world.engines session.family) = [] := by
    obtain ⟨s₁, call⟩ := evolves.last
    exact (queues.empty call).2
  refine ⟨offered, ⟨before, rfl⟩, offers, fun a _ who somebody => a.count_offered somebody, queue_nil,
    fun queue queues => ?_⟩
  have flows := evolves.queue_eq queues fun e mem => sound e (.output mem)
  rw [queue_nil queue queues, List.append_nil, offers.emitted_eq] at flows
  exact flows

/-- Whatever the order in which the pumps have their turns, a round that returns without a failure of
its sender leaves no message behind; and a run of a round is one of these. -/
theorem run_leaves_nothing (site : Site ε ρ σ) (r : Round) (session : Session) (limit : Option Time)
    (w : World ε ρ σ) :
    (∀ log s result, Reaches site r session w log s → s.pumps.result? = some result →
      (∀ e, ¬OutboundFails site r session log e) →
        ∃ offered, LeavesNothing site r session w s.world log offered) ∧
    ∃ log, w.Since (r.run site session limit w).2 log ∧
      ∀ result, (r.run site session limit w).1 = .ofResult result →
        (∀ e, ¬OutboundFails site r session log e) →
          ∃ offered, LeavesNothing site r session w (r.run site session limit w).2 log offered := by
  refine ⟨fun log s result path known sound => leavesNothing_of_path path known sound, ?_⟩
  obtain ⟨log, p, path, ended⟩ := run_path site r session limit w
  refine ⟨log, since_of_path path, fun result returns sound => ?_⟩
  rw [returns] at ended
  exact leavesNothing_of_path path (result?_of_ended ended) sound

end Round

/-! ### The device's round -/

/-- The device's engine has a queue. -/
theorem Exchange.queues (p : Exchange) : Queues (p.site.engine .ecdsa) 1 Exchange.Holding.queue where
  pops {s s' message} serves := by
    rcases s with ⟨_ | ⟨m, rest⟩, inputs⟩ <;> cases serves
    rfl
  empty {s s'} serves := by
    rcases s with ⟨_ | ⟨m, rest⟩, inputs⟩ <;> cases serves
    exact ⟨rfl, rfl⟩
  grows {s s' message answer} serves := by
    rcases s with ⟨queue, _ | _ | inputs⟩ <;> cases serves
    · exact ⟨[], (List.append_nil _).symm⟩
    · exact ⟨[[]], rfl⟩
    · exact ⟨[], (List.append_nil _).symm⟩
  receiver serves := by
    cases serves
    rfl
  finish serves := by
    cases serves
    rfl

/-- The device's sender does not fail. -/
theorem Exchange.sound (p : Exchange) (e : Error) :
    ¬Round.OutboundFails p.site p.round Exchange.session p.log e := by
  intro fails
  cases fails with
  | output h =>
      simp [log, giving, posting, silence, taking, handing] at h
  | receiver h =>
      simp [log, giving, posting, silence, taking, handing] at h
  | unsealable h sealed => exact Sealing.encode_ne_error (p.sealed 0) sealed

/-- The device's round leaves nothing behind, not even the message that its engine has ready only when
the receiver is about to leave. -/
theorem Round.run_leaves_nothing_exchange :
    let p : Exchange :=
      .ofKey ⟨List.replicate 32 0, rfl⟩ (fun number => Vector.replicate 12 (.ofNat number)) 0
    ∃ w' log offered,
      p.round.run p.site Exchange.session none Exchange.start = (.ofResult (.ok []), w') ∧
      Exchange.start.Since w' log ∧
      (∀ e, ¬Round.OutboundFails p.site p.round Exchange.session log e) ∧
      Queues (p.site.engine .ecdsa) 1 Exchange.Holding.queue ∧
      Round.LeavesNothing p.site p.round Exchange.session Exchange.start w' log offered := by
  intro p
  obtain ⟨w', ends, since, -⟩ := p.run_eq
  obtain ⟨log, since', leaves⟩ :=
    (Round.run_leaves_nothing p.site p.round Exchange.session none Exchange.start).2
  rw [ends] at since' leaves
  obtain rfl := since'.unique since
  obtain ⟨offered, nothing⟩ := leaves (.ok []) rfl p.sound
  exact ⟨w', p.log, offered, ends, since, p.sound, p.queues, nothing⟩

/-- A member whom the engine names at two places gets a message twice: the one that is in the queue of
the device's engine when the round begins is left on the relay two times for the server. -/
theorem Round.run_offers_twice :
    let p : Exchange :=
      .ofKey ⟨List.replicate 32 0, rfl⟩ (fun number => Vector.replicate 12 (.ofNat number)) 0
    ∃ w' log rest, p.round.run p.site Exchange.session none Exchange.start = (.done [], w') ∧
      Exchange.start.Since w' log ∧ Queues (p.site.engine .ecdsa) 1 Exchange.Holding.queue ∧
      Exchange.Holding.queue (Exchange.start.engines .ecdsa) = [[]] ∧
      postings log = [
        .given .ecdsa 1 [],
        .named .ecdsa 1 [] 0 (some "server"), .offered "device" ["server"] (p.body 0) none,
        .named .ecdsa 1 [] 1 (some "server"), .offered "device" ["server"] (p.body 0) none] ++ rest := by
  intro p
  obtain ⟨w', ends, since, -⟩ := p.run_eq
  exact ⟨w', p.log, _, ends, since, p.queues, rfl, rfl⟩

end QuorumVault
