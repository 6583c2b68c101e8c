/-
How long a round takes.

The two pumps stop each other only through the signal, and each of them looks at it when
its own pause is over.  So a round is told by one moment, the last one at which the
receiver was there.  As long as it is there that moment is now, and not after the
deadline; from then on the sender wakes within one pause, finds the signal, and stays at
most for the grace after it.  `InTime` says this of every state of a round.

That the round ends at all is counted: every turn either brings a message of the engine
or leaves less time to wait, and pauses are not empty.
-/
import QuorumVault.Proofs.Round.Turns

namespace QuorumVault

namespace Round

variable {ε ρ σ : Type} {site : Site ε ρ σ} {r : Round} {session : Session}
  {deadline last now t : Time} {before : Trace} {p p' : Pumps} {w w' : World ε ρ σ}
  {log : List Event} {pump : Pump}

/-! ### The invariant -/

/-- The demand for the result, with its answer. -/
def demand (session : Session) (answer : Except Error Bytes) : Event :=
  .engine session.family (.finish session.handle) answer

theorem demand_congr {session' : Session}
    (same : session'.family = session.family ∧ session'.handle = session.handle)
    (answer : Except Error Bytes) : demand session' answer = demand session answer := by
  obtain ⟨family, handle, finished⟩ := session
  obtain ⟨family', handle', finished'⟩ := session'
  obtain ⟨rfl, rfl⟩ := same
  rfl

/-- What the signal says, as long as the sender has not failed. -/
def Receiver.Signals (signal : RoundState) : Receiver → Prop
  | .left (.ok _) => signal = .finished
  | .left (.error _) => signal = .timedOut ∨ signal = .failed
  | .starting | .asking | .pausing _ | .downloading .. | .deleting .. => signal.isTerminal = false

/-- What was demanded, given what was before. -/
def Receiver.Demands (session : Session) (last : Time) (before demands : Trace) : Receiver → Prop
  | .left (.ok raw) => demands = (last, demand session (.ok raw)) :: before
  | .left (.error e) => demands = before ∨ demands = (last, demand session (.error e)) :: before
  | .starting | .asking | .pausing _ | .downloading .. | .deleting .. => demands = before

/-- The receiver does not sleep past its time. -/
def Receiver.Waits (now : Time) : Receiver → Prop
  | .pausing t => now ≤ t
  | .downloading _ ready => ∀ t, ready = some t → now ≤ t
  | .starting | .left _ => True
  | .asking | .deleting .. => False

/-- Neither does the sender, and it is not late. -/
def Sender.Waits (r : Round) (last now : Time) (receiver : Receiver) : Sender → Prop
  | .asking => now ≤ last + r.pollInterval.pause
  | .pausing t => now ≤ t ∧ t ≤ last + r.pollInterval.pause
  | .lingering t => now ≤ t ∧ last + r.outboundGrace.pause ≤ t ∧
      t ≤ last + r.pollInterval.pause + r.outboundGrace.pause ∧ ∃ raw, receiver = .left (.ok raw)
  | .left (.ok ()) =>
      (∃ raw, receiver = .left (.ok raw)) ∧ last + r.outboundGrace.pause ≤ now ∧
        now ≤ last + r.pollInterval.pause + r.outboundGrace.pause ∨
      (∃ e, receiver = .left (.error e)) ∧ now ≤ last + r.pollInterval.pause
  | .left (.error _) => now ≤ last + r.pollInterval.pause
  | .uploading .. => False

/-- A round in time; the receiver was last there at a given moment. -/
structure InTime (r : Round) (session : Session) (deadline : Time) (before : Trace) (last : Time)
    (p : Pumps) (w : World ε ρ σ) : Prop where
  session_eq : p.session.family = session.family ∧ p.session.handle = session.handle
  past : last ≤ w.now
  there : p.receiverLeft = false → w.now = last
  early : last ≤ deadline
  signals : (∀ e, p.sender ≠ .left (.error e)) → p.receiver.Signals p.signal
  demands : p.receiver.Demands session last before w.trace.demands
  sender : p.sender.Waits r last w.now p.receiver
  receiver : p.receiver.Waits w.now
  skipped : p.skipped ≤ p.served.length
  served : p.served.Nodup

theorem inTime_start (r : Round) (session : Session) (w : World ε ρ σ) :
    InTime r session (w.now + r.deadline) w.trace.demands w.now (r.start session) w where
  session_eq := ⟨rfl, rfl⟩
  past := Nat.le_refl _
  there _ := rfl
  early := Nat.le_add_right _ _
  signals _ := rfl
  demands := rfl
  sender := Nat.le_add_right _ _
  receiver := trivial
  skipped := Nat.zero_le _
  served := by simp [start]

/-! ### What is left to do -/

/-- How many turns the sender has at most before a moment, not counting those with a message. -/
def Sender.turnsLeft (until_ now : Time) : Sender → Nat
  | .asking => until_ - now + 2
  | .pausing t => until_ - t + 2
  | .lingering _ => 1
  | .uploading .. | .left _ => 0

/-- How many turns the receiver has at most before a moment. -/
def Receiver.turnsLeft (until_ now : Time) : Receiver → Nat
  -- a look at the relay takes two turns: asking, and the answer
  | .starting | .asking => 2 * (until_ - now) + 4
  | .pausing t => 2 * (until_ - t) + 2
  | .downloading _ (some t) => 2 * (until_ - t) + 3
  | .downloading _ none => 1
  | .deleting .. | .left _ => 0

/-- How many turns there are at most, not counting those with a message. -/
def turnsLeft (r : Round) (deadline now : Time) (p : Pumps) : Nat :=
  p.sender.turnsLeft (deadline + r.pollInterval.pause) now +
    p.receiver.turnsLeft (deadline + r.pollInterval.pause) now

/-! While the receiver is there, the signal says nothing and nothing was demanded. -/

section

variable (there : p.receiverLeft = false)

include there

theorem Receiver.Signals.of_there {signal : RoundState} (h : p.receiver.Signals signal) :
    signal.isTerminal = false := by
  unfold Pumps.receiverLeft at there
  cases doing : p.receiver <;> simp_all [Receiver.Signals]

theorem Receiver.demands_iff {demands : Trace} :
    p.receiver.Demands session last before demands ↔ demands = before := by
  unfold Pumps.receiverLeft at there
  cases doing : p.receiver <;> simp_all [Receiver.Demands]

theorem Sender.Waits.of_there {sender : Sender} (h : sender.Waits r last now p.receiver)
    (receiver : Receiver) : sender.Waits r last now receiver := by
  unfold Pumps.receiverLeft at there
  unfold Sender.Waits at h ⊢
  split at h
  · exact h
  · exact h
  · obtain ⟨-, -, -, raw, left⟩ := h
    simp [left] at there
  · rcases h with ⟨⟨raw, left⟩, -⟩ | ⟨⟨e, left⟩, -⟩ <;> simp [left] at there
  · exact h
  · exact h

end

namespace InTime

theorem looks (h : InTime r session deadline before last p w) : p.skipped < mostSkipped := by
  have few : p.served.length ≤ 2 := by
    match p.served, h.served with
    | [], _ | [_], _ | [_, _], _ => simp
    | a :: b :: c :: rest, nodup => cases a <;> cases b <;> cases c <;> simp at nodup
  have skipped := h.skipped
  unfold mostSkipped
  omega

/-! ### Turns -/

/-- A turn of the sender that leaves it less to do keeps the round in time. -/
theorem sending (h : InTime r session deadline before last p w) (begun : w.AtOnce w' log)
    (undemanding : log.filter Event.isDemand = []) {sender : Sender} {signal : RoundState}
    (messenger : Messenger)
    (signals : (∀ e, sender ≠ .left (.error e)) → p.receiver.Signals signal)
    (waits : sender.Waits r last w.now p.receiver)
    (less : sender.turnsLeft (deadline + r.pollInterval.pause) w.now <
      (emitted log).length + p.sender.turnsLeft (deadline + r.pollInterval.pause) w.now) :
    InTime r session deadline before last
        { p with sender := sender, signal := signal, messenger := messenger } w' ∧
      turnsLeft r deadline w'.now
          { p with sender := sender, signal := signal, messenger := messenger } <
        (emitted log).length + turnsLeft r deadline w.now p := by
  constructor
  · constructor
    case session_eq => exact h.session_eq
    case past => exact begun.now_eq ▸ h.past
    case there => exact fun left => begun.now_eq.trans (h.there left)
    case early => exact h.early
    case signals => exact signals
    case demands =>
      rw [begun.demands_eq, undemanding]
      exact h.demands
    case sender => exact begun.now_eq ▸ waits
    case receiver => exact begun.now_eq ▸ h.receiver
    case skipped => exact h.skipped
    case served => exact h.served
  · rw [begun.now_eq]
    dsimp only [turnsLeft]
    omega

theorem receiving (h : InTime r session deadline before last p w) (there : p.receiverLeft = false)
    (begun : w.AtOnce w' log) {receiver : Receiver} {signal : RoundState} {s : Session}
    (applied : Applied) (same : s.family = p.session.family ∧ s.handle = p.session.handle)
    (signals : p.signal.isTerminal = false → receiver.Signals signal)
    (waits : receiver.Waits w.now)
    (demands : receiver.Demands session w.now before
      (((log.filter Event.isDemand).map (w.now, ·)).reverse ++ before))
    (less : receiver.turnsLeft (deadline + r.pollInterval.pause) w.now <
      p.receiver.turnsLeft (deadline + r.pollInterval.pause) w.now) :
    InTime r session deadline before last
        { p with session := s, signal := signal, applied := applied, receiver := receiver } w' ∧
      turnsLeft r deadline w'.now
          { p with session := s, signal := signal, applied := applied, receiver := receiver } <
        turnsLeft r deadline w.now p := by
  constructor
  · constructor
    case session_eq => exact ⟨same.1.trans h.session_eq.1, same.2.trans h.session_eq.2⟩
    case past => exact begun.now_eq ▸ h.past
    case there => exact fun _ => begun.now_eq.trans (h.there there)
    case early => exact h.early
    case signals =>
      exact fun unfailed => signals (Receiver.Signals.of_there there (h.signals unfailed))
    case demands =>
      rw [begun.demands_eq, (Receiver.demands_iff there).1 h.demands, ← h.there there]
      exact demands
    case sender => exact begun.now_eq ▸ Sender.Waits.of_there there h.sender receiver
    case receiver => exact begun.now_eq ▸ waits
    case skipped => exact h.skipped
    case served => exact h.served
  · rw [begun.now_eq]
    dsimp only [turnsLeft]
    omega

end InTime

/-! ### What the signal tells the sender -/

section

variable {receiver : Receiver} {signal : RoundState}

theorem Receiver.Signals.done (h : receiver.Signals signal) (finished : signal = .finished) :
    ∃ raw, receiver = .left (.ok raw) := by
  subst finished
  unfold Receiver.Signals at h
  split at h
  · exact ⟨_, rfl⟩
  all_goals simp [RoundState.isTerminal] at h

theorem Receiver.Signals.failed (h : receiver.Signals signal)
    (lost : signal = .timedOut ∨ signal = .failed) : ∃ e, receiver = .left (.error e) := by
  unfold Receiver.Signals at h
  split at h
  · rcases lost with rfl | rfl <;> cases h
  · exact ⟨_, rfl⟩
  all_goals rcases lost with rfl | rfl <;> cases h

theorem Receiver.Signals.there (h : p.receiver.Signals signal) (open_ : signal.isTerminal = false) :
    p.receiverLeft = false := by
  unfold Receiver.Signals at h
  unfold Pumps.receiverLeft
  split at h
  · rw [h] at open_
    cases open_
  · rcases h with rfl | rfl <;> cases open_
  all_goals next doing => rw [doing]

end

theorem pause_pos {d : Duration} (h : d ≠ 0) : 0 < d.pause :=
  Nat.lt_min.2 ⟨Nat.pos_of_ne_zero h, by decide⟩

namespace InTime

/-- A sender that asks the engine for a message stays in time, and comes closer to its end unless
there is a message. -/
theorem askOutput (h : InTime r session deadline before last p w) (swift : Swift site)
    (pauses : r.pollInterval ≠ 0) (soon : w.now ≤ last + r.pollInterval.pause)
    (unfailed : ∀ e, p.sender ≠ .left (.error e))
    (left : p.sender.turnsLeft (deadline + r.pollInterval.pause) w.now =
      deadline + r.pollInterval.pause - w.now + 2) :
    ∃ log, w.Since (Round.askOutput site r p w).2 log ∧
      InTime r session deadline before last (Round.askOutput site r p w).1
        (Round.askOutput site r p w).2 ∧
      turnsLeft r deadline (Round.askOutput site r p w).2.now (Round.askOutput site r p w).1 <
        (emitted log).length + turnsLeft r deadline w.now p := by
  obtain ⟨log, begun, undemanding, turn⟩ := askOutput_turn swift pauses p w
  refine ⟨log, begun.since, ?_⟩
  have signals := h.signals unfailed
  generalize given_eq : (emitted log).length = given at turn
  generalize (Round.askOutput site r p w).1 = p' at turn
  rw [← given_eq]
  cases turn with
  | sends messenger =>
      refine h.sending begun undemanding messenger (fun _ => signals) soon ?_
      rw [left, given_eq]
      exact Nat.lt_add_of_pos_left Nat.one_pos
  | fails given messenger e =>
      refine h.sending begun undemanding messenger (fun failed => absurd rfl (failed e)) soon ?_
      rw [left]
      exact Nat.succ_pos _
  | lingers signal =>
      obtain ⟨raw, done⟩ := signals.done signal
      have waits : (Sender.lingering (w.now + r.outboundGrace.pause)).Waits r last w.now p.receiver :=
        ⟨Nat.le_add_right _ _, Nat.add_le_add_right h.past _, Nat.add_le_add_right soon _, raw, done⟩
      refine h.sending begun undemanding p.messenger (fun _ => signals) waits ?_
      rw [left]
      exact Nat.succ_lt_succ (Nat.succ_pos _)
  | quits signal =>
      obtain ⟨e, failed⟩ := signals.failed signal
      have waits : (Sender.left (.ok ())).Waits r last w.now p.receiver := .inr ⟨⟨e, failed⟩, soon⟩
      refine h.sending begun undemanding p.messenger (fun _ => signals) waits ?_
      rw [left]
      exact Nat.succ_pos _
  | pauses signal =>
      have now := h.there (signals.there signal)
      have early := h.early
      have pos := pause_pos pauses
      have waits : (Sender.pausing (w.now + r.pollInterval.pause)).Waits r last w.now p.receiver :=
        ⟨Nat.le_add_right _ _, Nat.le_of_eq (congrArg (· + _) now)⟩
      refine h.sending begun undemanding p.messenger (fun _ => signals) waits ?_
      rw [left]
      show deadline + r.pollInterval.pause - (w.now + r.pollInterval.pause) + 2 < _
      unfold Time Duration at *
      omega

/-- A sender whose turn comes stays in time, and comes closer to its end unless there is a message. -/
theorem senderTurn (h : InTime r session deadline before last p w) (swift : Swift site)
    (pauses : r.pollInterval ≠ 0) (due : p.senderReady = true ∨ p.senderWake = some w.now) :
    ∃ log, w.Since (Round.senderTurn site r p w).2 log ∧
      InTime r session deadline before last (Round.senderTurn site r p w).1
        (Round.senderTurn site r p w).2 ∧
      turnsLeft r deadline (Round.senderTurn site r p w).2.now (Round.senderTurn site r p w).1 <
        (emitted log).length + turnsLeft r deadline w.now p := by
  have waits := h.sender
  unfold Pumps.senderReady Pumps.senderWake at due
  unfold Round.senderTurn
  cases doing : p.sender with
  | asking =>
      rw [doing] at waits
      exact h.askOutput swift pauses waits (by simp [doing]) (by rw [doing]; rfl)
  | pausing t =>
      rw [doing] at waits due
      obtain rfl : t = w.now := by simpa using due
      exact h.askOutput swift pauses waits.2 (by simp [doing]) (by rw [doing]; rfl)
  | uploading =>
      rw [doing] at waits
      exact waits.elim
  | lingering t =>
      rw [doing] at waits due
      obtain rfl : t = w.now := by simpa using due
      obtain ⟨-, stayed, soon, raw, done⟩ := waits
      have gone : (Sender.left (.ok ())).Waits r last w.now p.receiver :=
        .inl ⟨⟨raw, done⟩, stayed, soon⟩
      have unfailed : ∀ e, p.sender ≠ .left (.error e) := by simp [doing]
      refine ⟨[], .refl w, h.sending (.refl w) rfl p.messenger (fun _ => h.signals unfailed) gone ?_⟩
      rw [doing]
      exact Nat.one_pos
  | left result => simp [doing] at due

/-- The receiver has a turn left, and two pauses' time if its time comes of itself. -/
theorem receiver_turnsLeft (h : InTime r session deadline before last p w)
    (there : p.receiverLeft = false) (until_ : Time) :
    0 < p.receiver.turnsLeft until_ w.now ∧ (p.receiverAwake w.now = true →
      2 * (until_ - w.now) + 2 ≤ p.receiver.turnsLeft until_ w.now) := by
  have waits := h.receiver
  unfold Pumps.receiverLeft at there
  unfold Pumps.receiverAwake Pumps.receiverReady Pumps.receiverWake
  cases doing : p.receiver with
  | starting => exact ⟨Nat.succ_pos _, fun _ => Nat.add_le_add_left (by decide) _⟩
  | asking | deleting =>
      rw [doing] at waits
      exact waits.elim
  | left => simp [doing] at there
  | pausing t =>
      rw [doing] at waits
      refine ⟨Nat.succ_pos _, fun awake => ?_⟩
      obtain rfl : t = w.now := Nat.le_antisymm (by simpa using awake) waits
      exact Nat.le_refl _
  | downloading answer ready =>
      rw [doing] at waits
      cases ready with
      | none => exact ⟨Nat.succ_pos _, by simp⟩
      | some t =>
          refine ⟨Nat.succ_pos _, fun awake => ?_⟩
          obtain rfl : t = w.now := Nat.le_antisymm (by simpa using awake) (waits t rfl)
          exact Nat.le_succ _

theorem receiverTurn (h : InTime r session deadline before last p w) (swift : Swift site)
    (pauses : r.pollInterval ≠ 0) (there : p.receiverLeft = false)
    (due : p.receiverAwake w.now = true ∨ deadline ≤ w.now) :
    ∃ log, w.Since (Round.receiverTurn site r deadline p w).2 log ∧
      InTime r session deadline before last (Round.receiverTurn site r deadline p w).1
        (Round.receiverTurn site r deadline p w).2 ∧
      turnsLeft r deadline (Round.receiverTurn site r deadline p w).2.now
          (Round.receiverTurn site r deadline p w).1 <
        (emitted log).length + turnsLeft r deadline w.now p := by
  obtain ⟨signal, same, ⟨log, begun, silent, turn⟩, still⟩ :=
    receiverTurn_receives swift pauses there h.looks due
  refine ⟨log, begun.since, ?_⟩
  obtain ⟨one, two⟩ := h.receiver_turnsLeft there (deadline + r.pollInterval.pause)
  have pos := pause_pos pauses
  rw [silent, List.length_nil, Nat.zero_add]
  generalize (Round.receiverTurn site r deadline p w).1 = p' at turn still
  generalize hd : log.filter Event.isDemand = demands at turn
  have open_ (open_ : p.signal.isTerminal = false) : signal.isTerminal = false := same.trans open_
  have raised (open_ : signal.isTerminal = false) (next : RoundState) : signal.set next = next := by
    rw [RoundState.set, open_]
    rfl
  cases turn with
  | waits applied answer ready later =>
      obtain ⟨awake, early⟩ := still rfl
      have two := two awake
      refine h.receiving there begun applied ⟨rfl, rfl⟩ open_ (fun t come => ?_) (by rw [hd]; rfl) ?_
      · exact Nat.le_of_lt (later t come)
      · refine Nat.lt_of_lt_of_le ?_ two
        cases ready with
        | none => exact Nat.succ_lt_succ (Nat.succ_pos _)
        | some t =>
            have later := later t rfl
            show 2 * (deadline + r.pollInterval.pause - t) + 3 < _
            unfold Time Duration at *
            omega
  | pauses applied =>
      obtain ⟨awake, early⟩ := still rfl
      have two := two awake
      refine h.receiving there begun applied ⟨rfl, rfl⟩ open_ (Nat.le_add_right _ _)
        (by rw [hd]; rfl) ?_
      refine Nat.lt_of_lt_of_le ?_ two
      show 2 * (deadline + r.pollInterval.pause - (w.now + r.pollInterval.pause)) + 2 < _
      unfold Time Duration at *
      omega
  | fails applied e =>
      refine h.receiving there begun applied ⟨rfl, rfl⟩ (fun now => ?_) trivial ?_ one
      · exact .inr (raised (open_ now) .failed)
      · rw [hd]
        exact .inl rfl
  | finishes applied answer =>
      refine h.receiving there begun applied ⟨rfl, rfl⟩ (fun now => ?_) trivial ?_ one
      · cases answer with
        | ok raw => exact raised (open_ now) .finished
        | error e => exact .inr (raised (open_ now) .failed)
      · have demanded : log.filter Event.isDemand = [demand session answer] :=
          hd.trans (congrArg ([·]) (demand_congr h.session_eq answer))
        rw [demanded]
        cases answer with
        | ok raw => rfl
        | error e => exact .inr rfl
  | timesOut applied due =>
      refine h.receiving there begun applied ⟨rfl, rfl⟩ (fun now => ?_) trivial ?_ one
      · exact .inl (raised (open_ now) .timedOut)
      · rw [hd]
        exact .inl rfl

/-! ### Time passing -/

theorem serves (h : InTime r session deadline before last p w) (now later : Time) (pump : Pump) :
    InTime r session deadline before last (p.serve now later pump) w := by
  have counted : (p.serve now later pump).skipped ≤ (p.serve now later pump).served.length ∧
      (p.serve now later pump).served.Nodup := by
    unfold Pumps.serve
    split
    · exact ⟨Nat.le_refl _, by simp [Pumps.wake]⟩
    · next new =>
        rw [not_or] at new
        exact ⟨Nat.succ_le_succ h.skipped, List.nodup_cons.2 ⟨new.2, h.served⟩⟩
  constructor
  case session_eq => simpa using h.session_eq
  case past => exact h.past
  case there => simpa [Pumps.receiverLeft] using h.there
  case early => exact h.early
  case signals => simpa using h.signals
  case demands => simpa using h.demands
  case sender => simpa using h.sender
  case receiver => simpa using h.receiver
  case skipped => exact counted.1
  case served => exact counted.2

end InTime

theorem receiverDue_of_there (there : p.receiverLeft = false) (deadline : Time) :
    ∃ d, receiverDue deadline p = some d ∧ d ≤ deadline ∧ ∀ t, p.receiverWake = some t → d ≤ t := by
  unfold receiverDue
  rw [there]
  cases wake : p.receiverWake with
  | none => exact ⟨deadline, rfl, Nat.le_refl _, nofun⟩
  | some t =>
      refine ⟨min deadline t, rfl, Nat.min_le_left _ _, fun t' same => ?_⟩
      cases same
      exact Nat.min_le_right _ _

section

variable (unready : p.senderReady = false) (sleeps : ∀ s, p.senderWake = some s → t ≤ s)

include unready sleeps

/-- Time passes before the sender wakes; once the receiver has left, the sender is not late by that. -/
theorem Sender.Waits.passes_left (h : p.sender.Waits r last now p.receiver)
    (gone : p.receiverLeft = true) (unended : p.result? = none) :
    p.sender.Waits r last t p.receiver := by
  unfold Pumps.senderReady at unready
  unfold Pumps.senderWake at sleeps
  cases doing : p.sender with
  | asking => simp [doing] at unready
  | uploading =>
      rw [doing] at h
      exact h.elim
  | pausing s | lingering s =>
      rw [doing] at h sleeps
      exact ⟨sleeps s rfl, h.2⟩
  | left result =>
      unfold Pumps.receiverLeft at gone
      unfold Pumps.result? at unended
      cases left : p.receiver <;> rcases result with e | ⟨⟩ <;> simp_all

/-- While the receiver is there, the moment by which the sender is measured passes with the time. -/
theorem Sender.Waits.passes_there (h : p.sender.Waits r last now p.receiver)
    (there : p.receiverLeft = false) (later : last ≤ t) : p.sender.Waits r t t p.receiver := by
  refine Sender.Waits.of_there (p := { p with receiver := .starting }) rfl ?_ p.receiver
  have waits := h.of_there there .starting
  unfold Pumps.senderReady at unready
  unfold Pumps.senderWake at sleeps
  cases doing : p.sender with
  | asking => simp [doing] at unready
  | uploading =>
      rw [doing] at waits
      exact waits.elim
  | pausing s =>
      rw [doing] at waits sleeps
      exact ⟨sleeps s rfl, Nat.le_trans waits.2 (Nat.add_le_add_right later _)⟩
  | lingering s =>
      rw [doing] at waits
      obtain ⟨-, -, -, raw, done⟩ := waits
      cases done
  | left result =>
      rcases result with e | ⟨⟩
      · exact Nat.le_add_right _ _
      · rw [doing] at waits
        rcases waits with ⟨⟨raw, done⟩, -⟩ | ⟨⟨e, failed⟩, -⟩
        · cases done
        · cases failed

end

theorem Receiver.Waits.passes (h : p.receiver.Waits now)
    (wakes : ∀ x, p.receiverWake = some x → t ≤ x) : p.receiver.Waits t := by
  unfold Pumps.receiverWake at wakes
  cases doing : p.receiver with
  | starting | left => trivial
  | asking | deleting =>
      rw [doing] at h
      exact h.elim
  | pausing x =>
      rw [doing] at wakes
      exact wakes x rfl
  | downloading answer ready =>
      rw [doing] at wakes
      exact wakes

namespace InTime

/-- Before either pump wakes time may pass; the receiver is still there, if it was. -/
theorem passes (h : InTime r session deadline before last p w) (unready : p.senderReady = false)
    (unended : p.result? = none) (later : w.now ≤ t) (sleeps : ∀ s, p.senderWake = some s → t ≤ s)
    (waits : ∀ d, receiverDue deadline p = some d → t ≤ d) :
    ∃ last', InTime r session deadline before last' p (w.advanceTo t) ∧ last ≤ last' := by
  have now_eq : (w.advanceTo t).now = t := Nat.max_eq_right later
  cases there : p.receiverLeft with
  | true =>
      have asleep (x : Time) (wake : p.receiverWake = some x) : t ≤ x := by
        unfold Pumps.receiverLeft at there
        unfold Pumps.receiverWake at wake
        cases doing : p.receiver <;> simp [doing] at there wake
      refine ⟨last, ?_, Nat.le_refl _⟩
      constructor
      case session_eq => exact h.session_eq
      case past => exact Nat.le_trans h.past (Nat.le_max_left _ _)
      case there => exact fun left => absurd there (Bool.eq_false_iff.1 left)
      case early => exact h.early
      case signals => exact h.signals
      case demands => exact h.demands
      case sender =>
        rw [now_eq]
        exact h.sender.passes_left unready sleeps there unended
      case receiver =>
        rw [now_eq]
        exact h.receiver.passes asleep
      case skipped => exact h.skipped
      case served => exact h.served
  | false =>
      obtain ⟨d, due, early, wakes⟩ := receiverDue_of_there there deadline
      have soon : t ≤ d := waits d due
      have since : last ≤ t := h.there there ▸ later
      refine ⟨t, ?_, since⟩
      constructor
      case session_eq => exact h.session_eq
      case past => exact Nat.le_max_right _ _
      case there => exact fun _ => now_eq
      case early => exact Nat.le_trans soon early
      case signals => exact h.signals
      case demands => exact (Receiver.demands_iff there).2 ((Receiver.demands_iff there).1 h.demands)
      case sender =>
        rw [now_eq]
        exact h.sender.passes_there unready sleeps there since
      case receiver =>
        rw [now_eq]
        exact h.receiver.passes fun x wake => Nat.le_trans soon (wakes x wake)
      case skipped => exact h.skipped
      case served => exact h.served

end InTime

end Round

end QuorumVault
