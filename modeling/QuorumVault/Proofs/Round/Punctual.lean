/-
Every round ends, and in time.

A round in time has a turn to come as long as not both pumps are gone, and each turn
leaves it closer to its end; so it ends, if it is followed long enough.  Then the two
pumps tell when: within one pause and the grace after the moment at which the receiver
left, and the receiver leaves at the deadline at the latest.

Nobody sleeps for more than thirty years, and nobody's clock counts a deadline of more
than 63 bits of seconds.  Grace and deadline are to be read so where a round is said to
take at least that long.
-/
import QuorumVault.Proofs.Rehearsal.Silent
import QuorumVault.Proofs.Round.Drained
import QuorumVault.Proofs.Round.Timing
import QuorumVault.Proofs.Run.EndsIn

namespace QuorumVault

/-- What the engine or the relay failed with. -/
def Event.error? : Event → Option Error
  | .engine _ _ (.error e) => some e
  | .answered _ (.error e) => some e
  | _ => none

namespace Round

variable {ε ρ σ : Type} {site : Site ε ρ σ} {r : Round} {session : Session}
  {deadline last now t : Time} {before : Trace} {p p' : Pumps} {w w' : World ε ρ σ}
  {log : List Event} {pump : Pump}

/-! ### What happens next -/

/-- A pump's turn has come. -/
def Pumps.Due (deadline now : Time) (p : Pumps) : Pump → Prop
  | .sender => p.senderReady = true ∨ p.senderWake = some now
  | .receiver => p.receiverLeft = false ∧ (p.receiverAwake now = true ∨ deadline ≤ now)

/-- A turn that comes later. -/
structure Pumps.Later (deadline t : Time) (pump : Pump) (p : Pumps) : Prop where
  unready : p.senderReady = false
  unended : p.result? = none
  sleeps : ∀ s, p.senderWake = some s → t ≤ s
  waits : ∀ d, receiverDue deadline p = some d → t ≤ d
  comes : match pump with
    | .sender => p.senderWake = some t
    | .receiver => receiverDue deadline p = some t

theorem due_of_next (h : next site deadline now p = .atOnce pump) : p.Due deadline now pump := by
  unfold next at h
  split at h
  · next ready =>
      cases h
      exact .inl ready
  · split at h
    · next ready =>
        cases h
        unfold Pumps.Due Pumps.receiverAwake
        rw [ready]
        refine ⟨?_, .inl rfl⟩
        unfold Pumps.receiverReady at ready
        unfold Pumps.receiverLeft
        cases doing : p.receiver <;> simp_all
    · split at h
      · cases h
      · split at h <;> cases h

theorem later_of_nextTurn (h : nextTurn site deadline now p = some (t, pump))
    (unready : p.senderReady = false) (unended : p.result? = none) : p.Later deadline t pump := by
  unfold nextTurn at h
  split at h
  · cases h
  · next sleeps waits =>
      cases h
      exact ⟨unready, unended, by simp [sleeps], by simp [waits], sleeps⟩
  · next sleeps waits =>
      cases h
      exact ⟨unready, unended, by simp [sleeps], by simp [waits], waits⟩
  · next s d sleeps waits =>
      split at h
      · next first =>
          cases h
          have le := first.elim Nat.le_of_lt fun both => Nat.le_of_eq both.1
          exact ⟨unready, unended, by simp [sleeps], by simpa [waits] using le, sleeps⟩
      · next last =>
          cases h
          have le := Nat.le_of_not_lt fun lt => last (.inl lt)
          exact ⟨unready, unended, by simpa [sleeps] using le, by simp [waits], waits⟩

theorem later_of_next (h : next site deadline now p = .later t pump) : p.Later deadline t pump := by
  unfold next at h
  split at h
  · cases h
  · next unready =>
      split at h
      · cases h
      · split at h
        · cases h
        · next unended =>
            split at h
            · next comes =>
                cases h
                exact later_of_nextTurn comes (by simpa using unready) unended
            · cases h

theorem nextTurn_eq_none (h : nextTurn site deadline now p = none) :
    p.senderWake = none ∧ receiverDue deadline p = none := by
  unfold nextTurn at h
  split at h
  · next sleeps waits => exact ⟨sleeps, waits⟩
  · cases h
  · cases h
  · split at h <;> cases h

namespace InTime

theorem senderLeft_of_wake (h : InTime r session deadline before last p w)
    (unready : p.senderReady = false) (sleeps : p.senderWake = none) :
    ∃ result, p.sender = .left result := by
  have waits := h.sender
  unfold Pumps.senderReady at unready
  unfold Pumps.senderWake at sleeps
  cases doing : p.sender with
  | left result => exact ⟨result, rfl⟩
  | uploading =>
      rw [doing] at waits
      exact waits.elim
  | asking => simp [doing] at unready
  | pausing | lingering => simp [doing] at sleeps

/-- Some pump of a round in time has a turn to come, unless both are gone. -/
theorem next_ne_nothing (h : InTime r session deadline before last p w) :
    next site deadline w.now p ≠ .nothing := by
  intro nothing
  unfold next at nothing
  split at nothing
  · cases nothing
  · next unready =>
      split at nothing
      · cases nothing
      · split at nothing
        · cases nothing
        · next unended =>
            split at nothing
            · cases nothing
            · next none =>
                obtain ⟨sleeps, waits⟩ := nextTurn_eq_none none
                obtain ⟨result, gone⟩ := h.senderLeft_of_wake (by simpa using unready) sleeps
                unfold receiverDue Pumps.receiverLeft at waits
                unfold Pumps.result? at unended
                cases doing : p.receiver <;> rcases result with e | ⟨⟩ <;> simp_all

theorem sender_wakes (h : InTime r session deadline before last p w)
    (wakes : p.senderWake = some t) :
    w.now ≤ t ∧ t ≤ deadline + r.pollInterval.pause + r.outboundGrace.pause := by
  have waits := h.sender
  have early := h.early
  unfold Pumps.senderWake at wakes
  cases doing : p.sender with
  | asking | left => simp [doing] at wakes
  | uploading =>
      rw [doing] at waits
      exact waits.elim
  | pausing s | lingering s =>
      rw [doing] at waits wakes
      cases wakes
      have later := waits.1
      have soon := waits.2
      unfold Time Duration at *
      omega

theorem receiver_wakes (h : InTime r session deadline before last p w)
    (wakes : p.receiverWake = some t) : w.now ≤ t := by
  have waits := h.receiver
  unfold Pumps.receiverWake at wakes
  cases doing : p.receiver with
  | starting | asking | left => simp [doing] at wakes
  | deleting =>
      rw [doing] at waits
      exact waits.elim
  | pausing x =>
      rw [doing] at waits wakes
      cases wakes
      exact waits
  | downloading answer ready =>
      rw [doing] at waits wakes
      exact waits t wakes

theorem receiver_due (h : InTime r session deadline before last p w)
    (due : receiverDue deadline p = some t) :
    w.now ≤ t ∧ t ≤ deadline ∧ p.Due deadline t .receiver := by
  unfold receiverDue at due
  cases there : p.receiverLeft with
  | true => simp [there] at due
  | false =>
      have soon : w.now ≤ deadline := h.there there ▸ h.early
      rw [there] at due
      cases wakes : p.receiverWake with
      | none =>
          rw [wakes] at due
          cases due
          exact ⟨soon, Nat.le_refl _, there, .inr (Nat.le_refl _)⟩
      | some x =>
          rw [wakes] at due
          cases due
          refine ⟨Nat.le_min.2 ⟨soon, h.receiver_wakes wakes⟩, Nat.min_le_left _ _, there, ?_⟩
          rcases Nat.le_total x deadline with le | le
          · refine .inl ?_
            simp [Pumps.receiverAwake, wakes, le]
          · exact .inr (Nat.le_min.2 ⟨Nat.le_refl _, le⟩)

theorem later (h : InTime r session deadline before last p w) (next : p.Later deadline t pump) :
    w.now ≤ t ∧ t ≤ deadline + r.pollInterval.pause + r.outboundGrace.pause ∧
      p.Due deadline t pump := by
  cases pump with
  | sender =>
      obtain ⟨later, soon⟩ := h.sender_wakes next.comes
      exact ⟨later, soon, .inr next.comes⟩
  | receiver =>
      obtain ⟨later, early, due⟩ := h.receiver_due next.comes
      refine ⟨later, Nat.le_trans early ?_, due⟩
      exact Nat.le_trans (Nat.le_add_right _ _) (Nat.le_add_right _ _)

theorem turn (h : InTime r session deadline before last p w) (swift : Swift site)
    (pauses : r.pollInterval ≠ 0) (due : p.Due deadline w.now pump) :
    ∃ log, w.Since (Round.turn site r deadline pump p w).2 log ∧
      InTime r session deadline before last (Round.turn site r deadline pump p w).1
        (Round.turn site r deadline pump p w).2 ∧
      turnsLeft r deadline (Round.turn site r deadline pump p w).2.now
          (Round.turn site r deadline pump p w).1 <
        (emitted log).length + turnsLeft r deadline w.now p := by
  cases pump with
  | sender => exact h.senderTurn swift pauses due
  | receiver => exact h.receiverTurn swift pauses due.1 due.2

end InTime

theorem turnsLeft_passes (later : now ≤ t) (now' : Time) (pump : Pump) :
    turnsLeft r deadline t (p.serve now' t pump) ≤ turnsLeft r deadline now p := by
  have sender : ∀ s : Sender, ∀ horizon, s.turnsLeft horizon t ≤ s.turnsLeft horizon now := by
    intro s horizon
    cases s with
    | asking => exact Nat.add_le_add_right (Nat.sub_le_sub_left later horizon) 2
    | pausing | lingering | uploading | left => exact Nat.le_refl _
  have receiver : ∀ s : Receiver, ∀ horizon, s.turnsLeft horizon t ≤ s.turnsLeft horizon now := by
    intro s horizon
    cases s with
    | starting | asking =>
        exact Nat.add_le_add_right (Nat.mul_le_mul_left 2 (Nat.sub_le_sub_left later horizon)) 4
    | pausing | deleting | left => exact Nat.le_refl _
    | downloading _ ready => cases ready <;> exact Nat.le_refl _
  unfold turnsLeft
  rw [Pumps.serve_sender, Pumps.serve_receiver]
  exact Nat.add_le_add (sender _ _) (receiver _ _)

theorem Pumps.Due.serve (h : p.Due deadline t pump) (now later : Time) (pump' : Pump) :
    (p.serve now later pump').Due deadline t pump := by
  cases pump with
  | sender => simpa [Pumps.Due, Pumps.senderReady, Pumps.senderWake] using h
  | receiver =>
      simpa [Pumps.Due, Pumps.receiverLeft, Pumps.receiverAwake, Pumps.receiverReady,
        Pumps.receiverWake] using h

/-! ### Rounds -/

/-- A limit leaves a round its time. -/
def Allows (r : Round) (deadline : Time) (limit : Option Time) : Prop :=
  ∀ t, t ≤ deadline + r.pollInterval.pause + r.outboundGrace.pause → Run.exceeds limit t = false

/-- How a round in time comes out, given what it comes to under each limit: it is over, in time, and
so it is under every limit that leaves it the time. -/
def EndsInTime (site : Site ε ρ σ) (r : Round) (session : Session) (deadline : Time) (before : Trace)
    (p : Pumps) (w : World ε ρ σ) (log : List Event)
    (comes : Option Time → Ending Bytes × World ε ρ σ) : Prop :=
  ∃ last p' result, InTime r session deadline before last p' (comes none).2 ∧
    Path (RoundStep site r deadline) ⟨p, w⟩ log ⟨p', (comes none).2⟩ ∧ p'.result? = some result ∧
    (comes none).1 = .ofResult result ∧ ∀ limit, r.Allows deadline limit → comes limit = comes none

theorem EndsInTime.of_path {log₁ log₂ : List Event}
    {comes comes' : Option Time → Ending Bytes × World ε ρ σ}
    (h : EndsInTime site r session deadline before p' w' log₂ comes')
    (path : Path (RoundStep site r deadline) ⟨p, w⟩ log₁ ⟨p', w'⟩)
    (same : ∀ limit, r.Allows deadline limit → comes limit = comes' limit) :
    EndsInTime site r session deadline before p w (log₁ ++ log₂) comes := by
  have unlimited : comes none = comes' none := same none fun _ _ => rfl
  obtain ⟨last, p', result, intime, rest, known, ending, limits⟩ := h
  rw [← unlimited] at intime rest ending
  refine ⟨last, p', result, intime, path.trans rest, known, ending, fun limit allows => ?_⟩
  rw [same limit allows, limits limit allows, unlimited]

/-- A round in time comes out so if it is followed for as many turns as there can be. -/
theorem steps_inTime (swift : Swift site) (pauses : r.pollInterval ≠ 0) (patience : Nat) (p : Pumps)
    (w : World ε ρ σ) {last : Time} (h : InTime r session deadline before last p w)
    (since : w.Since (steps site r deadline none patience p w).2 log)
    (enough : (emitted log).length + turnsLeft r deadline w.now p < patience) :
    EndsInTime site r session deadline before p w log fun limit =>
      steps site r deadline limit patience p w := by
  induction patience generalizing p w last log with
  | zero => exact absurd enough (Nat.not_lt_zero _)
  | succ patience ih =>
      -- whichever turn comes next, the others go on from there with one less to follow
      have goesOn {q : Pumps} {v : World ε ρ σ} {last' : Time} {log₁ : List Event}
          (h' : InTime r session deadline before last' q v)
          (path₁ : Path (RoundStep site r deadline) ⟨p, w⟩ log₁ ⟨q, v⟩)
          (closer : turnsLeft r deadline v.now q <
            (emitted log₁).length + turnsLeft r deadline w.now p)
          (next : ∀ limit, r.Allows deadline limit →
            steps site r deadline limit (patience + 1) p w =
              steps site r deadline limit patience q v) :
          EndsInTime site r session deadline before p w log fun limit =>
            steps site r deadline limit (patience + 1) p w := by
        have unlimited := next none fun _ _ => rfl
        rw [unlimited] at since
        obtain ⟨log₂, p₂, path₂, -⟩ := steps_path site r deadline none patience q v
        have since₂ := since_of_path path₂
        obtain rfl : log = log₁ ++ log₂ := since.unique ((since_of_path path₁).trans since₂)
        rw [emitted_append, List.length_append] at enough
        exact (ih q v h' since₂ (by omega)).of_path path₁ next
      cases next : next site deadline w.now p with
      | nothing => exact absurd next h.next_ne_nothing
      | ended result =>
          have stops (limit : Option Time) : steps site r deadline limit (patience + 1) p w =
              (.ofResult result, w) := by
            rw [steps, next]
            cases result <;> rfl
          rw [stops] at since
          obtain rfl : log = [] := since.unique (.refl w)
          unfold EndsInTime
          dsimp only
          rw [stops]
          exact ⟨last, p, result, h, .refl _, result?_of_next next, rfl, fun limit _ => stops limit⟩
      | atOnce pump =>
          obtain ⟨log₁, since₁, h', closer⟩ := h.turn swift pauses (due_of_next next)
          obtain ⟨log₁', step⟩ := turn_step site r deadline pump p w
          obtain rfl : log₁ = log₁' := since₁.unique step.since
          exact goesOn h' (.single step) closer fun limit _ => steps_of_atOnce next patience
      | later t pump =>
          have comes := later_of_next next
          obtain ⟨later, soon, due⟩ := h.later comes
          have now_eq : (w.advanceTo t).now = t := Nat.max_eq_right later
          obtain ⟨last', passed, -⟩ := h.passes comes.unready comes.unended later comes.sleeps
            comes.waits
          have due : (p.serve w.now t pump).Due deadline (w.advanceTo t).now pump := by
            rw [now_eq]
            exact due.serve w.now t pump
          obtain ⟨log₁, since₁, h', closer⟩ :=
            (passed.serves w.now t pump).turn swift pauses due
          obtain ⟨log₁', step⟩ := turn_step site r deadline pump (p.serve w.now t pump)
            (w.advanceTo t)
          obtain rfl : log₁ = log₁' := since₁.unique step.since
          have path : Path (RoundStep site r deadline) ⟨p, w⟩ log₁ _ :=
            .silently (.serves w.now t pump) (.silently (.passes t) (.single step))
          refine goesOn h' path (Nat.lt_of_lt_of_le closer (Nat.add_le_add_left ?_ _))
            fun limit allows => steps_of_later next (allows t soon) patience
          rw [now_eq]
          exact turnsLeft_passes later w.now pump

/-- How many turns a round has at most, not counting those with a message. -/
def turns (r : Round) : Nat :=
  3 * (r.deadline + r.pollInterval.pause) + 6

/-- How long a round takes at most. -/
def longest (r : Round) : Duration :=
  r.deadline + r.pollInterval.pause + r.outboundGrace.pause

theorem allows_of_leaves {limit : Option Time} (left : Run.Leaves limit w.now r.longest) :
    r.Allows (w.now + r.deadline) limit := by
  intro t soon
  refine left.not_exceeds (Nat.le_trans soon (Nat.le_of_eq ?_))
  rw [longest, Nat.add_assoc, Nat.add_assoc, Nat.add_assoc]

theorem run_inTime (swift : Swift site) (pauses : r.pollInterval ≠ 0)
    (since : w.Since (r.run site session none w).2 log)
    (enough : (emitted log).length + r.turns < site.patience) :
    EndsInTime site r session (w.now + r.deadline) w.trace.demands (r.start session) w log
      fun limit => r.run site session limit w := by
  have count : turnsLeft r (w.now + r.deadline) w.now (r.start session) = r.turns := by
    have rest : w.now + r.deadline + r.pollInterval.pause - w.now =
        r.deadline + r.pollInterval.pause := by
      rw [Nat.add_assoc, Nat.add_sub_cancel_left]
    show (w.now + r.deadline + r.pollInterval.pause - w.now + 2) +
      (2 * (w.now + r.deadline + r.pollInterval.pause - w.now) + 4) = _
    rw [rest]
    have sum (time : Nat) : time + 2 + (2 * time + 4) = 3 * time + 6 := by omega
    exact sum _
  exact steps_inTime swift pauses site.patience (r.start session) w (inTime_start r session w) since
    (count ▸ enough)

/-! ### When a round ends -/

/-- The failure of a round that took too long is its own: nobody else failed with it. -/
def OverdueItself (r : Round) (log : List Event) : Prop :=
  ∀ e ∈ log, e.error? ≠ some r.overdue

theorem OutboundFails.not_overdue (own : r.OverdueItself log) :
    ¬OutboundFails site r session log r.overdue := by
  generalize overdue_eq : r.overdue = e
  intro fails
  cases fails with
  | output failed => exact own _ failed (overdue_eq ▸ rfl)
  | receiver failed => exact own _ failed (overdue_eq ▸ rfl)
  | @unsealable _ _ fault => cases fault <;> cases overdue_eq

/-- A receiver whose failure is the round's own was there until the deadline. -/
theorem Halt.due {handed : List Handed} {rest : List Envelope} (own : r.OverdueItself log)
    (handled : ∀ a ∈ handed, ∀ e, a.answer = .error e →
      .engine session.family (.input session.handle a.message) (.error e) ∈ log)
    (halt : Halt site r session deadline now log handed rest (.error r.overdue)) :
    deadline ≤ now := by
  generalize overdue_eq : r.overdue = e at halt
  cases halt with
  | @unreadable _ _ fault => cases fault <;> cases overdue_eq
  | refused last =>
      obtain ⟨before, a, rfl, -, refuses⟩ := last
      have failed := handled a (by simp) e refuses
      exact absurd (overdue_eq ▸ rfl) (own _ failed)
  | finished last demanded => exact absurd (overdue_eq ▸ rfl) (own _ demanded)
  | finishedTwice => cases overdue_eq
  | overdue due => exact due
  | unfetched none failed => exact absurd (overdue_eq ▸ rfl) (own _ failed)
  | aborted => cases overdue_eq

theorem demands_of_since (since : w.Since w' log) {demands : Trace}
    (more : w'.trace.demands = demands ++ w.trace.demands) :
    log.filter Event.isDemand = demands.reverse.map (·.2) := by
  have events (t : Trace) : t.events.filter Event.isDemand = t.demands.reverse.map (·.2) := by
    unfold Trace.events Trace.demands
    rw [List.filter_map, List.filter_reverse]
    rfl
  have both : w'.trace.events.filter Event.isDemand =
      w.trace.events.filter Event.isDemand ++ log.filter Event.isDemand := by
    rw [since, List.filter_append]
  rw [events, events, more, List.reverse_append, List.map_append] at both
  exact (List.append_cancel_left both).symm

theorem Standing.due (h : Standing site r session deadline now p log) (own : r.OverdueItself log)
    (left : p.receiver = .left (.error r.overdue)) : deadline ≤ now := by
  obtain ⟨seen, pending, handed, inbound, -, halted⟩ := h.2.halted
  refine (halted _ left).due own fun a mem e refuses => ?_
  rw [← refuses]
  exact inbound.mem_of_handed mem

/-- A round from one world to another with this log and this ending is in time. -/
structure Punctual (r : Round) (session : Session) (w w' : World ε ρ σ) (log : List Event)
    (ending : Ending Bytes) : Prop where
  ends : ∃ result, ending = .ofResult result
  /-- It ends after its deadline, one pause and the grace at the latest. -/
  soon : w'.now ≤ w.now + r.deadline + r.pollInterval + r.outboundGrace
  /-- If it took too long, it ends between its deadline and a pause after it, and nobody has demanded
  a result. -/
  overdue : ending = .failed r.overdue → r.OverdueItself log →
    w.now + r.deadline ≤ w'.now ∧ w'.now ≤ w.now + r.deadline + r.pollInterval ∧
      log.filter Event.isDemand = []
  /-- If it is done, the result was demanded before the deadline, and it ends between the grace and
  a pause and the grace after that. -/
  done : ∀ raw, ending = .done raw → ∃ t,
    w'.trace.demands = (t, demand session (.ok raw)) :: w.trace.demands ∧
      t ≤ w.now + r.deadline ∧ t + r.outboundGrace.pause ≤ w'.now ∧
      w'.now ≤ t + r.pollInterval + r.outboundGrace

/-- Whoever stays is gone in time. -/
theorem InTime.gone_soon (h : InTime r session deadline before last p w) {result : Except Error Bytes}
    (ended : p.result? = some result) :
    w.now ≤ last + r.pollInterval.pause + r.outboundGrace.pause ∧
      (∀ e, result = .error e → w.now ≤ last + r.pollInterval.pause) := by
  have waits := h.sender
  unfold Pumps.result? at ended
  split at ended
  · next e _ sender receiver =>
      rw [sender] at waits
      have soon : w.now ≤ last + r.pollInterval.pause := waits
      exact ⟨Nat.le_trans soon (Nat.le_add_right _ _), fun _ _ => soon⟩
  · next gone sender receiver =>
      cases ended
      rw [sender] at waits
      rcases waits with ⟨⟨raw, left⟩, -, soon⟩ | ⟨⟨e, left⟩, soon⟩
      · rw [receiver] at left
        cases left
        exact ⟨soon, nofun⟩
      · exact ⟨Nat.le_trans soon (Nat.le_add_right _ _), fun _ _ => soon⟩
  · cases ended

/-- A round whose failure is its own has a receiver that was there until the end, and nobody has
demanded a result. -/
theorem InTime.overdue (h : InTime r session deadline w.trace.demands last p w')
    (standing : Standing site r session deadline w'.now p log) (since : w.Since w' log)
    (own : r.OverdueItself log) (ended : p.result? = some (.error r.overdue)) :
    deadline ≤ w'.now ∧ log.filter Event.isDemand = [] := by
  have left : p.receiver = .left (.error r.overdue) := by
    unfold Pumps.result? at ended
    split at ended
    · next sender receiver =>
        cases ended
        exact absurd (standing.1.outbound _ sender) (OutboundFails.not_overdue own)
    · next receiver =>
        cases ended
        exact receiver
    · cases ended
  refine ⟨standing.due own left, ?_⟩
  have demands := h.demands
  rw [left] at demands
  rcases demands with none | one
  · have nothing : w'.trace.demands = [] ++ w.trace.demands := none
    exact demands_of_since since nothing
  · have more : w'.trace.demands = [(last, demand session (.error r.overdue))] ++ w.trace.demands :=
      one
    have demanded : log.filter Event.isDemand = [demand session (.error r.overdue)] :=
      demands_of_since since more
    have mem : demand session (.error r.overdue) ∈ log.filter Event.isDemand :=
      demanded ▸ List.mem_singleton_self _
    exact absurd rfl (own _ (List.mem_filter.1 mem).1)

theorem InTime.done (h : InTime r session deadline before last p w) {raw : Bytes}
    (ended : p.result? = some (.ok raw)) :
    w.trace.demands = (last, demand session (.ok raw)) :: before ∧
      last + r.outboundGrace.pause ≤ w.now := by
  have waits := h.sender
  have demands := h.demands
  unfold Pumps.result? at ended
  split at ended
  · cases ended
  · next sender receiver =>
      cases ended
      rw [receiver] at demands
      rw [sender] at waits
      rcases waits with ⟨-, stayed, -⟩ | ⟨⟨e, left⟩, -⟩
      · exact ⟨demands, stayed⟩
      · rw [receiver] at left
        cases left
  · cases ended

/-- Whatever engine and relay answer, a round ends in time if the relay takes and drops messages at
once and pauses are not empty.  It is to be followed for a number of turns that its times give, and
for one more for every message of the engine. -/
theorem run_punctual (swift : Swift site) (pauses : r.pollInterval ≠ 0)
    (since : w.Since (r.run site session none w).2 log)
    (enough : (emitted log).length + r.turns < site.patience) :
    Punctual r session w (r.run site session none w).2 log (r.run site session none w).1 := by
  obtain ⟨last, p', result, intime, path, ended, ending, -⟩ :=
    run_inTime swift pauses since enough
  have standing := standing_of_path path
  have early : last ≤ w.now + r.deadline := intime.early
  have poll : r.pollInterval.pause ≤ r.pollInterval := Nat.min_le_left _ _
  have grace : r.outboundGrace.pause ≤ r.outboundGrace := Nat.min_le_left _ _
  obtain ⟨soon, failed_soon⟩ := intime.gone_soon ended
  rw [ending]
  constructor
  case ends => exact ⟨result, rfl⟩
  case soon => exact Nat.le_trans soon (Nat.add_le_add (Nat.add_le_add early poll) grace)
  case overdue =>
    intro failed own
    obtain rfl : result = .error r.overdue := by
      cases result <;> cases failed
      rfl
    obtain ⟨due, undemanding⟩ := intime.overdue standing since own ended
    exact ⟨due, Nat.le_trans (failed_soon _ rfl) (Nat.add_le_add early poll), undemanding⟩
  case done =>
    intro raw done
    obtain rfl : result = .ok raw := by
      cases result <;> cases done
      rfl
    obtain ⟨demanded, stayed⟩ := intime.done ended
    exact ⟨last, demanded, early, stayed,
      Nat.le_trans soon (Nat.add_le_add (Nat.add_le_add_left poll _) grace)⟩

/-- A round with 15 milliseconds in which the other member sends nothing takes 20: the sender looks at
the signal every ten. -/
theorem run_punctual_alone :
    let r := Prompt.serverRound 15 1000
    Punctual r Prompt.serverSession Prompt.treasuryStart (Prompt.serverAlone r).2
        (Prompt.serverAlone r).2.trace.events (Prompt.serverAlone r).1 ∧
      (Prompt.serverAlone r).1 = .failed r.overdue ∧ (Prompt.serverAlone r).2.now = 20 := by
  have silent : emitted (Prompt.serverAlone (Prompt.serverRound 15 1000)).2.trace.events = [] := rfl
  have enough : (emitted (Prompt.serverAlone (Prompt.serverRound 15 1000)).2.trace.events).length +
      (Prompt.serverRound 15 1000).turns < 200 := by
    rw [silent]
    decide
  exact ⟨run_punctual (Prompt.treasury.alone_swift 200) (by decide) rfl enough, rfl, rfl⟩

/-- A round does not stay for the whole grace if that is longer than the longest pause. -/
theorem run_leaves_early :
    ∃ w' raw, (Prompt.serverRound 1005 (10 ^ 12)).run Prompt.treasury.site Prompt.serverSession none
        Prompt.treasuryStart = (.done raw, w') ∧
      ¬∃ t, Prompt.treasuryStart.now ≤ t ∧ t + 10 ^ 12 ≤ w'.now := by
  let r := Prompt.serverRound 1005 (10 ^ 12)
  have prompt : (r.run Prompt.treasury.site Prompt.serverSession).DoneIn
      (r.pollInterval.pause + r.outboundGrace.pause) (Prompt.treasury.raw .ecdsa) :=
    Prompt.run_doneIn rfl rfl (by decide) 1
  obtain ⟨w', done, soon⟩ := prompt none Prompt.treasuryStart nofun
  refine ⟨w', _, done, fun ⟨t, later, stays⟩ => ?_⟩
  have early : Prompt.treasuryStart.now + (r.pollInterval.pause + r.outboundGrace.pause) < 10 ^ 12 := by
    decide
  exact absurd (Nat.lt_of_le_of_lt soon early)
    (Nat.not_lt.2 (Nat.le_trans (Nat.le_add_left _ _) stays))

end Round

end QuorumVault
