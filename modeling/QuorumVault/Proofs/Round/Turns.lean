/-
Whole turns.

If the relay takes and drops messages at once, a pump waits only for a batch or in a
pause, so a turn comes out in one of few ways.  `SenderTurn` and `ReceiverTurn` list
them.  A turn takes no time: all that it logs happens at one moment.
-/
import QuorumVault.Proofs.Round.Outbound

namespace QuorumVault

/-- The engine is asked for its result. -/
def Event.isDemand : Event → Bool
  | .engine _ (.finish _) _ => true
  | _ => false

/-- The demands for a result and when they were made, the latest in front. -/
def Trace.demands (trace : Trace) : Trace :=
  trace.filter (·.2.isDemand)

namespace World

variable {ε ρ σ : Type} {w w₁ w₂ : World ε ρ σ} {log log' : List Event}

/-- The second world comes after the first, and this has happened in between, in no time. -/
structure AtOnce (w w' : World ε ρ σ) (log : List Event) : Prop where
  now_eq : w'.now = w.now
  trace_eq : w'.trace = (log.map (w.now, ·)).reverse ++ w.trace

namespace AtOnce

theorem refl (w : World ε ρ σ) : w.AtOnce w [] :=
  ⟨rfl, rfl⟩

theorem trans (h : w.AtOnce w₁ log) (h' : w₁.AtOnce w₂ log') : w.AtOnce w₂ (log ++ log') where
  now_eq := h'.now_eq.trans h.now_eq
  trace_eq := by
    rw [h'.trace_eq, h.trace_eq, h.now_eq, List.map_append, List.reverse_append, List.append_assoc]

theorem sealOnce (h : w.AtOnce w₁ log) : w.AtOnce w₁.sealOnce log :=
  ⟨h.now_eq, h.trace_eq⟩

theorem since (h : w.AtOnce w₁ log) : w.Since w₁ log := by
  unfold Since Trace.events
  rw [h.trace_eq, List.reverse_append, List.reverse_reverse, List.map_append, List.map_map]
  exact congrArg _ (List.map_id log)

theorem demands_eq (h : w.AtOnce w₁ log) :
    w₁.trace.demands = ((log.filter Event.isDemand).map (w.now, ·)).reverse ++ w.trace.demands := by
  unfold Trace.demands
  rw [h.trace_eq, List.filter_append, List.filter_reverse, List.filter_map]
  rfl

end AtOnce

theorem atOnce_record (w : World ε ρ σ) (e : Event) : w.AtOnce (w.record e) [e] :=
  ⟨rfl, rfl⟩

theorem atOnce_callEngine {site : Site ε ρ σ} {family : Family} {c : Engine.Call}
    {answer : Except Error c.Answer} (h : w.callEngine site family c = (answer, w₁)) :
    w.AtOnce w₁ [.engine family c answer] := by
  cases h
  exact ⟨rfl, rfl⟩

theorem atOnce_askRelay {site : Site ε ρ σ} {c : Relay.Call} {took : Option Duration}
    {answer : Except Error c.Answer} (h : w.askRelay site c = (took, answer, w₁)) :
    w.AtOnce w₁ [.asked c] := by
  cases h
  exact ⟨rfl, rfl⟩

end World

namespace Round

variable {ε ρ σ : Type} {site : Site ε ρ σ} {r : Round} {deadline now : Time} {p p' : Pumps}
  {log log' demands : List Event} {w w₁ : World ε ρ σ}

/-- The relay takes and drops messages at once. -/
structure Swift (site : Site ε ρ σ) : Prop where
  upload : ∀ s now m scope, (site.relay.ask s now (.upload m scope)).1 = some 0
  delete : ∀ s now session party hash scope,
    (site.relay.ask s now (.delete session party hash scope)).1 = some 0

theorem Swift.uploads (swift : Swift site) (w : World ε ρ σ) (m : Envelope) (scope : Option String) :
    ∃ answer w', w.askRelay site (.upload m scope) = (some 0, answer, w') := by
  refine ⟨_, _, Prod.ext ?_ rfl⟩
  exact swift.upload w.relay w.now m scope

theorem Swift.deletes (swift : Swift site) (w : World ε ρ σ) (session party hash : String)
    (scope : Option String) :
    ∃ answer w', w.askRelay site (.delete session party hash scope) = (some 0, answer, w') := by
  refine ⟨_, _, Prod.ext ?_ rfl⟩
  exact swift.delete w.relay w.now session party hash scope

/-! ### The sender -/

/-- How a turn of a sender comes out that asks the engine for a message, and how many messages the
engine gives it. -/
inductive SenderTurn (r : Round) (now : Time) (p : Pumps) : Nat → Pumps → Prop
  | sends (messenger) : SenderTurn r now p 1 { p with sender := .asking, messenger := messenger }
  | fails (given messenger e) :
      SenderTurn r now p given ({ p with messenger := messenger }.senderLeaves (.error e))
  | lingers (signal : p.signal = .finished) :
      SenderTurn r now p 0 { p with sender := .lingering (now + r.outboundGrace.pause) }
  | quits (signal : p.signal = .timedOut ∨ p.signal = .failed) :
      SenderTurn r now p 0 (p.senderLeaves (.ok ()))
  | pauses (signal : p.signal.isTerminal = false) :
      SenderTurn r now p 0 { p with sender := .pausing (now + r.pollInterval.pause) }

/-- A message is dealt with at every place, or the sender fails. -/
theorem deliver_turn (swift : Swift site) (message : Bytes) (body : String) (places : List Nat)
    (p : Pumps) (w : World ε ρ σ) :
    ∃ log, w.AtOnce (deliver site r message body places p w).2 log ∧
      log.filter Event.isDemand = [] ∧ emitted log = [] ∧
      ∃ messenger, (deliver site r message body places p w).1 =
          { p with sender := .asking, messenger := messenger } ∨
        ∃ e, (deliver site r message body places p w).1 =
          { p with messenger := messenger }.senderLeaves (.error e) := by
  induction places generalizing p w with
  | nil => exact ⟨[], .refl w, rfl, rfl, p.messenger, .inl rfl⟩
  | cons place places ih =>
      rw [deliver]
      rcases call : w.callEngine site p.session.family (.receiver p.session.handle message place)
        with ⟨answer, w₁⟩
      have called := World.atOnce_callEngine call
      rcases answer with e | none | recipient
      · exact ⟨_, called, rfl, rfl, p.messenger, .inr ⟨e, rfl⟩⟩
      · obtain ⟨log, rest, undemanding, silent, comes⟩ := ih p w₁
        exact ⟨_, called.trans rest, undemanding, silent, comes⟩
      · dsimp only
        by_cases nobody : recipient = ""
        · rw [if_pos nobody]
          obtain ⟨log, rest, undemanding, silent, comes⟩ := ih p w₁
          exact ⟨_, called.trans rest, undemanding, silent, comes⟩
        · rw [if_neg nobody]
          obtain ⟨taken, w₂, ask⟩ := swift.uploads w₁
            (p.messenger.envelope r.party recipient body) r.scope
          rw [ask]
          obtain ⟨log, rest, undemanding, silent, messenger, comes⟩ := ih
            { p with messenger := p.messenger.next }
            (w₂.record (.answered (.upload (p.messenger.envelope r.party recipient body) r.scope)
              taken))
          have asked := (called.trans (World.atOnce_askRelay ask)).trans (World.atOnce_record _
            (.answered (.upload (p.messenger.envelope r.party recipient body) r.scope) taken))
          exact ⟨_, asked.trans rest, undemanding, silent, messenger, comes⟩

theorem askOutput_turn (swift : Swift site) (pauses : r.pollInterval ≠ 0) (p : Pumps)
    (w : World ε ρ σ) :
    ∃ log, w.AtOnce (askOutput site r p w).2 log ∧ log.filter Event.isDemand = [] ∧
      SenderTurn r w.now p (emitted log).length (askOutput site r p w).1 := by
  unfold askOutput
  rcases call : w.callEngine site p.session.family (.output p.session.handle) with ⟨answer, w₁⟩
  have called := World.atOnce_callEngine call
  match answer with
  | .error e =>
      exact ⟨_, called, rfl, .fails 0 p.messenger e⟩
  | .ok none =>
      have waits : p.senderPauses r w₁.now =
          { p with sender := .pausing (w.now + r.pollInterval.pause) } := by
        rw [called.now_eq]
        exact if_neg (by simp [Pumps.skips, pauses])
      dsimp only
      rw [waits, called.now_eq]
      split
      · next signal => exact ⟨_, called, rfl, .lingers signal⟩
      · next signal => exact ⟨_, called, rfl, .quits (.inl signal)⟩
      · next signal => exact ⟨_, called, rfl, .quits (.inr signal)⟩
      · next signal => exact ⟨_, called, rfl, .pauses (by rw [signal]; rfl)⟩
      · next signal => exact ⟨_, called, rfl, .pauses (by rw [signal]; rfl)⟩
  | .ok (some message) =>
      dsimp only
      cases sealed : Sealing.encode r.hexEncryptionKey (site.nonce w₁.sealings) message with
      | error fault => exact ⟨_, called, rfl, .fails 1 p.messenger fault.error⟩
      | ok body =>
          dsimp only
          obtain ⟨log, rest, undemanding, silent, messenger, comes⟩ := deliver_turn (r := r) swift
            message body (List.range r.committee.length) p w₁.sealOnce
          refine ⟨_, called.sealOnce.trans rest, undemanding, ?_⟩
          have one : emitted ([.engine p.session.family (.output p.session.handle)
              (.ok (some message))] ++ log) = [message] := by
            rw [emitted_append, silent]
            rfl
          rw [one]
          rcases comes with comes | ⟨e, comes⟩ <;> rw [comes]
          · exact .sends messenger
          · exact .fails 1 messenger e

/-! ### The receiver -/

/-- How a turn of the receiver comes out, and the demands that are made in it. -/
inductive ReceiverTurn (r : Round) (deadline now : Time) (p : Pumps) : List Event → Pumps → Prop
  | waits (applied answer ready) (later : ∀ t, ready = some t → now < t) :
      ReceiverTurn r deadline now p []
        { p with applied := applied, receiver := .downloading answer ready }
  | pauses (applied) :
      ReceiverTurn r deadline now p []
        { p with applied := applied, receiver := .pausing (now + r.pollInterval.pause) }
  | fails (applied e) :
      ReceiverTurn r deadline now p [] ({ p with applied := applied }.receiverLeaves (.error e))
  | finishes (applied answer) :
      ReceiverTurn r deadline now p [.engine p.session.family p.finishCall answer]
        ({ p with applied := applied,
                  session := { p.session with finished := true } }.receiverLeaves answer)
  | timesOut (applied) (due : deadline ≤ now) :
      ReceiverTurn r deadline now p [] ({ p with applied := applied }.receiverTimesOut r)

/-- What a receiver does at once, and with which turn. -/
def Receives (r : Round) (deadline : Time) (p : Pumps) (w : World ε ρ σ)
    (after : Pumps × World ε ρ σ) : Prop :=
  ∃ log, w.AtOnce after.2 log ∧ emitted log = [] ∧
    ReceiverTurn r deadline w.now p (log.filter Event.isDemand) after.1

theorem Receives.after {after : Pumps × World ε ρ σ} (begun : w.AtOnce w₁ log)
    (silent : emitted log = []) (undemanding : log.filter Event.isDemand = [])
    (h : Receives r deadline p w₁ after) : Receives r deadline p w after := by
  obtain ⟨log', rest, silent', turn⟩ := h
  refine ⟨log ++ log', begun.trans rest, ?_, ?_⟩
  · rw [emitted_append, silent, silent', List.append_nil]
  · rw [List.filter_append, undemanding, List.nil_append, ← begun.now_eq]
    exact turn

theorem Receives.of_applied {after : Pumps × World ε ρ σ} (applied : Applied)
    (h : Receives r deadline { p with applied := applied } w after) :
    Receives r deadline p w after := by
  obtain ⟨log, begun, silent, turn⟩ := h
  refine ⟨log, begun, silent, ?_⟩
  generalize log.filter Event.isDemand = demands at turn
  generalize after.1 = p' at turn
  cases turn with
  | waits applied answer ready later => exact .waits applied answer ready later
  | pauses applied => exact .pauses applied
  | fails applied e => exact .fails applied e
  | finishes applied answer => exact .finishes (p := p) applied answer
  | timesOut applied due => exact .timesOut applied due

theorem finishRound_receives (p : Pumps) (w : World ε ρ σ) :
    Receives r deadline p w (finishRound site p w) := by
  unfold finishRound Session.finish
  by_cases again : p.session.finished = true
  · rw [if_pos again]
    exact ⟨[], .refl w, rfl, .fails p.applied _⟩
  · rw [if_neg again]
    exact ⟨_, World.atOnce_callEngine rfl, rfl, .finishes p.applied _⟩

/-- Messages at hand are worked through, unless the engine fails or is done. -/
theorem applyBatch_receives (swift : Swift site) (pauses : r.pollInterval ≠ 0)
    (batch : List Envelope) (p : Pumps) (w : World ε ρ σ) :
    Receives r deadline p w (applyBatch site r batch p w) := by
  induction batch generalizing p w with
  | nil =>
      have waits : p.receiverPauses r w.now = { p with receiver := .pausing _ } :=
        if_neg (by simp [Pumps.skips, pauses])
      rw [applyBatch, waits]
      exact ⟨[], .refl w, rfl, .pauses p.applied⟩
  | cons m rest ih =>
      rw [applyBatch]
      by_cases passes : p.Passes r m
      · rw [if_pos passes]
        exact ih p w
      rw [if_neg passes]
      cases opened : Sealing.decode r.hexEncryptionKey m.body with
      | error fault => exact ⟨[], .refl w, rfl, .fails p.applied fault.error⟩
      | ok message =>
          dsimp only
          rcases call : w.callEngine site p.session.family (.input p.session.handle message)
            with ⟨answer, w₁⟩
          have called := World.atOnce_callEngine call
          cases answer with
          | error e => exact ⟨_, called, rfl, .fails p.applied e⟩
          | ok finished =>
              dsimp only
              obtain ⟨dropped, w₂, ask⟩ := swift.deletes w₁ r.sessionId r.party m.hash r.scope
              rw [ask]
              have asked := (called.trans (World.atOnce_askRelay ask)).trans (World.atOnce_record _
                (.answered (.delete r.sessionId r.party m.hash r.scope) dropped))
              -- the message is dropped at once, so the batch goes on within the turn
              refine Receives.after asked rfl rfl (Receives.of_applied
                (p.applied.insert (Applied.key r.sessionId r.party r.scope m.hash)) ?_)
              cases finished with
              | true => exact finishRound_receives _ _
              | false => exact ih _ _

theorem takeBatch_receives (swift : Swift site) (pauses : r.pollInterval ≠ 0)
    (answer : Except Error (List Envelope)) (p : Pumps) (w : World ε ρ σ) :
    Receives r deadline p w (takeBatch site r answer p w) := by
  have answered := World.atOnce_record w (.answered (.download r.sessionId r.party r.scope) answer)
  refine Receives.after answered rfl rfl ?_
  cases answer with
  | error e => exact ⟨[], .refl _, rfl, .fails p.applied e⟩
  | ok batch => exact applyBatch_receives swift pauses batch p _

theorem askBatch_receives (swift : Swift site) (pauses : r.pollInterval ≠ 0) (p : Pumps)
    (w : World ε ρ σ) : Receives r deadline p w (askBatch site r p w) := by
  unfold askBatch
  by_cases failed : p.signal = .failed
  · rw [if_pos failed]
    exact ⟨[], .refl w, rfl, .fails p.applied aborted⟩
  rw [if_neg failed]
  rcases ask : w.askRelay site (.download r.sessionId r.party r.scope) with ⟨took, answer, w₁⟩
  have asked := World.atOnce_askRelay ask
  match took with
  | some 0 => exact Receives.after asked rfl rfl (takeBatch_receives swift pauses answer p w₁)
  | none => exact ⟨_, asked, rfl, .waits p.applied answer none nofun⟩
  | some (d + 1) =>
      refine ⟨_, asked, rfl, .waits p.applied answer (some (w₁.now + (d + 1))) ?_⟩
      intro t later
      cases later
      rw [asked.now_eq]
      exact Nat.lt_add_of_pos_right (Nat.succ_pos d)

/-- The receiver's time comes of itself. -/
def Pumps.receiverAwake (p : Pumps) (now : Time) : Bool :=
  p.receiverReady || p.receiverWake.any (· ≤ now)

/-- A receiver that begins may change what the signal says, but not whether the round is over. -/
theorem receive_receives (deadline : Time) (swift : Swift site) (pauses : r.pollInterval ≠ 0)
    (there : p.receiverLeft = false) (w : World ε ρ σ) :
    ∃ signal, signal.isTerminal = p.signal.isTerminal ∧
      Receives r deadline { p with signal := signal } w (receive site r p w) := by
  unfold receive
  split
  · have same : (p.signal.set .awaitingMessages).isTerminal = p.signal.isTerminal := by
      rw [RoundState.isTerminal_set]
      exact Bool.or_false _
    exact ⟨_, same, askBatch_receives swift pauses _ w⟩
  · next answer _ _ => exact ⟨p.signal, rfl, takeBatch_receives swift pauses answer p w⟩
  · next finished rest hash answer _ _ =>
      have answered := World.atOnce_record w
        (.answered (.delete r.sessionId r.party hash r.scope) answer)
      refine ⟨p.signal, rfl, Receives.after answered rfl rfl ?_⟩
      cases finished with
      | true => exact finishRound_receives p _
      | false => exact applyBatch_receives swift pauses rest p _
  · exact ⟨p.signal, rfl, askBatch_receives swift pauses p w⟩
  · exact ⟨p.signal, rfl, askBatch_receives swift pauses p w⟩
  · next left => simp [Pumps.receiverLeft, left] at there

namespace ReceiverTurn

theorem not_ready (turn : ReceiverTurn r deadline now p demands p') : p'.receiverReady = false := by
  cases turn <;> rfl

theorem overdue (turn : ReceiverTurn r deadline now p demands p') (there : p'.receiverLeft = false)
    (due : deadline ≤ now) : ReceiverTurn r deadline now p demands (p'.receiverTimesOut r) := by
  cases turn with
  | waits applied => exact .timesOut applied due
  | pauses applied => exact .timesOut applied due
  | fails | finishes | timesOut => cases there

end ReceiverTurn

theorem receiverTurn_eq {p₁ : Pumps} (looks : p.skipped < mostSkipped)
    (h : (if p.receiverAwake w.now = true then receiveOn site r (mostSkipped + 1) p w else (p, w)) =
      (p₁, w₁)) :
    receiverTurn site r deadline p w =
      if p₁.receiverLeft = false ∧ deadline ≤ w₁.now then (p₁.receiverTimesOut r, w₁)
      else (p₁, w₁) := by
  unfold Pumps.receiverAwake at h
  unfold receiverTurn
  dsimp only
  rw [h]
  by_cases late : p₁.receiverLeft = false ∧ deadline ≤ w₁.now
  · rw [if_pos late, if_pos (by simp [late.1, late.2, looks])]
  · rw [if_neg late, if_neg (by simpa [looks] using late)]

/-- A receiver whose time has come, or whose time is up, has one of these turns.  If it is still there
then, its time had come and is not up. -/
theorem receiverTurn_receives (swift : Swift site) (pauses : r.pollInterval ≠ 0)
    (there : p.receiverLeft = false) (looks : p.skipped < mostSkipped)
    (due : p.receiverAwake w.now = true ∨ deadline ≤ w.now) :
    ∃ signal, signal.isTerminal = p.signal.isTerminal ∧
      Receives r deadline { p with signal := signal } w (receiverTurn site r deadline p w) ∧
      ((receiverTurn site r deadline p w).1.receiverLeft = false →
        p.receiverAwake w.now = true ∧ w.now < deadline) := by
  by_cases awake : p.receiverAwake w.now = true
  · have received := receive_receives deadline swift pauses there w
    rcases comes : receive site r p w with ⟨p₁, w₁⟩
    rw [comes] at received
    obtain ⟨signal, same, log, begun, silent, turn⟩ := received
    have once : receiveOn site r (mostSkipped + 1) p w = (p₁, w₁) := by
      rw [receiveOn, comes]
      exact if_neg (by simp [turn.not_ready])
    rw [receiverTurn_eq looks ((if_pos awake).trans once), begun.now_eq]
    refine ⟨signal, same, ?_⟩
    by_cases late : p₁.receiverLeft = false ∧ deadline ≤ w.now
    · rw [if_pos late]
      exact ⟨⟨log, begun, silent, turn.overdue late.1 late.2⟩, Bool.noConfusion⟩
    · rw [if_neg late]
      refine ⟨⟨log, begun, silent, turn⟩, fun left => ⟨awake, ?_⟩⟩
      exact Nat.lt_of_not_le fun due => late ⟨left, due⟩
  · have late : deadline ≤ w.now := due.resolve_left awake
    rw [receiverTurn_eq looks (if_neg awake), if_pos ⟨there, late⟩]
    exact ⟨p.signal, rfl, ⟨[], .refl w, rfl, .timesOut p.applied late⟩, Bool.noConfusion⟩

end Round

end QuorumVault
