/-
A round with a relay that says what it likes and an engine that repeats itself.

`Exchange` is a rehearsal of the device's whole round.  The device's engine has one message
when it is opened and another one once it has what it needs, and for either it names the
server at both places of the committee.  The relay serves what the device has sealed, as if the
server had sent it: the first message under one hash, and under another one the same body or that of
another message.
-/
import QuorumVault.Proofs.Rehearsal.Pair

namespace QuorumVault

/-- A rehearsal of the device's round. -/
structure Exchange where
  keyText : String
  nonce : Nat → Sealing.Nonce
  body : Nat → String
  sealed : ∀ number, Sealing.encode keyText (nonce number) [] = .ok (body number)
  /-- The number of the message that the relay serves under the second hash. -/
  second : Nat

namespace Exchange

open Round

/-- The rehearsal with a given key. -/
def ofKey (key : Sealing.Key) (nonce : Nat → Sealing.Nonce) (second : Nat) : Exchange where
  keyText := Hex.encode key.bytes
  nonce := nonce
  body number := Base64.encode (key.seal (nonce number) [])
  sealed number := by
    unfold Sealing.encode
    rw [Sealing.Key.ofText_encode]
    rfl
  second := second

/-- What the device's engine knows. -/
structure Holding where
  queue : List Bytes
  inputs : Nat

/-- What the device's engine does. -/
def serve (s : Holding) : (c : Engine.Call) → Except Error c.Answer × Holding
  | .openKeygen .. => (.ok 1, s)
  | .openSign .. => (.ok 1, s)
  | .output _ =>
    match s.queue with
    | [] => (.ok none, s)
    | m :: rest => (.ok (some m), { s with queue := rest })
  | .receiver .. => (.ok (some "server"), s)
  | .input .. =>
    match s.inputs with
    | 1 => (.ok true, ⟨s.queue ++ [[]], 2⟩)
    | count => (.ok false, { s with inputs := count + 1 })
  | .finish _ => (.ok [], s)
  | .free _ => (.ok (), s)

variable (p : Exchange)

/-- The device's round. -/
def round : Round where
  sessionId := "session"
  hexEncryptionKey := p.keyText
  party := "device"
  committee := ["device", "server"]
  scope := none
  deadline := 1000
  setupTimeout := 0
  pollInterval := 10
  outboundGrace := 10

/-- What the relay serves under a hash. -/
def served (hash : String) (number : Nat) : Envelope :=
  ⟨"session", "server", ["device"], p.body number, hash, 0⟩

/-- All that the relay serves. -/
def batch : List Envelope :=
  [p.served "one" 0, p.served "two" p.second]

/-- What the relay answers. -/
def answer : (c : Relay.Call) → Except Error c.Answer
  | .register .. => .ok ()
  | .start .. => .ok []
  | .setup .. => .ok ""
  | .upload .. => .ok ()
  | .download .. => .ok p.batch
  | .delete .. => .ok ()
  | .complete .. => .ok ()
  | .completed .. => .ok true

/-- The site. -/
def site : Site Holding Unit Unit where
  engine _ := ⟨serve, fun _ _ => .ok []⟩
  relay := ⟨fun _ _ c => (some 0, p.answer c, ())⟩
  storage := ⟨fun _ _ _ => (none, .error (.of .storage ""), ())⟩
  hasQueue := false
  nonce := p.nonce
  calendar _ := default
  receiverFirst := takeTurns
  patience := 8

/-- The world in which the engine has been opened. -/
def start : World Holding Unit Unit :=
  .start (fun _ => ⟨[[]], 0⟩) () ()

/-- The session of the engine. -/
def session : Session :=
  ⟨.ecdsa, 1, false⟩

/-- The device's envelopes. -/
def envelope (message number : Nat) : Envelope :=
  ⟨"session", "device", ["server"], p.body message, Envelope.contentHash (p.body message), number⟩

/-! ### What happens -/

/-- The engine names the server at a place, and an envelope is left for it. -/
def posting (message place number : Nat) : List Event :=
  [.engine .ecdsa (.receiver 1 [] place) (.ok (some "server"))] ++
    [.asked (.upload (p.envelope message number) none)] ++
    [.answered (.upload (p.envelope message number) none) (.ok ())]

/-- The engine gives out a message. -/
def giving (message number : Nat) : List Event :=
  [.engine .ecdsa (.output 1) (.ok (some []))] ++
    (p.posting message 0 number ++ p.posting message 1 (number + 1))

/-- The engine has no message. -/
def silence : List Event :=
  [.engine .ecdsa (.output 1) (.ok none)]

/-- A message is handed over. -/
def handing (hash : String) (finished : Bool) : List Event :=
  [.engine .ecdsa (.input 1 []) (.ok finished)] ++
    [.asked (.delete "session" "device" hash none)] ++
    [.answered (.delete "session" "device" hash none) (.ok ())]

/-- What the receiver does. -/
def taking : List Event :=
  [.asked (.download "session" "device" none)] ++
    [.answered (.download "session" "device" none) (.ok p.batch)] ++
    (handing "one" false ++ handing "two" true) ++ [.engine .ecdsa (.finish 1) (.ok [])]

/-- Everything that happens. -/
def log : List Event :=
  p.giving 0 0 ++ silence ++ p.taking ++ p.giving 1 2 ++ silence

/-! ### Turns -/

/-- The second world comes at once after the first, and this has happened in between; the engine then
knows what is given, and so many messages were sealed. -/
structure Then (w w' : World Holding Unit Unit) (log : List Event) (s : Holding) (count : Nat) :
    Prop where
  since : w.Since w' log
  holding_eq : w'.engines .ecdsa = s
  now_eq : w'.now = w.now
  sealings_eq : w'.sealings = w.sealings + count

variable {p} {q : Pumps} {w w₁ w₂ : World Holding Unit Unit} {s s' : Holding}
  {log₁ log₂ : List Event} {count₁ count₂ : Nat}

theorem Then.trans (h₁ : Then w w₁ log₁ s count₁) (h₂ : Then w₁ w₂ log₂ s' count₂) :
    Then w w₂ (log₁ ++ log₂) s' (count₁ + count₂) where
  since := h₁.since.trans h₂.since
  holding_eq := h₂.holding_eq
  now_eq := h₂.now_eq.trans h₁.now_eq
  sealings_eq := by rw [h₂.sealings_eq, h₁.sealings_eq, Nat.add_assoc]

/-- The pumps work in the session that was opened. -/
abbrev Opened (q : Pumps) : Prop :=
  q.session.family = .ecdsa ∧ q.session.handle = 1

theorem then_callEngine (p : Exchange) (holds : w.engines .ecdsa = s) (c : Engine.Call)
    (answer : Except Error c.Answer) (serves : serve s c = (answer, s')) :
    ∃ w', w.callEngine p.site .ecdsa c = (answer, w') ∧
      Then w w' [.engine .ecdsa c answer] s' 0 := by
  have call : w.callEngine p.site .ecdsa c = (answer, { w with
      engines := fun f => if f = Family.ecdsa then s' else w.engines f }.record
        (.engine .ecdsa c answer)) := by
    simp only [World.callEngine, site, holds, serves]
  exact ⟨_, call, World.since_callEngine call, rfl, rfl, rfl⟩

theorem then_askRelay (p : Exchange) (holds : w.engines .ecdsa = s) (c : Relay.Call)
    (answer : Except Error c.Answer) (answers : p.answer c = answer) :
    ∃ w', w.askRelay p.site c = (some 0, answer, w') ∧
      Then w (w'.record (.answered c answer)) [.asked c, .answered c answer] s 0 := by
  have ask : w.askRelay p.site c = (some 0, answer, (w.askRelay p.site c).2.2) := by
    rw [← answers]
    rfl
  exact ⟨_, ask, (World.since_askRelay ask).record _, holds, rfl, rfl⟩

/-- What the device does about one place. -/
theorem deliver_cons (p : Exchange) (message place number : Nat) (places : List Nat)
    (opened : Opened q) (count : q.messenger = ⟨"session", none, number⟩)
    (holds : w.engines .ecdsa = s) :
    ∃ w', deliver p.site p.round [] (p.body message) (place :: places) q w =
        deliver p.site p.round [] (p.body message) places
          { q with messenger := q.messenger.next } w' ∧
      Then w w' (p.posting message place number) s 0 := by
  obtain ⟨w₁, call, called⟩ := then_callEngine p holds (.receiver 1 [] place) (.ok (some "server")) rfl
  obtain ⟨w₂, ask, asked⟩ := then_askRelay p called.holding_eq
    (.upload (p.envelope message number) none) (.ok ()) rfl
  refine ⟨_, ?_, called.trans asked⟩
  have addressed : q.messenger.envelope p.round.party "server" (p.body message) =
      p.envelope message number := by
    rw [count]
    rfl
  have scope : p.round.scope = none := rfl
  rw [deliver, opened.1, opened.2, call]
  dsimp only
  rw [if_neg (by decide), addressed, scope, ask]
  rfl

/-- The device gives out a message, which goes to both places. -/
theorem askOutput_some (p : Exchange) {number : Nat} {rest : List Bytes} {inputs : Nat}
    (opened : Opened q) (count : q.messenger = ⟨"session", none, number⟩)
    (holds : w.engines .ecdsa = ⟨[] :: rest, inputs⟩) :
    ∃ w', askOutput p.site p.round q w =
        ({ q with messenger := ⟨"session", none, number + 2⟩, sender := .asking }, w') ∧
      Then w w' (p.giving w.sealings number) ⟨rest, inputs⟩ 1 := by
  obtain ⟨w₁, call, called⟩ := then_callEngine p holds (.output 1) (.ok (some [])) rfl
  have sealed : Sealing.encode p.round.hexEncryptionKey (p.site.nonce w₁.sealings) [] =
      .ok (p.body w.sealings) := by
    rw [called.sealings_eq]
    exact p.sealed w.sealings
  have asks : askOutput p.site p.round q w = deliver p.site p.round [] (p.body w.sealings) [0, 1] q
      w₁.sealOnce := by
    refine Pair.askOutput_of_sealed (r := p.round) ?_ sealed
    rw [opened.1, opened.2]
    exact call
  have seals : Then w w₁.sealOnce [.engine .ecdsa (.output 1) (.ok (some []))] ⟨rest, inputs⟩ 1 :=
    ⟨called.since.sealOnce, called.holding_eq, called.now_eq, congrArg (· + 1) called.sealings_eq⟩
  obtain ⟨w₂, first, posted⟩ :=
    deliver_cons p w.sealings 0 number [1] opened count seals.holding_eq
  obtain ⟨w₃, second, posted'⟩ := deliver_cons p w.sealings 1 (number + 1) []
    (q := { q with messenger := q.messenger.next }) opened (by rw [count]; rfl) posted.holding_eq
  refine ⟨w₃, ?_, seals.trans (posted.trans posted')⟩
  rw [asks, first, second, count]
  rfl

/-- The device has no message for now. -/
theorem askOutput_none (p : Exchange) {inputs : Nat} (opened : Opened q)
    (holds : w.engines .ecdsa = ⟨[], inputs⟩) :
    ∃ w', w.callEngine p.site q.session.family (.output q.session.handle) = (.ok none, w') ∧
      Then w w' silence ⟨[], inputs⟩ 0 := by
  rw [opened.1, opened.2]
  exact then_callEngine p holds (.output 1) (.ok none) rfl

/-- The device's engine takes what was served under either hash, and gives the result. -/
theorem applyBatch_eq (p : Exchange) {queue : List Bytes} (opened : q.session = session)
    (new : q.applied = .empty) (holds : w.engines .ecdsa = ⟨queue, 0⟩) :
    ∃ w' applied, applyBatch p.site p.round p.batch q w =
        ({ q with
            session := { q.session with finished := true }, applied := applied }.receiverLeaves
          (.ok []), w') ∧
      Then w w' (handing "one" false ++ handing "two" true ++ [.engine .ecdsa (.finish 1) (.ok [])])
        ⟨queue ++ [[]], 2⟩ 0 := by
  obtain ⟨w₁, call₁, called₁⟩ := then_callEngine p holds (.input 1 []) (.ok false) rfl
  obtain ⟨w₂, ask₂, asked₂⟩ := then_askRelay p called₁.holding_eq
    (.delete "session" "device" "one" none) (.ok ()) rfl
  obtain ⟨w₃, call₃, called₃⟩ := then_callEngine p asked₂.holding_eq (.input 1 []) (.ok true) rfl
  obtain ⟨w₄, ask₄, asked₄⟩ := then_askRelay p called₃.holding_eq
    (.delete "session" "device" "two" none) (.ok ()) rfl
  obtain ⟨w₅, call₅, called₅⟩ := then_callEngine p asked₄.holding_eq (.finish 1) (.ok []) rfl
  let one := Applied.key "session" "device" none "one"
  let two := Applied.key "session" "device" none "two"
  have foreign : "server" ≠ p.round.party := by simp [round]
  have fresh : q.applied.contains one = false := by rw [new]; rfl
  have fresh' : (q.applied.insert one).contains two = false := by rw [new]; decide +kernel
  have first : applyBatch p.site p.round p.batch q w = applyBatch p.site p.round [p.served "two" p.second]
      { q with applied := q.applied.insert one }
      (w₂.record (.answered (.delete "session" "device" "one" none) (.ok ()))) := by
    refine Pair.applyBatch_of_input (r := p.round) (m := p.served "one" 0) foreign fresh
      (Sealing.decode_eq_ok_of_encode (p.sealed 0)) ?_ ask₂
    rw [opened]
    exact call₁
  have second : applyBatch p.site p.round [p.served "two" p.second]
      { q with applied := q.applied.insert one }
      (w₂.record (.answered (.delete "session" "device" "one" none) (.ok ()))) =
      finishRound p.site { q with applied := (q.applied.insert one).insert two }
        (w₄.record (.answered (.delete "session" "device" "two" none) (.ok ()))) := by
    refine Pair.applyBatch_of_last (r := p.round) (m := p.served "two" p.second) foreign fresh'
      (Sealing.decode_eq_ok_of_encode (p.sealed p.second)) ?_ ask₄
    rw [opened]
    exact call₃
  have last : finishRound p.site { q with applied := (q.applied.insert one).insert two }
      (w₄.record (.answered (.delete "session" "device" "two" none) (.ok ()))) =
      ({ q with
          session := { q.session with finished := true },
          applied := (q.applied.insert one).insert two }.receiverLeaves (.ok []), w₅) :=
    Pair.finishRound_of_answer (by rw [opened]; rfl) (by rw [opened]; exact call₅)
  exact ⟨w₅, _, first.trans (second.trans last),
    ((called₁.trans asked₂).trans (called₃.trans asked₄)).trans called₅⟩

/-- The device's receiver has its only turn. -/
theorem receiverTurn_eq (p : Exchange) {queue : List Bytes} (deadline : Time)
    (opened : q.session = session) (new : q.applied = .empty) (starting : q.receiver = .starting)
    (created : q.signal = .created) (holds : w.engines .ecdsa = ⟨queue, 0⟩) :
    ∃ w' q', receiverTurn p.site p.round deadline q w = (q', w') ∧
      (q'.receiver = .left (.ok []) ∧ q'.signal = .finished ∧ q'.sender = q.sender ∧
        q'.messenger = q.messenger ∧ Opened q') ∧
      Then w w' p.taking ⟨queue ++ [[]], 2⟩ 0 := by
  let q₁ := { q with signal := .awaitingMessages, receiver := .starting }
  have unfailed : q₁.signal ≠ .failed := by simp [q₁]
  obtain ⟨w₁, ask, asked⟩ := then_askRelay p holds
    (.download "session" "device" none) (.ok p.batch) rfl
  obtain ⟨w₂, applied, applies, taken⟩ := p.applyBatch_eq (q := q₁) opened new asked.holding_eq
  let left : Pumps := { q₁ with
    session := { q.session with finished := true }, applied := applied }.receiverLeaves (.ok [])
  have takes : askBatch p.site p.round q₁ w = (left, w₂) :=
    (Pair.askBatch_of_answer (r := p.round) unfailed ask).trans applies
  have receives : receive p.site p.round q w = (left, w₂) := by
    have awaits : q.signal.set .awaitingMessages = .awaitingMessages := by
      rw [created]
      rfl
    rw [receive, starting]
    dsimp only
    rw [awaits]
    exact takes
  have ready : q.receiverReady = true := by
    rw [Pumps.receiverReady, starting]
  refine ⟨w₂, left, ?_, ⟨rfl, rfl, rfl, rfl, congrArg Session.family opened,
    congrArg Session.handle opened⟩, asked.trans taken⟩
  have gone : left.receiverLeft = true := rfl
  have through : left.receiverReady = false := rfl
  simp [receiverTurn, receiveOn, ready, receives, gone, through]

theorem run_eq (p : Exchange) :
    ∃ w', p.round.run p.site session none start = (.done [], w') ∧ start.Since w' p.log ∧
      (w'.engines .ecdsa).queue = [] := by
  let deadline := start.now + p.round.deadline
  let q₀ := p.round.start session
  obtain ⟨w₁, turn₁, gives⟩ := p.askOutput_some (q := q₀) (w := start) ⟨rfl, rfl⟩ rfl rfl
  let q₁ : Pumps := { q₀ with messenger := ⟨"session", none, 2⟩ }
  obtain ⟨w₂, turn₂, silent⟩ := p.askOutput_none (q := q₁) ⟨rfl, rfl⟩ gives.holding_eq
  let q₂ := q₁.senderPauses p.round w₂.now
  obtain ⟨w₃, q₃, turn₃, ⟨left, finished, pausing, counted, opened⟩, takes⟩ :=
    p.receiverTurn_eq (q := q₂) deadline rfl rfl rfl rfl silent.holding_eq
  let t := w₂.now + p.round.pollInterval.pause
  let q₃' := q₃.serve w₃.now t .sender
  have opened' : Opened q₃' := by simpa [q₃', Opened] using opened
  obtain ⟨w₄, turn₄, gives'⟩ := p.askOutput_some (q := q₃') (w := w₃.advanceTo t)
    opened' ((Pumps.serve_messenger ..).trans counted) takes.holding_eq
  let q₄ : Pumps := { q₃' with messenger := ⟨"session", none, 4⟩, sender := .asking }
  obtain ⟨w₅, turn₅, silent'⟩ := p.askOutput_none (q := q₄) opened' gives'.holding_eq
  have first : turn p.site p.round deadline .sender q₀ start = (q₁, w₁) := turn₁
  have second : turn p.site p.round deadline .sender q₁ w₁ = (q₂, w₂) := by
    show askOutput p.site p.round q₁ w₁ = _
    rw [askOutput, turn₂]
    rfl
  have third : turn p.site p.round deadline .receiver q₂ w₂ = (q₃, w₃) := turn₃
  have wakes : q₃.sender = .pausing t := pausing
  have later : next p.site deadline w₃.now q₃ = .later t .sender :=
    next_of_senderWake left (by simp [Pumps.senderReady, wakes]) (by simp [Pumps.senderWake, wakes]) _
  have fourth : turn p.site p.round deadline .sender q₃' (w₃.advanceTo t) = (q₄, w₄) := by
    have waiting : q₃'.sender = .pausing t := (Pumps.serve_sender ..).trans wakes
    show senderTurn p.site p.round q₃' _ = _
    rw [senderTurn, waiting]
    exact turn₄
  have fifth : turn p.site p.round deadline .sender q₄ w₄ =
      ({ q₄ with sender := .lingering (w₅.now + p.round.outboundGrace.pause) }, w₅) := by
    have done : q₄.signal = .finished := (Pumps.serve_signal ..).trans finished
    show askOutput p.site p.round q₄ w₄ = _
    rw [askOutput, turn₅]
    dsimp only
    rw [done]
  let q₅ : Pumps := { q₄ with sender := .lingering (w₅.now + p.round.outboundGrace.pause) }
  have begins : next p.site deadline start.now q₀ = .atOnce .sender := rfl
  have asksOn : next p.site deadline w₁.now q₁ = .atOnce .sender := rfl
  have fetches : next p.site deadline w₂.now q₂ = .atOnce .receiver := rfl
  have asksAgain : next p.site deadline w₄.now q₄ = .atOnce .sender := rfl
  have gone : q₅.receiver = .left (.ok []) := (Pumps.serve_receiver ..).trans left
  have early : Then start w₃ (p.giving 0 0 ++ silence ++ p.taking) ⟨[[]], 2⟩ 1 :=
    (gives.trans silent).trans takes
  have last := gives'.since
  rw [show (w₃.advanceTo t).sealings = 1 from early.sealings_eq] at last
  refine ⟨w₅.advanceTo (w₅.now + p.round.outboundGrace.pause), ?_, ?_, ?_⟩
  · show steps p.site p.round deadline none (1 + 2 + 5) q₀ start = _
    rw [steps_of_atOnce begins, first, steps_of_atOnce asksOn, second, steps_of_atOnce fetches, third,
      steps_of_later later rfl, fourth, steps_of_atOnce asksAgain, fifth]
    exact steps_of_lingering (p := q₅) gone rfl rfl 1
  · exact (early.since.trans last).trans silent'.since
  · exact congrArg Holding.queue silent'.holding_eq

end Exchange

end QuorumVault
