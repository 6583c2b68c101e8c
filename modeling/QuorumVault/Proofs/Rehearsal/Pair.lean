/-
One message on its way.

`Pair` is a rehearsal of two members.  The engine of the device gives out one message and
names the server for it at both places of the committee, so that two envelopes with the
same body are left on the relay.  The relay serves them to the server out of order, and
one of them twice.
-/
import QuorumVault.Proofs.Round.Steps

namespace QuorumVault

/-- A rehearsal of two members with one message. -/
structure Pair where
  key : Sealing.Key
  nonce : Nat → Sealing.Nonce

namespace Pair

open Round

variable (p : Pair)

/-- The session key, in hexadecimal. -/
def keyText : String :=
  Hex.encode p.key.bytes

/-- The body of both envelopes. -/
def body : String :=
  Base64.encode (p.key.seal (p.nonce 0) [])

/-- What the relay knows both envelopes by. -/
def hash : String :=
  Envelope.contentHash p.body

/-- A member's round. -/
def round (party : String) : Round where
  sessionId := "session"
  hexEncryptionKey := p.keyText
  party := party
  committee := ["device", "server"]
  scope := none
  deadline := 1000
  setupTimeout := 0
  pollInterval := 10
  outboundGrace := 10

/-- The device's envelopes. -/
def envelope (number : Nat) : Envelope :=
  ⟨"session", "device", ["server"], p.body, p.hash, number⟩

/-- What the relay serves. -/
def batch : List Envelope :=
  [p.envelope 1, p.envelope 0, p.envelope 1]

/-- What an engine answers, by whether it has given out its message. -/
def serve (given : Bool) : (c : Engine.Call) → Except Error c.Answer
  | .openKeygen .. => .ok 1
  | .openSign .. => .ok 1
  | .output _ => .ok (if given then none else some [])
  | .receiver .. => .ok (some "server")
  | .input .. => .ok false
  | .finish _ => .ok []
  | .free _ => .ok ()

/-- What the relay answers. -/
def answer : (c : Relay.Call) → Except Error c.Answer
  | .register .. => .ok ()
  | .start .. => .ok []
  | .setup .. => .ok ""
  | .upload .. => .ok ()
  | .download .. => .ok p.batch
  | .delete .. => .ok ()
  | .complete .. => .ok ()
  | .completed .. => .ok true

/-- A site of which so many steps are followed. -/
def site (patience : Nat) : Site Bool Unit Unit where
  engine _ := ⟨fun given c => (serve given c, true), fun _ _ => .ok []⟩
  relay := ⟨fun _ _ c => (some 0, p.answer c, ())⟩
  storage := ⟨fun _ _ _ => (none, .error (.of .storage ""), ())⟩
  hasQueue := false
  nonce := p.nonce
  calendar _ := default
  receiverFirst := takeTurns
  patience := patience

/-- The world in which an engine has given out its message, or has not. -/
def start (given : Bool) : World Bool Unit Unit :=
  .start (fun _ => given) () ()

/-- The session of either engine. -/
def session : Session :=
  ⟨.ecdsa, 1, false⟩

theorem encode_eq : Sealing.encode p.keyText (p.nonce 0) [] = .ok p.body := by
  unfold Sealing.encode keyText
  rw [Sealing.Key.ofText_encode]
  rfl

theorem decode_eq : Sealing.decode p.keyText p.body = .ok [] :=
  Sealing.decode_eq_ok_of_encode p.encode_eq

/-! ### Single turns -/

section

variable {ε ρ σ : Type} {site : Site ε ρ σ} {r : Round} {q : Pumps}

theorem askOutput_of_sealed {w w' : World ε ρ σ} {message : Bytes} {body : String}
    (call : w.callEngine site q.session.family (.output q.session.handle) = (.ok (some message), w'))
    (sealed : Sealing.encode r.hexEncryptionKey (site.nonce w'.sealings) message = .ok body) :
    askOutput site r q w =
      deliver site r message body (List.range r.committee.length) q w'.sealOnce := by
  unfold askOutput
  rw [call]
  dsimp only
  rw [sealed]

theorem askBatch_of_answer {w w' : World ε ρ σ} {answer : Except Error (List Envelope)}
    (unfailed : q.signal ≠ .failed)
    (ask : w.askRelay site (.download r.sessionId r.party r.scope) = (some 0, answer, w')) :
    askBatch site r q w = takeBatch site r answer q w' := by
  rw [askBatch, if_neg unfailed, ask]
  rfl

/-- A new message is handed over. -/
theorem applyBatch_of_input {m : Envelope} {rest : List Envelope} {w w₁ w₂ : World ε ρ σ}
    {message : Bytes} {answer : Except Error Unit} (foreign : m.sender ≠ r.party)
    (new : q.applied.contains (Applied.key r.sessionId r.party r.scope m.hash) = false)
    (opens : Sealing.decode r.hexEncryptionKey m.body = .ok message)
    (call : w.callEngine site q.session.family (.input q.session.handle message) = (.ok false, w₁))
    (ask : w₁.askRelay site (.delete r.sessionId r.party m.hash r.scope) = (some 0, answer, w₂)) :
    applyBatch site r (m :: rest) q w = applyBatch site r rest
      { q with applied := q.applied.insert (Applied.key r.sessionId r.party r.scope m.hash) }
      (w₂.record (.answered (.delete r.sessionId r.party m.hash r.scope) answer)) := by
  have fresh : ¬(m.sender = r.party ∨
      q.applied.contains (Applied.key r.sessionId r.party r.scope m.hash) = true) := by
    simp [new, foreign]
  rw [applyBatch, if_neg fresh, opens]
  dsimp only
  rw [call]
  dsimp only
  rw [ask]
  exact if_neg Bool.false_ne_true

/-- The message with which the engine has what it needs is the last one. -/
theorem applyBatch_of_last {m : Envelope} {rest : List Envelope} {w w₁ w₂ : World ε ρ σ}
    {message : Bytes} {answer : Except Error Unit} (foreign : m.sender ≠ r.party)
    (new : q.applied.contains (Applied.key r.sessionId r.party r.scope m.hash) = false)
    (opens : Sealing.decode r.hexEncryptionKey m.body = .ok message)
    (call : w.callEngine site q.session.family (.input q.session.handle message) = (.ok true, w₁))
    (ask : w₁.askRelay site (.delete r.sessionId r.party m.hash r.scope) = (some 0, answer, w₂)) :
    applyBatch site r (m :: rest) q w = finishRound site
      { q with applied := q.applied.insert (Applied.key r.sessionId r.party r.scope m.hash) }
      (w₂.record (.answered (.delete r.sessionId r.party m.hash r.scope) answer)) := by
  have fresh : ¬(m.sender = r.party ∨
      q.applied.contains (Applied.key r.sessionId r.party r.scope m.hash) = true) := by
    simp [new, foreign]
  rw [applyBatch, if_neg fresh, opens]
  dsimp only
  rw [call]
  dsimp only
  rw [ask]
  exact if_pos rfl

theorem finishRound_of_answer {w w' : World ε ρ σ} {answer : Except Error Bytes}
    (first : q.session.finished = false)
    (call : w.callEngine site q.session.family (.finish q.session.handle) = (answer, w')) :
    finishRound site q w =
      ({ q with session := { q.session with finished := true } }.receiverLeaves answer, w') := by
  unfold finishRound Session.finish
  rw [if_neg (by simp [first]), call]

/-- What was handed over is passed over. -/
theorem applyBatch_of_contains {messages : List Envelope} (w : World ε ρ σ)
    (known : ∀ m ∈ messages,
      q.applied.contains (Applied.key r.sessionId r.party r.scope m.hash) = true) :
    applyBatch site r messages q w = (q.receiverPauses r w.now, w) := by
  induction messages with
  | nil => rfl
  | cons m rest ih =>
      rw [applyBatch, if_pos (.inr (known m List.mem_cons_self))]
      exact ih fun m mem => known m (List.mem_cons_of_mem _ mem)

end

/-! ### The device -/

/-- What the device does about a place of the committee. -/
def posting (place : Nat) : List Event :=
  [.engine .ecdsa (.receiver 1 [] place) (.ok (some "server"))] ++
    [.asked (.upload (p.envelope place) none)] ++
    [.answered (.upload (p.envelope place) none) (.ok ())]

/-- What the device does first. -/
def sent : List Event :=
  [.engine .ecdsa (.output 1) (.ok (some []))] ++ (p.posting 0 ++ p.posting 1)

theorem deliver_cons (place : Nat) (places : List Nat) (q : Pumps) (w : World Bool Unit Unit)
    (opened : q.session = session) (count : q.messenger = ⟨"session", none, place⟩) :
    ∃ w', w.Since w' (p.posting place) ∧
      deliver (p.site 1) (p.round "device") [] p.body (place :: places) q w =
        deliver (p.site 1) (p.round "device") [] p.body places
          { q with messenger := q.messenger.next } w' := by
  let called := (w.callEngine (p.site 1) .ecdsa (.receiver 1 [] place)).2
  let asked := (called.askRelay (p.site 1) (.upload (p.envelope place) none)).2.2
  have call : w.callEngine (p.site 1) .ecdsa (.receiver 1 [] place) =
      (.ok (some "server"), called) := rfl
  have ask : called.askRelay (p.site 1) (.upload (p.envelope place) none) =
      (some 0, .ok (), asked) := rfl
  refine ⟨asked.record (.answered (.upload (p.envelope place) none) (.ok ())), ?_, ?_⟩
  · exact ((World.since_callEngine call).trans (World.since_askRelay ask)).record _
  · rw [deliver, opened, count]
    rfl

/-- The device's round as far as its first turn. -/
theorem device_sends :
    (start false).Since ((p.round "device").run (p.site 1) session none (start false)).2 p.sent := by
  let q := (p.round "device").start session
  let q' := { q with messenger := q.messenger.next }
  let given := ((start false).callEngine (p.site 1) .ecdsa (.output 1)).2
  have call : (start false).callEngine (p.site 1) .ecdsa (.output 1) = (.ok (some []), given) := rfl
  have asks : askOutput (p.site 1) (p.round "device") q (start false) =
      deliver (p.site 1) (p.round "device") [] p.body [0, 1] q given.sealOnce :=
    askOutput_of_sealed call p.encode_eq
  obtain ⟨w, first, delivers⟩ := p.deliver_cons 0 [1] q given.sealOnce rfl rfl
  obtain ⟨w', second, delivers'⟩ := p.deliver_cons 1 [] q' w rfl rfl
  have turns : senderTurn (p.site 1) (p.round "device") q (start false) =
      ({ q' with messenger := q'.messenger.next, sender := .asking }, w') := by
    rw [senderTurn]
    exact asks.trans (delivers.trans delivers')
  have first_is_sender (deadline : Time) :
      next (p.site 1) deadline (start false).now q = .atOnce .sender := rfl
  have runs : (p.round "device").run (p.site 1) session none (start false) = (.endless, w') := by
    rw [run]
    show steps _ _ _ _ (0 + 1) q (start false) = _
    rw [steps_of_atOnce (first_is_sender _), steps, turn, turns]
  rw [runs]
  exact (World.since_callEngine call).sealOnce.trans (first.trans second)

/-! ### The server -/

/-- What the server does with the batch. -/
def taking : List Event :=
  [.answered (.download "session" "server" none) (.ok p.batch)] ++
    [.engine .ecdsa (.input 1 []) (.ok false)] ++
    [.asked (.delete "session" "server" p.hash none)] ++
    [.answered (.delete "session" "server" p.hash none) (.ok ())]

/-- What the server does first. -/
def received : List Event :=
  [.engine .ecdsa (.output 1) (.ok none)] ++
    ([.asked (.download "session" "server" none)] ++ p.taking)

/-- The server hands over the first envelope and passes over the others. -/
theorem takeBatch_eq (w : World Bool Unit Unit) (q : Pumps) (opened : q.session = session)
    (new : q.applied = .empty) :
    ∃ w' q', w.Since w' p.taking ∧ q'.receiverReady = false ∧ w'.now = w.now ∧
      takeBatch (p.site 2) (p.round "server") (.ok p.batch) q w = (q', w') := by
  let name := Applied.key "session" "server" none p.hash
  let fetched := w.record (.answered (.download "session" "server" none) (.ok p.batch))
  let called := (fetched.callEngine (p.site 2) .ecdsa (.input 1 [])).2
  let asked := (called.askRelay (p.site 2) (.delete "session" "server" p.hash none)).2.2
  let cleared := asked.record (.answered (.delete "session" "server" p.hash none) (.ok ()))
  let remembering : Pumps := { q with applied := q.applied.insert name }
  have call : fetched.callEngine (p.site 2) q.session.family (.input q.session.handle []) =
      (.ok false, called) := by
    rw [opened]
    rfl
  have ask : called.askRelay (p.site 2) (.delete "session" "server" p.hash none) =
      (some 0, .ok (), asked) := rfl
  have applies : applyBatch (p.site 2) (p.round "server") p.batch q fetched = applyBatch (p.site 2)
      (p.round "server") [p.envelope 0, p.envelope 1] remembering cleared :=
    applyBatch_of_input (by simp [envelope, round]) (by simp [new]) p.decode_eq call ask
  have passes : applyBatch (p.site 2) (p.round "server") [p.envelope 0, p.envelope 1] remembering
      cleared = (remembering.receiverPauses (p.round "server") cleared.now, cleared) :=
    applyBatch_of_contains cleared (by simp [envelope, round, name, remembering])
  refine ⟨cleared, remembering.receiverPauses (p.round "server") cleared.now, ?_, rfl, rfl, ?_⟩
  · rw [opened] at call
    exact (((World.since_record w _).trans (World.since_callEngine call)).trans
      (World.since_askRelay ask)).record _
  · rw [takeBatch]
    exact applies.trans passes

/-- The server's receiver has its first turn. -/
theorem receiverTurn_eq (w : World Bool Unit Unit) (q : Pumps) {deadline : Time}
    (starting : q.receiver = .starting) (unfailed : q.signal.set .awaitingMessages ≠ .failed)
    (opened : q.session = session) (new : q.applied = .empty) (early : w.now < deadline) :
    ∃ w' q', w.Since w' ([.asked (.download "session" "server" none)] ++ p.taking) ∧
      receiverTurn (p.site 2) (p.round "server") deadline q w = (q', w') := by
  let q₁ := { q with signal := q.signal.set .awaitingMessages, receiver := .starting }
  let asked := (w.askRelay (p.site 2) (.download "session" "server" none)).2.2
  have ask : w.askRelay (p.site 2) (.download "session" "server" none) =
      (some 0, .ok p.batch, asked) := rfl
  obtain ⟨w', q', since, waits, noon, takes⟩ := p.takeBatch_eq asked q₁ opened new
  have receives : receive (p.site 2) (p.round "server") q w = (q', w') := by
    have asks : askBatch (p.site 2) (p.round "server") q₁ w = _ := askBatch_of_answer unfailed ask
    rw [receive, starting]
    exact asks.trans takes
  have ready : q.receiverReady = true := by
    rw [Pumps.receiverReady, starting]
  have intime : ¬deadline ≤ w'.now := by
    rw [noon]
    exact Nat.not_le.2 early
  refine ⟨w', q', (World.since_askRelay ask).trans since, ?_⟩
  simp [receiverTurn, receiveOn, ready, receives, waits, intime]

/-- The server's round as far as its receiver's first turn. -/
theorem server_receives :
    (start true).Since ((p.round "server").run (p.site 2) session none (start true)).2
      p.received := by
  let q := (p.round "server").start session
  let w := ((start true).callEngine (p.site 2) .ecdsa (.output 1)).2
  let waiting := q.senderPauses (p.round "server") w.now
  have call : (start true).callEngine (p.site 2) .ecdsa (.output 1) = (.ok none, w) := rfl
  have asks : senderTurn (p.site 2) (p.round "server") q (start true) = (waiting, w) := rfl
  have early : w.now < (start true).now + (p.round "server").deadline := by
    show 0 < 0 + 1000
    decide
  obtain ⟨w', q', since, turns⟩ := p.receiverTurn_eq w waiting rfl nofun rfl rfl early
  have first_is_sender (deadline : Time) :
      next (p.site 2) deadline (start true).now q = .atOnce .sender := rfl
  have then_receiver (deadline : Time) :
      next (p.site 2) deadline w.now waiting = .atOnce .receiver := rfl
  have runs : (p.round "server").run (p.site 2) session none (start true) = (.endless, w') := by
    rw [run]
    show steps _ _ _ _ (1 + 1) q (start true) = _
    rw [steps_of_atOnce (first_is_sender _), turn, asks]
    show steps _ _ _ _ (0 + 1) waiting w = _
    rw [steps_of_atOnce (then_receiver _), steps, turn, turns]
  rw [runs]
  exact (World.since_callEngine call).trans since

end Pair

end QuorumVault
