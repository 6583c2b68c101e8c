/-
A vault can be created.

`Prompt` is a rehearsal in which everyone answers at once and well: the members meet,
the setup messages are there, the other member has sent one message in each round, and
the engines want no more than that.  Creating a vault then succeeds within the time that
the pauses take, whatever the engines give.
-/
import QuorumVault.Proofs.Ceremony.Creation
import QuorumVault.Proofs.Run.InTime
import QuorumVault.Proofs.Vault.Storage

namespace QuorumVault

/-- A rehearsal in which everyone answers at once. -/
structure Prompt where
  party : String
  other : String
  other_ne : other ≠ party
  key : Sealing.Key
  nonce : Sealing.Nonce
  raw : Family → Bytes
  publicKey : Family → Bytes
  chainCode : Bytes

namespace Prompt

variable (p : Prompt)

/-- The session key, in hexadecimal. -/
def keyText : String :=
  Hex.encode p.key.bytes

/-- The body of all messages. -/
def body : String :=
  Base64.encode (p.key.seal p.nonce [])

/-- The other member's message. -/
def message : Envelope :=
  ⟨"", p.other, [p.party], p.body, "", 0⟩

/-- What an engine answers. -/
def serve (family : Family) : (c : Engine.Call) → Except Error c.Answer
  | .openKeygen .. => .ok 1
  | .openSign .. => .ok 1
  | .output _ => .ok none
  | .receiver .. => .ok none
  | .input .. => .ok true
  | .finish _ => .ok (p.raw family)
  | .free _ => .ok ()

/-- What an engine knows of a share. -/
def know (family : Family) : Engine.Query → Except Error Bytes
  | .publicKey _ => .ok (p.publicKey family)
  | .chainCode _ => .ok p.chainCode
  | .childKey .. => .ok (p.publicKey family)

/-- What the relay answers. -/
def answer : (c : Relay.Call) → Except Error c.Answer
  | .register .. => .ok ()
  | .start .. => .ok [p.party, p.other]
  | .setup .. => .ok p.body
  | .upload .. => .ok ()
  | .download .. => .ok [p.message]
  | .delete .. => .ok ()
  | .complete .. => .ok ()
  | .completed .. => .ok true

/-- The site, with a storage in memory. -/
def site : Site Unit Unit (SealedStore × Nat) where
  engine family := ⟨fun _ c => (p.serve family c, ()), fun _ q => p.know family q⟩
  relay := ⟨fun _ _ c => (some 0, p.answer c, ())⟩
  storage := SealedStore.storage fun _ => p.nonce
  hasQueue := false
  nonce _ := p.nonce
  calendar _ := default
  receiverFirst := takeTurns
  patience := 8

theorem storage_faithful : p.site.storage.Faithful :=
  SealedStore.storage_faithful fun _ => p.nonce

/-- There is something in the text of a key. -/
theorem keyText_not_blank : ¬Text.Blank p.keyText := by
  intro blank
  have long := p.key.length_bytes
  cases bytes : p.key.bytes with
  | nil =>
      rw [bytes] at long
      cases long
  | cons b rest =>
      have first : Hex.digit (b.toNat / 16) ∈ p.keyText.toList := by
        unfold keyText
        rw [Hex.encode, String.toList_ofList, bytes]
        exact List.mem_cons_self
      have lt := b.toNat_lt
      have unblank := Hex.isBlank_digit (b.toNat / 16) (by omega)
      exact Bool.false_ne_true (unblank.symm.trans (blank _ first))

theorem decode_body : Sealing.decode p.keyText p.body = .ok [] := by
  have sealed : Sealing.encode p.keyText p.nonce [] = .ok p.body := by
    unfold Sealing.encode keyText
    rw [Sealing.Key.ofText_encode]
    rfl
  exact Sealing.decode_eq_ok_of_encode sealed

/-! ### A round -/

open Round

variable {p} {r : Round} {family : Family} {q : Pumps} {w : World Unit Unit (SealedStore × Nat)}

/-- The receiver has left with the share, and the sender is where it was. -/
structure Received (p : Prompt) (family : Family) (q : Pumps)
    (w : World Unit Unit (SealedStore × Nat))
    (after : Pumps × World Unit Unit (SealedStore × Nat)) : Prop where
  receiver : after.1.receiver = .left (.ok (p.raw family))
  signal : after.1.signal = .finished
  sender : after.1.sender = q.sender
  family_eq : after.1.session.family = family
  now_eq : after.2.now = w.now

theorem finishRound_received (family_eq : q.session.family = family)
    (unfinished : q.session.finished = false) (going : q.signal.isTerminal = false) :
    p.Received family q w (finishRound p.site q w) := by
  unfold finishRound Session.finish
  rw [unfinished]
  have finished : q.signal.set .finished = .finished := by
    unfold RoundState.set
    rw [going]
    rfl
  refine ⟨?_, finished, rfl, family_eq, rfl⟩
  subst family_eq
  rfl

/-- The other member's message ends the round. -/
theorem applyBatch_received (party : r.party = p.party) (keyText : r.hexEncryptionKey = p.keyText)
    (new : q.applied = .empty) (family_eq : q.session.family = family)
    (unfinished : q.session.finished = false) (going : q.signal.isTerminal = false) :
    p.Received family q w (applyBatch p.site r [p.message] q w) := by
  have taken : ¬(p.message.sender = r.party ∨
      q.applied.contains (Applied.key r.sessionId r.party r.scope p.message.hash) = true) := by
    rw [party, new]
    simp [message, p.other_ne]
  have opened : Sealing.decode r.hexEncryptionKey p.message.body = .ok [] := by
    rw [keyText]
    exact p.decode_body
  unfold applyBatch
  dsimp only
  rw [if_neg taken, opened]
  have finished := finishRound_received (p := p) (q := { q with
    applied := q.applied.insert (Applied.key r.sessionId r.party r.scope p.message.hash) })
    (w := ((w.record (.engine q.session.family (.input q.session.handle []) (.ok true))).record
      (.asked (.delete r.sessionId r.party p.message.hash r.scope))).record
      (.answered (.delete r.sessionId r.party p.message.hash r.scope) (.ok ())))
    family_eq unfinished going
  exact ⟨finished.receiver, finished.signal, finished.sender, finished.family_eq, finished.now_eq⟩

theorem askBatch_received (party : r.party = p.party) (keyText : r.hexEncryptionKey = p.keyText)
    (new : q.applied = .empty) (family_eq : q.session.family = family)
    (unfinished : q.session.finished = false) (going : q.signal = .awaitingMessages) :
    p.Received family q w (askBatch p.site r q w) := by
  have sound : q.signal ≠ .failed := by
    rw [going]
    nofun
  have fetched : askBatch p.site r q w = applyBatch p.site r [p.message] q
      ((w.record (.asked (.download r.sessionId r.party r.scope))).record
        (.answered (.download r.sessionId r.party r.scope) (.ok [p.message]))) := by
    unfold askBatch
    rw [if_neg sound]
    rfl
  rw [fetched]
  have applied := applyBatch_received (q := q) (w := (w.record
    (.asked (.download r.sessionId r.party r.scope))).record
      (.answered (.download r.sessionId r.party r.scope) (.ok [p.message])))
    party keyText new family_eq unfinished (by rw [going]; rfl)
  exact ⟨applied.receiver, applied.signal, applied.sender, applied.family_eq, applied.now_eq⟩

/-- The first turn of the receiver is its last. -/
theorem receiverTurn_received {deadline : Time} (party : r.party = p.party)
    (keyText : r.hexEncryptionKey = p.keyText) (starting : q.receiver = .starting)
    (created : q.signal = .created) (new : q.applied = .empty)
    (family_eq : q.session.family = family) (unfinished : q.session.finished = false) :
    p.Received family q w (receiverTurn p.site r deadline q w) := by
  have received : p.Received family q w (receive p.site r q w) := by
    have awaits : RoundState.created.set .awaitingMessages = .awaitingMessages := rfl
    have asked := askBatch_received (w := w)
      (q := { q with signal := .awaitingMessages, receiver := .starting })
      party keyText new family_eq unfinished rfl
    unfold receive
    rw [starting]
    dsimp only
    rw [created, awaits]
    exact ⟨asked.receiver, asked.signal, asked.sender, asked.family_eq, asked.now_eq⟩
  have ready : q.receiverReady = true := by
    unfold Pumps.receiverReady
    rw [starting]
  have gone : (receive p.site r q w).1.receiverLeft = true := by
    unfold Pumps.receiverLeft
    rw [received.receiver]
  have through : (receive p.site r q w).1.receiverReady = false := by
    unfold Pumps.receiverReady
    rw [received.receiver]
  have once (bound : Nat) : receiveOn p.site r (bound + 1) q w = receive p.site r q w := by
    rw [receiveOn]
    dsimp only
    rw [through]
    rfl
  unfold receiverTurn
  rw [ready]
  simp only [Bool.true_or, if_true, once, gone, Bool.not_true, Bool.false_and, Bool.false_eq_true,
    if_false]
  exact received

/-- The engine has no messages, so the sender does what the signal says. -/
theorem askOutput_of_finished (signal : q.signal = .finished) :
    askOutput p.site r q w =
      ({ q with sender := .lingering (w.now + r.outboundGrace.pause) },
        w.record (.engine q.session.family (.output q.session.handle) (.ok none))) := by
  have asked : w.callEngine p.site q.session.family (.output q.session.handle) =
      (.ok none, w.record (.engine q.session.family (.output q.session.handle) (.ok none))) := rfl
  unfold askOutput
  rw [asked]
  dsimp only
  rw [signal]
  rfl

theorem steps_of_pausing {deadline t : Time} {limit : Option Time} {raw : Bytes}
    (receiver : q.receiver = .left (.ok raw)) (signal : q.signal = .finished)
    (sender : q.sender = .pausing t) (left : Run.exceeds limit t = false)
    (left' : Run.exceeds limit (max w.now t + r.outboundGrace.pause) = false) (bound : Nat) :
    ∃ w', steps p.site r deadline limit (bound + 3) q w = (.done raw, w') ∧
      w'.now = max w.now t + r.outboundGrace.pause := by
  have later : next p.site deadline w.now q = .later t .sender :=
    next_of_senderWake receiver (by simp [Pumps.senderReady, sender])
      (by simp [Pumps.senderWake, sender]) w.now
  have turned : turn p.site r deadline .sender (q.serve w.now t .sender) (w.advanceTo t) =
      ({ q.serve w.now t .sender with sender := .lingering (max w.now t + r.outboundGrace.pause) },
        (w.advanceTo t).record (.engine q.session.family (.output q.session.handle) (.ok none))) := by
    unfold turn senderTurn
    dsimp only
    rw [Pumps.serve_sender, sender]
    dsimp only
    rw [askOutput_of_finished (by rw [Pumps.serve_signal, signal]), Pumps.serve_session]
    rfl
  rw [steps_of_later later left, turned]
  refine ⟨_, steps_of_lingering ?_ rfl left' bound, ?_⟩
  · show (q.serve w.now t .sender).receiver = _
    rw [Pumps.serve_receiver, receiver]
  · show max (max w.now t) (max w.now t + r.outboundGrace.pause) = _
    exact Nat.max_eq_right (Nat.le_add_right _ _)

/-- Two pauses after its start the round is done. -/
theorem run_doneIn (party : r.party = p.party) (keyText : r.hexEncryptionKey = p.keyText)
    (pauses : r.pollInterval ≠ 0) (handle : Engine.Handle) :
    (r.run p.site ⟨family, handle, false⟩).DoneIn (r.pollInterval.pause + r.outboundGrace.pause)
      (p.raw family) := by
  intro limit w left
  have waits (q : Pumps) : q.skips r.pollInterval = false := by
    unfold Pumps.skips
    rw [decide_eq_false pauses]
    rfl
  let q₁ : Pumps :=
    { r.start ⟨family, handle, false⟩ with sender := .pausing (w.now + r.pollInterval.pause) }
  let w₁ := w.record (.engine family (.output handle) (.ok none))
  have first : turn p.site r (w.now + r.deadline) .sender
      (r.start ⟨family, handle, false⟩) w = (q₁, w₁) := by
    show (Pumps.senderPauses r w.now (r.start ⟨family, handle, false⟩), w₁) = _
    unfold Pumps.senderPauses
    rw [waits]
    rfl
  have received : p.Received family q₁ w₁ (receiverTurn p.site r (w.now + r.deadline) q₁ w₁) :=
    receiverTurn_received party keyText rfl rfl rfl rfl rfl
  have begun (bound : Nat) : steps p.site r (w.now + r.deadline) limit (bound + 2)
      (r.start ⟨family, handle, false⟩) w =
        steps p.site r (w.now + r.deadline) limit bound
          (receiverTurn p.site r (w.now + r.deadline) q₁ w₁).1
          (receiverTurn p.site r (w.now + r.deadline) q₁ w₁).2 := by
    have sends : next p.site (w.now + r.deadline) w.now (r.start ⟨family, handle, false⟩) =
        .atOnce .sender := rfl
    have receives : next p.site (w.now + r.deadline) w₁.now q₁ = .atOnce .receiver := rfl
    rw [steps_of_atOnce sends, first]
    exact steps_of_atOnce receives bound
  show ∃ w', steps p.site r (w.now + r.deadline) limit (6 + 2) _ w = _ ∧ _
  rw [begun]
  generalize receiverTurn p.site r (w.now + r.deadline) q₁ w₁ = after at received
  obtain ⟨q₂, w₂⟩ := after
  have now_eq : w₂.now = w.now := received.now_eq
  have later : max w₂.now (w.now + r.pollInterval.pause) = w.now + r.pollInterval.pause := by
    rw [now_eq]
    exact Nat.max_eq_right (Nat.le_add_right _ _)
  have soon : w.now + r.pollInterval.pause ≤ w.now + (r.pollInterval.pause + r.outboundGrace.pause) :=
    Nat.add_le_add_left (Nat.le_add_right _ _) _
  obtain ⟨w₃, done, done_now⟩ := steps_of_pausing (p := p) (r := r) (w := w₂) received.receiver
    received.signal received.sender (left.not_exceeds soon)
    (by rw [later]; exact left.not_exceeds (Nat.le_of_eq (Nat.add_assoc ..))) 3
  refine ⟨w₃, done, ?_⟩
  rw [done_now, later]
  exact Nat.le_of_eq (Nat.add_assoc ..)

/-! ### The ceremony -/

/-- The configured times leave all pauses of a round enough. -/
structure Timely (t : Timeouts) : Prop where
  pauses : t.pollInterval ≠ 0
  counted : t.roundBudget t.keygenRound / 1000 ≤ Duration.maxSeconds
  enough : t.pollInterval.pause + t.outboundGrace.pause ≤
    t.roundBudget t.keygenRound

theorem timely_default : Timely default := by
  constructor <;> decide

variable {config : EngineConfig} {request : KeygenRequest} {committee : List String}

/-- What a round leaves. -/
def outcome (p : Prompt) (family : Family) : Keygen.Outcome where
  publicKey := Hex.encode (p.publicKey family)
  chainCode := match family with
    | .ecdsa => some (Hex.encode p.chainCode)
    | .eddsa => none
  share := Base64.encode (p.raw family)

theorem attempt_doneIn (party : request.localPartyId = p.party)
    (keyText : request.hexEncryptionKey = p.keyText) (timely : Timely config.timeouts) :
    (Keygen.attempt p.site config request committee family).DoneIn
      (config.timeouts.pollInterval.pause + config.timeouts.outboundGrace.pause)
      (p.outcome family) := by
  let r := Keygen.round config request committee family
  have fetched : (r.fetchSetup p.site).DoneIn 0 [] := by
    refine .after (x := p.body) (.askRelay fun _ _ => ⟨(), rfl⟩) ?_
    rw [show r.hexEncryptionKey = p.keyText from keyText, p.decode_body]
    exact .ofExcept []
  have opens : (Session.start p.site family (.keygen [] request.localPartyId)).DoneIn 0
      ⟨family, 1, false⟩ :=
    .after (x := 1) (.callEngine fun _ => ⟨(), rfl⟩) (.done _)
  have worked := Run.DoneIn.withSession opens (run_doneIn (r := r) party keyText timely.pauses 1)
  have keyed : (Run.queryEngine p.site family (.publicKey (p.raw family))).DoneIn 0
      (p.publicKey family) :=
    .queryEngine fun _ => rfl
  have chained : (Keygen.chainCode p.site (p.raw family) family).DoneIn 0
      (p.outcome family).chainCode := by
    cases family with
    | ecdsa => exact .after (x := p.chainCode) (.queryEngine fun _ => rfl) (.done _)
    | eddsa => exact .done _
  exact fetched.after (worked.before (keyed.after (chained.after (.done _))))

/-- The time that the pauses of a round take. -/
abbrev pausing (config : EngineConfig) : Duration :=
  config.timeouts.pollInterval.pause + config.timeouts.outboundGrace.pause

theorem attempts_doneIn (party : request.localPartyId = p.party)
    (keyText : request.hexEncryptionKey = p.keyText) (timely : Timely config.timeouts) :
    (Keygen.attempts p.site config request committee family).DoneIn (pausing config)
      (p.outcome family) := by
  let t := config.timeouts
  let policy := (RetryPolicy.make t.retryAttempts t.retryBackoff).withOverallDeadline
    (t.roundBudget t.keygenRound)
  have policy_eq : config.timeouts.keygenRetry? = some policy := if_pos timely.counted
  have tried : (policy.run (Keygen.label family) fun _ =>
      Keygen.attempt p.site config request committee family).DoneIn (pausing config)
        (p.outcome family) := by
    refine .attempts (Timeouts.maxAttempts_pos policy_eq)
      (attempt_doneIn party keyText timely) fun deadline limited => ?_
    cases limited
    exact timely.enough
  unfold Keygen.attempts
  rw [policy_eq]
  exact tried.attempt.before (.after (x := ()) (.record _) (.done _))

theorem rounds_doneIn (valid : request.check = .ok ()) (party : request.localPartyId = p.party)
    (keyText : request.hexEncryptionKey = p.keyText) (timely : Timely config.timeouts) :
    (Keygen.rounds p.site config request).DoneIn
      (pausing config + (config.timeouts.settleDelay.pause + pausing config))
      ⟨[p.party, p.other], p.outcome .ecdsa, p.outcome .eddsa⟩ := by
  have checked : (Run.ofExcept (request.check.mapError RequestFault.error) :
      Run Unit Unit (SealedStore × Nat) Unit).DoneIn 0 () := by
    rw [valid]
    exact .ofExcept ()
  have present : Committee.check [p.party, p.other] request.localPartyId none = .ok () := by
    rw [party]
    simp [Committee.check]
  have met : (Keygen.gather p.site config request).DoneIn 0 [p.party, p.other] := by
    refine .after (x := ()) (.askRelay fun _ _ => ⟨(), rfl⟩) ?_
    refine .after (x := [p.party, p.other]) (.askRelay fun _ _ => ⟨(), rfl⟩) ?_
    rw [present]
    exact .after (x := ()) (.ofExcept ()) (.done _)
  have attempted (family : Family) : (Keygen.attempts p.site config request [p.party, p.other]
      family).DoneIn (pausing config) (p.outcome family) :=
    attempts_doneIn party keyText timely
  refine checked.after (met.after ((attempted .ecdsa).bind ?_))
  exact (Run.DoneIn.wait _).bind ((attempted .eddsa).before (.done _))

theorem save_doneIn (m : Keygen.Made) (fileName content : String) :
    (Keygen.save p.site config request m fileName content).DoneIn 0
      (m.ecdsa.publicKey, m.eddsa.publicKey) := by
  have sends : (Keygen.sendBackup p.site config request fileName content).DoneIn 0 () := by
    unfold Keygen.sendBackup
    cases Keygen.emailTask? p.site config request fileName content with
    | none => exact .done ()
    | some task => exact .record _
  exact .after (x := ()) (.askStorage fun _ _ => ⟨_, rfl⟩) (sends.after (.done _))

/-- If everyone answers at once, a vault is created, and its keys are the engines'. -/
theorem createVault_doneIn (valid : request.check = .ok ())
    (party : request.localPartyId = p.party) (keyText : request.hexEncryptionKey = p.keyText)
    (timely : Timely config.timeouts) :
    (Keygen.createVault p.site config request).DoneIn
      (pausing config + (config.timeouts.settleDelay.pause + pausing config))
      (Hex.encode (p.publicKey .ecdsa), Hex.encode (p.publicKey .eddsa)) := by
  let m : Keygen.Made := ⟨[p.party, p.other], p.outcome .ecdsa, p.outcome .eddsa⟩
  have left : (Keygen.leave p.site request m.committee).DoneIn 0 () := by
    have completes : (Run.askRelay p.site (Keygen.completeCall request)).DoneIn 0 () :=
      .askRelay fun _ _ => ⟨(), rfl⟩
    have completed : (Run.askRelay p.site (Keygen.completedCall request m)).DoneIn 0 true :=
      .askRelay fun _ _ => ⟨(), rfl⟩
    exact completes.attempt.after (completed.attempt.after (.done _))
  have stores : (Keygen.store p.site config request m).DoneIn 0
      (m.ecdsa.publicKey, m.eddsa.publicKey) := by
    intro limit w left
    obtain ⟨v, nonce, -, store_eq⟩ := Keygen.store_eq p.site config request m limit w
    rw [store_eq]
    exact save_doneIn m _ _ limit w.sealOnce left
  rw [Keygen.createVault_eq]
  exact (rounds_doneIn valid party keyText timely).before (left.after stores)

/-! ### A treasury -/

/-- A server and a device, and the plainest keys there are. -/
def treasury : Prompt where
  party := "server"
  other := "device"
  other_ne := by decide
  key := ⟨List.replicate 32 0, rfl⟩
  nonce := Vector.replicate 12 0
  raw
    | .ecdsa => [1]
    | .eddsa => [2]
  publicKey
    | .ecdsa => [1]
    | .eddsa => [2]
  chainCode := [0]

/-- What the server asks for. -/
def treasuryRequest : KeygenRequest where
  name := "treasury"
  sessionId := "session"
  hexEncryptionKey := treasury.keyText
  localPartyId := "server"
  encryptionPassword := "secret"
  email := none
  pluginId := "plugin"

theorem treasuryRequest_check : treasuryRequest.check = .ok () := by
  have filled {field text : String} (h : ¬Text.Blank text) :
      RequestFault.require field text = .ok () := if_neg h
  have name : ¬Text.Blank treasuryRequest.name := by decide
  have sessionId : ¬Text.Blank treasuryRequest.sessionId := by decide
  have party : ¬Text.Blank treasuryRequest.localPartyId := by decide
  have password : ¬Text.Blank treasuryRequest.encryptionPassword := by decide
  have key : ¬Text.Blank treasuryRequest.hexEncryptionKey := treasury.keyText_not_blank
  unfold KeygenRequest.check
  rw [filled name, filled sessionId, filled party, filled password, filled key]
  rfl

/-- Nothing has happened, and nothing is stored. -/
def treasuryStart : World Unit Unit (SealedStore × Nat) :=
  .start (fun _ => ()) () (.empty treasury.key, 0)

end Prompt

end QuorumVault
