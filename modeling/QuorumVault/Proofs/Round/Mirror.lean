/-
The same round over another relay.

A round passes over what it has applied and what its own member has sent, so it does not
matter whether the relay still serves it.  Two relays mirror each other if they answer a
round's calls at the same times and with the same news, that is, with the same messages but
for those that are passed over.  Whether an envelope is taken or refused is noticed and
forgotten.  Over such relays a round does the same at the same times and comes out the same.

The two receivers may hold different batches while they wait; all that is to be known is that
what is new in them is the same.  What is new becomes less as messages are applied and never
more, and that carries the relation through a batch.
-/
import QuorumVault.Proofs.Round.Steps
import QuorumVault.Proofs.Run.Twin

namespace QuorumVault.Round

variable {ε ρ ρ' σ : Type}

/-! ### News -/

/-- What is new in a batch: all but the round's own messages and those that were applied. -/
def news (r : Round) (applied : Applied) (batch : List Envelope) : List Envelope :=
  batch.filter fun m => ¬(m.sender = r.party ∨ applied.contains (Pumps.keyOf r m) = true)

section

variable {r : Round} {applied : Applied} {batch batch' : List Envelope} {m : Envelope}

theorem news_cons_of_new (new : ¬(m.sender = r.party ∨ applied.contains (Pumps.keyOf r m) = true)) :
    r.news applied (m :: batch) = m :: r.news applied batch :=
  List.filter_cons_of_pos (by simpa using new)

theorem news_cons_of_old (old : m.sender = r.party ∨ applied.contains (Pumps.keyOf r m) = true) :
    r.news applied (m :: batch) = r.news applied batch :=
  List.filter_cons_of_neg (by simpa only [decide_eq_true_eq, Decidable.not_not] using old)

/-- What is new was so before. -/
theorem news_insert (name : String) :
    r.news (applied.insert name) batch = r.news (applied.insert name) (r.news applied batch) := by
  unfold news
  rw [List.filter_filter]
  refine List.filter_congr fun m _ => ?_
  by_cases own : m.sender = r.party <;> by_cases old : applied.contains (Pumps.keyOf r m) = true <;>
    simp [own, old]

/-- With the same news there are the same news later on. -/
theorem news_insert_congr (same : r.news applied batch = r.news applied batch') (name : String) :
    r.news (applied.insert name) batch = r.news (applied.insert name) batch' := by
  rw [news_insert, same, ← news_insert]

end

/-- Two answers to a download bring the same news, and the same is seen of them. -/
inductive SameNews (view : View) (r : Round) (applied : Applied) :
    Except Error (List Envelope) → Except Error (List Envelope) → Prop
  | failed (e : Error) : SameNews view r applied (.error e) (.error e)
  | served {batch batch'} (same : r.news applied batch = r.news applied batch')
      (seen : view (.answered (downloadCall r) (.ok batch)) =
        view (.answered (downloadCall r) (.ok batch'))) :
      SameNews view r applied (.ok batch) (.ok batch')

theorem SameNews.refl (view : View) (r : Round) (applied : Applied)
    (answer : Except Error (List Envelope)) : SameNews view r applied answer answer := by
  cases answer with
  | error e => exact .failed e
  | ok batch => exact .served rfl rfl

/-- Two relays mirror each other in a round.  The relation between them is given what the round has
applied. -/
structure Mirror (view : View) (r : Round) (R : Applied → ρ → ρ' → Prop) (relay : Relay ρ)
    (relay' : Relay ρ') : Prop where
  grows : ∀ {applied s s'} name, R applied s s' → R (applied.insert name) s s'
  upload : ∀ {applied s s'} now envelope, R applied s s' →
    relay.Matches relay' s s' now (.upload envelope r.scope)
      (fun x x' => view (.answered (.upload envelope r.scope) x) =
        view (.answered (.upload envelope r.scope) x'))
      (R applied)
  download : ∀ {applied s s'} now, R applied s s' →
    relay.Matches relay' s s' now (downloadCall r) (SameNews view r applied) (R applied)
  /-- What was applied is taken off at the same time, if it is taken off. -/
  delete : ∀ {applied s s'} now hash,
    applied.contains (Applied.key r.sessionId r.party r.scope hash) = true → R applied s s' →
      relay.Matches relay' s s' now (deleteCall r hash)
        (fun x x' => view (.answered (deleteCall r hash) x) = view (.answered (deleteCall r hash) x'))
        (R applied)

/-! ### Pumps -/

/-- Two senders do the same, whether or not an envelope was taken. -/
inductive Sender.Twin (view : View) (r : Round) : Sender → Sender → Prop
  | same (sender) : Twin view r sender sender
  | uploading {message body rest envelope answer answer'}
      (seen : view (.answered (.upload envelope r.scope) answer) =
        view (.answered (.upload envelope r.scope) answer')) (ready) :
      Twin view r (.uploading message body rest envelope answer ready)
        (.uploading message body rest envelope answer' ready)

/-- Two receivers do the same with the same news. -/
inductive Receiver.Twin (view : View) (r : Round) (applied : Applied) :
    Receiver → Receiver → Prop
  | starting : Twin view r applied .starting .starting
  | asking : Twin view r applied .asking .asking
  | downloading {answer answer'} (same : SameNews view r applied answer answer') (ready) :
      Twin view r applied (.downloading answer ready) (.downloading answer' ready)
  | deleting {rest rest' hash answer answer'} (same : r.news applied rest = r.news applied rest')
      (seen : view (.answered (deleteCall r hash) answer) =
        view (.answered (deleteCall r hash) answer')) (finished ready) :
      Twin view r applied (.deleting finished rest hash answer ready)
        (.deleting finished rest' hash answer' ready)
  | pausing (ready) : Twin view r applied (.pausing ready) (.pausing ready)
  | left (result) : Twin view r applied (.left result) (.left result)

/-- They still do when something was applied. -/
theorem Receiver.Twin.insert {view : View} {r : Round} {applied : Applied}
    {receiver receiver' : Receiver} (h : receiver.Twin view r applied receiver') (name : String) :
    receiver.Twin view r (applied.insert name) receiver' := by
  cases h with
  | starting => exact .starting
  | asking => exact .asking
  | downloading same ready =>
      cases same with
      | failed e => exact .downloading (.failed e) ready
      | served same seen => exact .downloading (.served (news_insert_congr same name) seen) ready
  | deleting same seen finished ready =>
      exact .deleting (news_insert_congr same name) seen finished ready
  | pausing ready => exact .pausing ready
  | left result => exact .left result

/-- The pumps differ in what they are doing and no more, and they do the same. -/
inductive Pumps.Twin (view : View) (r : Round) (p : Pumps) : Pumps → Prop
  | intro {sender receiver} (sends : p.sender.Twin view r sender)
      (receives : p.receiver.Twin view r p.applied receiver) :
      Twin view r p { p with sender := sender, receiver := receiver }

/-- Two states of a round are twins. -/
structure Twins (view : View) (r : Round) (R : Applied → ρ → ρ' → Prop)
    (x : Pumps × World ε ρ σ) (x' : Pumps × World ε ρ' σ) : Prop where
  pumps : x.1.Twin view r x'.1
  world : x.2.Twin view (R x.1.applied) x'.2

section

variable {view : View} {r : Round} {R : Applied → ρ → ρ' → Prop} {site : Site ε ρ σ}
  {relay' : Relay ρ'} {p p' : Pumps} {w : World ε ρ σ} {w' : World ε ρ' σ}

/-- Twin pumps are the same but for what they are doing. -/
theorem Twins.cases (h : Twins view r R (p, w) (p', w')) :
    ∃ sender receiver, p' = { p with sender := sender, receiver := receiver } ∧
      p.sender.Twin view r sender ∧ p.receiver.Twin view r p.applied receiver ∧
      w.Twin view (R p.applied) w' := by
  obtain ⟨⟨sender, receiver⟩, world⟩ := h
  exact ⟨_, _, rfl, sender, receiver, world⟩

namespace Twins

theorem applied_eq (h : Twins view r R (p, w) (p', w')) : p'.applied = p.applied := by
  obtain ⟨_, _, rfl, -, -, -⟩ := h.cases
  rfl

theorem record (h : Twins view r R (p, w) (p', w')) {e e' : Event} (same : view e = view e') :
    Twins view r R (p, w.record e) (p', w'.record e') :=
  ⟨h.pumps, h.world.record same⟩

theorem senderLeaves (h : Twins view r R (p, w) (p', w')) (result : Except Error Unit) :
    Twins view r R (p.senderLeaves result, w) (p'.senderLeaves result, w') := by
  obtain ⟨_, _, rfl, -, receiver, world⟩ := h.cases
  exact ⟨.intro (.same _) receiver, world⟩

theorem senderPauses (h : Twins view r R (p, w) (p', w')) :
    Twins view r R (p.senderPauses r w.now, w) (p'.senderPauses r w'.now, w') := by
  obtain ⟨_, _, rfl, sender, receiver, world⟩ := h.cases
  rw [← world.now]
  unfold Pumps.senderPauses Pumps.skips
  dsimp only
  split <;> exact ⟨.intro (.same _) receiver, world⟩

theorem receiverLeaves (h : Twins view r R (p, w) (p', w')) (result : Except Error Bytes) :
    Twins view r R (p.receiverLeaves result, w) (p'.receiverLeaves result, w') := by
  obtain ⟨_, _, rfl, sender, receiver, world⟩ := h.cases
  exact ⟨.intro sender (.left result), world⟩

theorem receiverPauses (h : Twins view r R (p, w) (p', w')) :
    Twins view r R (p.receiverPauses r w.now, w) (p'.receiverPauses r w'.now, w') := by
  obtain ⟨_, _, rfl, sender, receiver, world⟩ := h.cases
  rw [← world.now]
  unfold Pumps.receiverPauses Pumps.skips
  dsimp only
  split
  · exact ⟨.intro sender .asking, world⟩
  · exact ⟨.intro sender (.pausing _), world⟩

end Twins

/-! ### The sender -/

theorem deliver_twins (mirror : Mirror view r R site.relay relay') (message : Bytes) (body : String)
    (indices : List Nat) (h : Twins view r R (p, w) (p', w')) :
    Twins view r R (deliver site r message body indices p w)
      (deliver (site.over relay') r message body indices p' w') := by
  induction indices generalizing p p' w w' with
  | nil =>
      obtain ⟨_, _, rfl, sender, receiver, world⟩ := h.cases
      exact ⟨.intro (.same _) receiver, world⟩
  | cons index rest ih =>
      obtain ⟨_, _, rfl, sender, receiver, world⟩ := h.cases
      obtain ⟨answer, w₁, w₁', called, called', world₁⟩ := world.callEngine site relay'
        p.session.family (.receiver p.session.handle message index)
      rw [deliver, deliver]
      dsimp only
      rw [called, called']
      cases answer with
      | error e => exact ⟨.intro (.same _) receiver, world₁⟩
      | ok place =>
          cases place with
          | none => exact ih ⟨.intro sender receiver, world₁⟩
          | some recipient =>
              dsimp only
              by_cases nobody : recipient = ""
              · rw [if_pos nobody, if_pos nobody]
                exact ih ⟨.intro sender receiver, world₁⟩
              · rw [if_neg nobody, if_neg nobody]
                obtain ⟨took, answer, answer', w₂, w₂', seen, asked, asked', world₂⟩ :=
                  world₁.askRelay (mirror.upload _ (p.messenger.envelope r.party recipient body)
                    world₁.relay)
                rw [asked, asked']
                obtain ⟨_, _, -, -, rfl⟩ := world₂.exists_over
                -- An upload that takes no time is over at once; both senders wait for any other.
                rcases took with _ | _ | d
                · exact ⟨.intro (.uploading seen _) receiver, world₂⟩
                · exact ih ⟨.intro sender receiver, world₂.record seen⟩
                · exact ⟨.intro (.uploading seen _) receiver, world₂⟩

theorem askOutput_twins (mirror : Mirror view r R site.relay relay')
    (h : Twins view r R (p, w) (p', w')) :
    Twins view r R (askOutput site r p w) (askOutput (site.over relay') r p' w') := by
  obtain ⟨_, _, rfl, sender, receiver, world⟩ := h.cases
  obtain ⟨answer, w₁, w₁', called, called', world₁⟩ := world.callEngine site relay'
    p.session.family (.output p.session.handle)
  unfold askOutput
  dsimp only
  rw [called, called']
  have twins : Twins view r R (p, w₁) (_, w₁') := ⟨.intro sender receiver, world₁⟩
  match answer with
  | .error e => exact twins.senderLeaves (.error e)
  | .ok none =>
      obtain ⟨session, signal, applied, messenger, _, _, wakes, served, skipped⟩ := p
      cases signal with
      | finished =>
          obtain ⟨_, _, -, -, rfl⟩ := world₁.exists_over
          exact ⟨.intro (.same _) receiver, world₁⟩
      | timedOut | failed => exact twins.senderLeaves (.ok ())
      | created | awaitingMessages => exact twins.senderPauses
  | .ok (some message) =>
      dsimp only [Site.over]
      rw [← world₁.sealings]
      cases Sealing.encode r.hexEncryptionKey (site.nonce w₁.sealings) message with
      | error fault => exact twins.senderLeaves (.error fault.error)
      | ok body => exact deliver_twins mirror _ _ _ ⟨.intro sender receiver, world₁.sealOnce⟩

theorem senderTurn_twins (mirror : Mirror view r R site.relay relay')
    (h : Twins view r R (p, w) (p', w')) :
    Twins view r R (senderTurn site r p w) (senderTurn (site.over relay') r p' w') := by
  obtain ⟨sending, _, rfl, sender, receiver, world⟩ := h.cases
  unfold senderTurn
  dsimp only
  generalize p.sender = own at sender
  cases sender with
  | uploading seen ready => exact deliver_twins mirror _ _ _ (h.record seen)
  | same =>
      cases sending with
      | asking | pausing => exact askOutput_twins mirror h
      | uploading => exact deliver_twins mirror _ _ _ (h.record rfl)
      | lingering => exact h.senderLeaves (.ok ())
      | left => exact h

/-! ### The receiver -/

theorem finishRound_twins (h : Twins view r R (p, w) (p', w')) :
    Twins view r R (finishRound site p w) (finishRound (site.over relay') p' w') := by
  obtain ⟨_, _, rfl, sender, receiver, world⟩ := h.cases
  unfold finishRound Session.finish
  dsimp only
  by_cases finished : p.session.finished = true
  · rw [if_pos finished, if_pos finished]
    exact ⟨.intro sender (.left _), world⟩
  · rw [if_neg finished, if_neg finished]
    obtain ⟨answer, w₁, w₁', called, called', world₁⟩ := world.callEngine site relay'
      p.session.family (.finish p.session.handle)
    rw [called, called']
    exact ⟨.intro sender (.left _), world₁⟩

/-- A batch without news is passed over. -/
theorem applyBatch_of_news_eq_nil {batch : List Envelope} (none : r.news p.applied batch = []) :
    applyBatch site r batch p w = (p.receiverPauses r w.now, w) := by
  induction batch with
  | nil => rfl
  | cons m rest ih =>
      by_cases old : m.sender = r.party ∨ p.applied.contains (Pumps.keyOf r m) = true
      · rw [applyBatch, if_pos old]
        exact ih ((news_cons_of_old old).symm.trans none)
      · rw [news_cons_of_new old] at none
        cases none

/-- What is in front of the first news is passed over. -/
theorem exists_applyBatch_eq {applied : Applied} {batch news : List Envelope} {m : Envelope}
    (first : r.news applied batch = m :: news) : ∃ rest, r.news applied rest = news ∧
      ∀ (site : Site ε ρ σ) (p : Pumps) (w : World ε ρ σ), p.applied = applied →
        applyBatch site r batch p w = applyBatch site r (m :: rest) p w := by
  induction batch with
  | nil => cases first
  | cons m' rest ih =>
      by_cases old : m'.sender = r.party ∨ applied.contains (Pumps.keyOf r m') = true
      · obtain ⟨rest', same, passes⟩ := ih ((news_cons_of_old old).symm.trans first)
        refine ⟨rest', same, ?_⟩
        rintro site p w rfl
        rw [applyBatch, if_pos old]
        exact passes site p w rfl
      · rw [news_cons_of_new old] at first
        obtain ⟨rfl, same⟩ := List.cons.inj first
        exact ⟨rest, same, fun _ _ _ _ => rfl⟩

/-- Batches with the same news are worked through alike. -/
theorem applyBatch_twins (mirror : Mirror view r R site.relay relay') {batch batch' : List Envelope}
    (same : r.news p.applied batch = r.news p.applied batch') (h : Twins view r R (p, w) (p', w')) :
    Twins view r R (applyBatch site r batch p w)
      (applyBatch (site.over relay') r batch' p' w') := by
  -- The induction is on one batch; whatever the other one has in front of the next news is passed over.
  induction batch generalizing batch' p p' w w' with
  | nil =>
      have none : r.news p'.applied batch' = [] := by
        rw [h.applied_eq]
        exact same.symm
      rw [applyBatch_of_news_eq_nil none]
      exact h.receiverPauses
  | cons m rest ih =>
      by_cases old : m.sender = r.party ∨ p.applied.contains (Pumps.keyOf r m) = true
      · rw [applyBatch, if_pos old]
        exact ih ((news_cons_of_old old).symm.trans same) h
      · rw [news_cons_of_new old] at same
        obtain ⟨rest', same, passes⟩ := exists_applyBatch_eq same.symm
        rw [passes _ _ _ h.applied_eq]
        obtain ⟨_, _, rfl, sender, receiver, world⟩ := h.cases
        rw [applyBatch, applyBatch, if_neg old, if_neg old]
        cases Sealing.decode r.hexEncryptionKey m.body with
        | error fault => exact h.receiverLeaves _
        | ok message =>
            obtain ⟨answer, w₁, w₁', called, called', world₁⟩ := world.callEngine site relay'
              p.session.family (.input p.session.handle message)
            dsimp only
            rw [called, called']
            have twins : Twins view r R (p, w₁) (_, w₁') := ⟨.intro sender receiver, world₁⟩
            cases answer with
            | error e => exact twins.receiverLeaves (.error e)
            | ok finished =>
                have grown : w₁.Twin view (R (p.applied.insert (Pumps.keyOf r m))) w₁' :=
                  world₁.mono (mirror.grows _)
                have applied : (p.applied.insert (Pumps.keyOf r m)).contains (Pumps.keyOf r m) = true := by
                  simp
                obtain ⟨took, answer, answer', w₂, w₂', seen, asked, asked', world₂⟩ :=
                  grown.askRelay (mirror.delete _ m.hash applied grown.relay)
                dsimp only
                rw [asked, asked']
                obtain ⟨_, _, -, -, rfl⟩ := world₂.exists_over
                -- What was applied is news no more, so it does not matter which relay still serves it.
                have later := news_insert_congr same.symm (Pumps.keyOf r m)
                rcases took with _ | _ | d
                · exact ⟨.intro sender (.deleting later seen finished _), world₂⟩
                · have answered := world₂.record seen
                  cases finished with
                  | true => exact finishRound_twins ⟨.intro sender (receiver.insert _), answered⟩
                  | false => exact ih later ⟨.intro sender (receiver.insert _), answered⟩
                · exact ⟨.intro sender (.deleting later seen finished _), world₂⟩

theorem takeBatch_twins (mirror : Mirror view r R site.relay relay')
    {answer answer' : Except Error (List Envelope)} (same : SameNews view r p.applied answer answer')
    (h : Twins view r R (p, w) (p', w')) :
    Twins view r R (takeBatch site r answer p w) (takeBatch (site.over relay') r answer' p' w') := by
  cases same with
  | failed e =>
      have same : view (.answered (downloadCall r) (.error e)) = _ := rfl
      exact (h.record same).receiverLeaves (.error e)
  | served same seen => exact applyBatch_twins mirror same (h.record seen)

theorem askBatch_twins (mirror : Mirror view r R site.relay relay')
    (h : Twins view r R (p, w) (p', w')) :
    Twins view r R (askBatch site r p w) (askBatch (site.over relay') r p' w') := by
  obtain ⟨_, _, rfl, sender, receiver, world⟩ := h.cases
  unfold askBatch
  dsimp only
  by_cases failed : p.signal = .failed
  · rw [if_pos failed, if_pos failed]
    exact h.receiverLeaves _
  · rw [if_neg failed, if_neg failed]
    obtain ⟨took, answer, answer', w₁, w₁', same, asked, asked', world₁⟩ :=
      world.askRelay (mirror.download _ world.relay)
    rw [asked, asked']
    obtain ⟨_, _, -, -, rfl⟩ := world₁.exists_over
    rcases took with _ | _ | d
    · exact ⟨.intro sender (.downloading same _), world₁⟩
    · exact takeBatch_twins mirror same ⟨.intro sender receiver, world₁⟩
    · exact ⟨.intro sender (.downloading same _), world₁⟩

theorem receive_twins (mirror : Mirror view r R site.relay relay')
    (h : Twins view r R (p, w) (p', w')) :
    Twins view r R (receive site r p w) (receive (site.over relay') r p' w') := by
  obtain ⟨_, _, rfl, sender, receiver, world⟩ := h.cases
  obtain ⟨session, signal, applied, messenger, _, _, wakes, served, skipped⟩ := p
  unfold receive
  cases receiver with
  | starting => exact askBatch_twins mirror ⟨.intro sender .starting, world⟩
  | asking | pausing => exact askBatch_twins mirror h
  | downloading same ready => exact takeBatch_twins mirror same h
  | deleting same seen finished ready =>
      cases finished with
      | true => exact finishRound_twins (h.record seen)
      | false => exact applyBatch_twins mirror same (h.record seen)
  | left => exact h

theorem Pumps.Twin.waits (h : p.Twin view r p') : p'.receiverReady = p.receiverReady ∧
    p'.receiverWake = p.receiverWake ∧ p'.receiverLeft = p.receiverLeft := by
  obtain ⟨session, signal, applied, messenger, _, _, wakes, served, skipped⟩ := p
  obtain ⟨-, receiver⟩ := h
  cases receiver <;> exact ⟨rfl, rfl, rfl⟩

theorem Pumps.Twin.senderWaits (h : p.Twin view r p') :
    p'.senderReady = p.senderReady ∧ p'.senderWake = p.senderWake := by
  obtain ⟨session, signal, applied, messenger, _, _, wakes, served, skipped⟩ := p
  obtain ⟨sender, -⟩ := h
  cases sender <;> exact ⟨rfl, rfl⟩

theorem Pumps.Twin.result?_eq (h : p.Twin view r p') : p'.result? = p.result? := by
  obtain ⟨session, signal, applied, messenger, sending, _, wakes, served, skipped⟩ := p
  obtain ⟨sender, receiver⟩ := h
  cases sender with
  | uploading => rfl
  | same =>
      cases sending with
      | left sent => cases sent <;> cases receiver <;> rfl
      | asking | uploading | pausing | lingering => rfl

theorem receiveOn_twins (mirror : Mirror view r R site.relay relay') (bound : Nat)
    (h : Twins view r R (p, w) (p', w')) :
    Twins view r R (receiveOn site r bound p w) (receiveOn (site.over relay') r bound p' w') := by
  induction bound generalizing p p' w w' with
  | zero => exact h
  | succ bound ih =>
      have received := receive_twins mirror h
      rw [receiveOn, receiveOn]
      dsimp only
      rw [received.pumps.waits.1]
      split
      · exact ih received
      · exact received

theorem receiverTurn_twins (mirror : Mirror view r R site.relay relay') (deadline : Time)
    (h : Twins view r R (p, w) (p', w')) :
    Twins view r R (receiverTurn site r deadline p w)
      (receiverTurn (site.over relay') r deadline p' w') := by
  obtain ⟨ready, wake, -⟩ := h.pumps.waits
  have skipped : p'.skipped = p.skipped := by
    obtain ⟨_, _, rfl, -, -, -⟩ := h.cases
    rfl
  have turned : Twins view r R
      (if (p.receiverReady || p.receiverWake.any (· ≤ w.now)) = true
        then receiveOn site r (mostSkipped + 1) p w else (p, w))
      (if (p'.receiverReady || p'.receiverWake.any (· ≤ w'.now)) = true
        then receiveOn (site.over relay') r (mostSkipped + 1) p' w' else (p', w')) := by
    rw [ready, wake, ← h.world.now]
    split
    · exact receiveOn_twins mirror _ h
    · exact h
  rcases hx : (if (p.receiverReady || p.receiverWake.any (· ≤ w.now)) = true
    then receiveOn site r (mostSkipped + 1) p w else (p, w)) with ⟨p₁, w₁⟩
  rcases hx' : (if (p'.receiverReady || p'.receiverWake.any (· ≤ w'.now)) = true
    then receiveOn (site.over relay') r (mostSkipped + 1) p' w' else (p', w')) with ⟨p₁', w₁'⟩
  rw [hx, hx'] at turned
  unfold receiverTurn
  dsimp only
  rw [hx, hx', skipped]
  dsimp only
  rw [turned.pumps.waits.2.2, ← turned.world.now]
  split
  · obtain ⟨_, _, rfl, sender, -, world⟩ := turned.cases
    exact ⟨.intro sender (.left _), world⟩
  · exact turned

/-! ### The round -/

theorem turn_twins (mirror : Mirror view r R site.relay relay') (deadline : Time) (pump : Pump)
    (h : Twins view r R (p, w) (p', w')) :
    Twins view r R (turn site r deadline pump p w) (turn (site.over relay') r deadline pump p' w') := by
  cases pump with
  | sender => exact senderTurn_twins mirror h
  | receiver => exact receiverTurn_twins mirror deadline h

theorem serve_twins (h : Twins view r R (p, w) (p', w')) (now later : Time) (pump : Pump) :
    Twins view r R (p.serve now later pump, w) (p'.serve now later pump, w') := by
  obtain ⟨_, _, rfl, sender, receiver, world⟩ := h.cases
  unfold Pumps.serve Pumps.wake
  dsimp only
  split <;> exact ⟨.intro sender receiver, world⟩

theorem next_twins (h : p.Twin view r p') (deadline now : Time) :
    next (site.over relay') deadline now p' = next site deadline now p := by
  obtain ⟨ready, wake, left⟩ := h.waits
  obtain ⟨senderReady, senderWake⟩ := h.senderWaits
  have result := h.result?_eq
  unfold next nextTurn receiverDue
  rw [ready, result, left, wake, senderReady, senderWake]
  obtain ⟨-, -⟩ := h
  rfl

theorem steps_twins (mirror : Mirror view r R site.relay relay') (deadline : Time)
    (limit : Option Time) (patience : Nat) (h : Twins view r R (p, w) (p', w')) :
    (steps site r deadline limit patience p w).1 =
        (steps (site.over relay') r deadline limit patience p' w').1 ∧
      ∃ applied, (steps site r deadline limit patience p w).2.Twin view (R applied)
        (steps (site.over relay') r deadline limit patience p' w').2 := by
  induction patience generalizing p p' w w' with
  | zero => exact ⟨rfl, _, h.world⟩
  | succ patience ih =>
      -- The clocks and the pumps are the same, so the same happens next.
      rw [steps, steps, ← h.world.now, next_twins h.pumps]
      cases next site deadline w.now p with
      | atOnce pump => exact ih (turn_twins mirror deadline pump h)
      | ended result =>
          cases result with
          | ok raw => exact ⟨rfl, _, h.world⟩
          | error e => exact ⟨rfl, _, h.world⟩
      | later t pump =>
          dsimp only
          split
          · obtain ⟨same, world⟩ := Run.Twin.expire h.world
            exact ⟨same, _, world⟩
          · have later : Twins view r R (p, w.advanceTo t) (p', w'.advanceTo t) :=
              ⟨h.pumps, h.world.advanceTo t⟩
            exact ih (turn_twins mirror deadline pump (serve_twins later w.now t pump))
      | nothing =>
          obtain ⟨same, world⟩ := Run.Twin.expire h.world
          exact ⟨same, _, world⟩

/-- Over relays that mirror each other, a round does the same and comes out the same. -/
theorem run_twins (mirror : Mirror view r R site.relay relay') (session : Session)
    (limit : Option Time) (world : w.Twin view (R .empty) w') :
    (r.run site session limit w).1 = (r.run (site.over relay') session limit w').1 ∧
      ∃ applied, (r.run site session limit w).2.Twin view (R applied)
        (r.run (site.over relay') session limit w').2 := by
  unfold run
  rw [← world.now]
  exact steps_twins mirror _ limit _ ⟨.intro (.same _) .starting, world⟩

end

end QuorumVault.Round
