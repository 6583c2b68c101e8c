/-
How the messages of a round are framed.

The sender puts every message that the engine gives out into envelopes, one for each place of the
committee at which the engine names somebody.  The envelopes of a round are numbered from nought,
whichever message they carry and whatever becomes of them, so the whole of what is left on the relay
is told by the messages and by whom the engine names for them: `envelopes_eq` says it.  A sender
that fails is silent from then on.  Only its last message may then have places left to go, or none
may have been sent because the session key is of no use.
-/
import QuorumVault.Proofs.Round.Offers

namespace QuorumVault

/-- The envelope that is left on the relay, and its scope. -/
def Event.envelope? : Event → Option (Envelope × Option String)
  | .asked (.upload m scope) => some (m, scope)
  | _ => none

/-- All envelopes that are left on the relay, in order. -/
def envelopes (log : List Event) : List (Envelope × Option String) :=
  log.filterMap Event.envelope?

@[simp] theorem envelopes_append (log log' : List Event) :
    envelopes (log ++ log') = envelopes log ++ envelopes log' :=
  List.filterMap_append

/-- Whom an envelope is for, and what it carries. -/
def Posting.letter? : Posting → Option (List String × String)
  | .offered _ recipients body _ => some (recipients, body)
  | .given .. | .named .. => none

theorem filterMap_letter? (log : List Event) :
    (postings log).filterMap Posting.letter? =
      (envelopes log).map fun x => (x.1.recipients, x.1.body) := by
  unfold postings envelopes
  rw [List.filterMap_filterMap, List.map_filterMap]
  congr 1
  funext e
  cases e with
  | engine family c answer =>
      cases c with
      | output =>
          match answer with
          | .ok (some _) | .ok none | .error _ => rfl
      | receiver => cases answer <;> rfl
      | openKeygen | openSign | input | finish | free => rfl
  | asked c => cases c <;> rfl
  | query | answered | storing | stored | noted | queued | attempt => rfl

namespace Round

/-- The envelope with a letter, under its number. -/
def frame (r : Round) (number : Nat) (letter : List String × String) : Envelope × Option String :=
  ({ sessionId := r.sessionId
     sender := r.party
     recipients := letter.1
     body := letter.2
     hash := Envelope.contentHash letter.2
     sequenceNo := number }, r.scope)

/-- Whom a message goes to, place after place: whoever is named. -/
def Offered.recipients (a : Offered) : List String :=
  a.named.filterMap (·.filter (· ≠ ""))

/-- What is put into envelopes for a message: the same body for everyone. -/
def Offered.letters (a : Offered) : List (List String × String) :=
  a.recipients.map fun who => ([who], a.body)

variable {ε ρ σ : Type} {site : Site ε ρ σ} {r : Round} {session : Session} {first : Nat}
  {deadline : Time} {log log' : List Event} {shipped : List Offered} {waits : Prop}

theorem Offered.filterMap_letter? (a : Offered) :
    (a.postings r session).filterMap Posting.letter? = a.letters := by
  have from_place (place : Nat) (named : List (Option String)) :
      ((named.zipIdx place).flatMap fun x => offer r session a.message a.body x.1 x.2).filterMap
          Posting.letter? =
        (named.filterMap (·.filter (· ≠ ""))).map fun who => ([who], a.body) := by
    induction named generalizing place with
    | nil => rfl
    | cons who rest ih =>
        rw [List.zipIdx_cons, List.flatMap_cons, List.filterMap_append, ih]
        unfold offer
        match who with
        | none => rfl
        | some who =>
            by_cases nobody : who = "" <;>
              simp [nobody, Posting.letter?, List.filterMap_cons, Option.filter]
  exact from_place 0 a.named

/-! ### Numbers -/

/-- The envelopes are numbered from nought, and the next one gets the next number. -/
structure Numbered (r : Round) (p : Pumps) (log : List Event) : Prop where
  messenger_eq : p.messenger = ⟨r.sessionId, r.scope, (envelopes log).length⟩
  envelopes_eq : envelopes log = ((postings log).filterMap Posting.letter?).mapIdx r.frame

theorem Numbered.quiet {p p' : Pumps} (h : Numbered r p log) (silent : envelopes log' = [])
    (same : p'.messenger = p.messenger) : Numbered r p' (log ++ log') where
  messenger_eq := by rw [same, h.messenger_eq, envelopes_append, silent, List.append_nil]
  envelopes_eq := by
    rw [envelopes_append, postings_append, List.filterMap_append, filterMap_letter? log', silent,
      List.map_nil, List.append_nil, List.append_nil, h.envelopes_eq]

/-- One more envelope has the next number. -/
theorem Numbered.uploads {p p' : Pumps} {who body : String} (h : Numbered r p log)
    (left : envelopes log' = [(p.messenger.envelope r.party who body, r.scope)])
    (next : p'.messenger = p.messenger.next) : Numbered r p' (log ++ log') where
  messenger_eq := by
    rw [next, h.messenger_eq, envelopes_append, left, List.length_append]
    rfl
  envelopes_eq := by
    have framed : (p.messenger.envelope r.party who body, r.scope) =
        r.frame (envelopes log).length ([who], body) := by
      rw [h.messenger_eq]
      rfl
    have letter : (postings log').filterMap Posting.letter? = [([who], body)] := by
      rw [filterMap_letter?, left]
      rfl
    have count : ((postings log).filterMap Posting.letter?).length = (envelopes log).length := by
      rw [filterMap_letter?, List.length_map]
    rw [envelopes_append, left, framed, postings_append, List.filterMap_append, letter,
      List.mapIdx_concat, count, ← h.envelopes_eq]

theorem SenderMove.numbered {s s' : SenderAt ε ρ σ} (h : Numbered r s.pumps log)
    (move : SenderMove site r s log' s') : Numbered r s'.pumps (log ++ log') := by
  cases move with
  | uploads => exact h.uploads rfl rfl
  | pauses =>
      refine h.quiet rfl ?_
      unfold Pumps.senderPauses
      split <;> rfl
  | outputFails | lingers | quits | unsealable | seals | delivered | receiverFails | skips
  | uploadWaits | uploadResumes | uploaded | leaves => exact h.quiet rfl rfl

theorem envelopes_eq_nil_of_byReceiver (own : ∀ e ∈ log, e.byReceiver = true) :
    envelopes log = [] := by
  have none := filterMap_letter? log
  rw [postings_eq_nil_of_byReceiver own] at none
  exact List.map_eq_nil_iff.1 none.symm

theorem numbered_of_path {w : World ε ρ σ} {s : RoundAt ε ρ σ}
    (path : Path (RoundStep site r deadline) ⟨r.start session, w⟩ log s) :
    Numbered r s.pumps log :=
  path_invariant path
    (I := fun s log => Numbered r s.pumps log)
    (S := fun s log => Numbered r s.pumps log)
    (R := fun s log => Numbered r s.pumps log)
    ⟨rfl, rfl⟩
    (fun _ h => h)
    (fun now later pump h => ⟨by simpa using h.messenger_eq, h.envelopes_eq⟩)
    id id
    (fun h move => move.numbered h)
    id id
    (fun h move => h.quiet (envelopes_eq_nil_of_byReceiver move.byReceiver) move.frame.2.1)

/-! ### Messages -/

/-- What was done about the messages that the engine gave out.  All were sealed, unless the session key
is of no use, and went to all places, except for the last one if the engine failed meanwhile or the
round still waits. -/
structure Ships (r : Round) (session : Session) (log : List Event) (shipped : List Offered)
    (unsealed : Option Bytes) (waits : Prop) : Prop where
  postings_eq : postings log = shipped.flatMap (·.postings r session) ++
    unsealed.toList.map (.given session.family session.handle)
  /-- What is in the envelopes of a message opens to the message. -/
  opens : ∀ a ∈ shipped, Sealing.decode r.hexEncryptionKey a.body = .ok a.message
  /-- The engine was asked at every place about all messages but the last one. -/
  named : ∀ a ∈ shipped.dropLast, a.named.length = r.committee.length
  /-- About the last one as well, unless it failed at a place or the round waits there. -/
  last : ∀ a ∈ shipped.getLast?, a.named.length = r.committee.length ∨
    a.named.length < r.committee.length ∧ (waits ∨ ∃ e, .engine session.family
      (.receiver session.handle a.message a.named.length) (.error e) ∈ log)
  /-- No message can be sealed if one cannot, and the sender tries no other. -/
  unusable : ∀ message ∈ unsealed, shipped = [] ∧
    ∃ fault, Sealing.Key.ofText r.hexEncryptionKey = .error fault

theorem Ships.quiet {unsealed : Option Bytes} (h : Ships r session log shipped unsealed waits)
    (silent : postings log' = []) : Ships r session (log ++ log') shipped unsealed waits where
  postings_eq := by rw [postings_append, silent, List.append_nil, h.postings_eq]
  opens := h.opens
  named := h.named
  last a among := (h.last a among).imp_right fun ⟨lt, why⟩ =>
    ⟨lt, why.imp_right fun ⟨e, mem⟩ => ⟨e, List.mem_append_left _ mem⟩⟩
  unusable := h.unusable

theorem decode_of_sealed
    (sealed : ∀ number a, shipped[number]? = some a →
      Sealing.encode r.hexEncryptionKey (site.nonce (first + number)) a.message = .ok a.body) :
    ∀ a ∈ shipped, Sealing.decode r.hexEncryptionKey a.body = .ok a.message := by
  intro a among
  obtain ⟨number, here⟩ := List.mem_iff_getElem?.1 among
  exact Sealing.decode_eq_ok_of_encode (sealed number a here)

theorem Offers.ships (h : Offers site r session first log shipped) (waits : Prop) :
    Ships r session log shipped none waits where
  postings_eq := by simp [h.postings_eq]
  opens := decode_of_sealed h.sealed
  named a among := h.named a (List.dropLast_subset _ among)
  last a among := .inl (h.named a (List.mem_of_getLast? among))
  unusable := nofun

/-- The last message has some places to go. -/
theorem Offering.ships {last : Offered} {places : List Nat}
    (h : Offering site r session first log shipped last places)
    (why : last.named.length < r.committee.length → waits ∨ ∃ e, .engine session.family
      (.receiver session.handle last.message last.named.length) (.error e) ∈ log) :
    Ships r session log (shipped ++ [last]) none waits where
  postings_eq := by simp [h.postings_eq]
  opens := decode_of_sealed h.sealed
  named a among := h.named a (by simpa using among)
  last a among := by
    obtain rfl : last = a := by simpa using among
    exact (Nat.eq_or_lt_of_le h.length_le).imp_right fun lt => ⟨lt, why lt⟩
  unusable := nofun

/-- Nothing was offered before a message that cannot be sealed. -/
theorem Offers.ships_unsealed {message : Bytes} {fault : Sealing.Fault}
    (h : Offers site r session first log shipped)
    (given : postings log' = [.given session.family session.handle message])
    (unusable : Sealing.Key.ofText r.hexEncryptionKey = .error fault) :
    Ships r session (log ++ log') [] (some message) waits := by
  obtain rfl : shipped = [] := by
    cases shipped with
    | nil => rfl
    | cons a rest =>
        have failed : Sealing.encode r.hexEncryptionKey (site.nonce (first + 0)) a.message =
            .error fault := Sealing.encode_eq_error_iff.2 unusable
        cases failed.symm.trans (h.sealed 0 a rfl)
  exact {
    postings_eq := by simp [h.postings_eq, given]
    opens := nofun
    named := nofun
    last := nofun
    unusable := fun _ _ => ⟨rfl, fault, unusable⟩ }

/-- The next place is the one behind those at which the engine was asked. -/
theorem Offering.place_eq {last : Offered} {place : Nat} {places : List Nat}
    (h : Offering site r session first log shipped last (place :: places)) :
    place = last.named.length := by
  have here := congrArg List.head? h.places_eq
  rw [List.head?_cons, List.head?_drop] at here
  obtain ⟨_, at_place⟩ := List.getElem?_eq_some_iff.1 here.symm
  simpa using at_place.symm

/-! ### Failures -/

/-- A sender fails when it asks for a message, when it cannot seal one, or when it asks whom one is
for. -/
theorem SenderMove.failed_cases {s s' : SenderAt ε ρ σ} {e : Error} (there : s.doing.Waits s.pumps)
    (move : SenderMove site r s log s') (failed : s'.pumps.sender = .left (.error e)) :
    (s.doing = .idle ∧ s.pumps.asksOutput = true ∧
      log = [.engine s.pumps.session.family s.pumps.outputCall (.error e)]) ∨
    (∃ message fault, s.doing = .idle ∧ s.pumps.asksOutput = true ∧
      log = [.engine s.pumps.session.family s.pumps.outputCall (.ok (some message))] ∧
      Sealing.Key.ofText r.hexEncryptionKey = .error fault) ∨
    ∃ message body place places, s.doing = .delivering message body (place :: places) ∧
      log = [.engine s.pumps.session.family (s.pumps.receiverCall message place) (.error e)] := by
  have unfailed := Pumps.sender_ne_left (move.there there) (.error e)
  cases move with
  | outputFails asks =>
      cases failed
      exact .inl ⟨rfl, asks, rfl⟩
  | unsealable asks call sealed =>
      exact .inr (.inl ⟨_, _, rfl, asks, rfl, Sealing.encode_eq_error_iff.1 sealed⟩)
  | receiverFails =>
      cases failed
      exact .inr (.inr ⟨_, _, _, _, rfl, rfl⟩)
  | pauses =>
      unfold Pumps.senderPauses at failed
      split at failed <;> cases failed
  | lingers | quits | delivered | uploadWaits | leaves => cases failed
  | seals | skips | uploads | uploadResumes | uploaded => exact absurd failed unfailed

/-- A sender that has failed has shipped messages, and waits no more. -/
def Sender.Ships (r : Round) (session : Session) (log : List Event) (sender : Sender) : Prop :=
  ∀ e, sender = .left (.error e) → ∃ shipped unsealed, Round.Ships r session log shipped unsealed False

theorem SenderMove.ships {s s' : SenderAt ε ρ σ} (there : s.doing.Waits s.pumps)
    (tells : Tells site r session s.pumps log)
    (offers : s.doing.Offers site r session first s.world.sealings log s.pumps)
    (move : SenderMove site r s log' s') : s'.pumps.sender.Ships r session (log ++ log') := by
  intro e failed
  rcases move.failed_cases there failed with
    ⟨idle, asks, rfl⟩ | ⟨message, fault, idle, asks, rfl, unusable⟩ |
      ⟨message, body, place, places, delivering, rfl⟩
  · rw [idle] at offers
    obtain ⟨offered, offers, -⟩ := Sender.Offers.asks offers asks
    exact ⟨offered, none, (offers.quiet rfl).ships _⟩
  · rw [idle] at offers
    obtain ⟨offered, offers, -⟩ := Sender.Offers.asks offers asks
    refine ⟨[], some message, offers.ships_unsealed ?_ unusable⟩
    rw [← tells.family_eq, ← tells.handle_eq]
    rfl
  · rw [delivering] at offers
    obtain ⟨offered, named, offering, -⟩ := offers
    refine ⟨_, none, (offering.quiet rfl).ships fun _ => .inr ⟨e, ?_⟩⟩
    rw [← tells.family_eq, ← tells.handle_eq, ← offering.place_eq]
    exact List.mem_append_right _ (List.mem_singleton_self _)

theorem ships_of_path {w : World ε ρ σ} {s : RoundAt ε ρ σ}
    (path : Path (RoundStep site r deadline) ⟨r.start session, w⟩ log s) :
    s.pumps.sender.Ships r session log := by
  refine (keeps_of_path path
    (I := fun s log => s.pumps.sender.Offers site r session w.sealings s.world.sealings log ∧
      s.pumps.sender.Ships r session log)
    (S := fun s log => s.doing.Offers site r session w.sealings s.world.sealings log s.pumps ∧
      s.pumps.sender.Ships r session log)
    (R := fun s log => s.pumps.sender.Offers site r session w.sealings s.world.sealings log ∧
      s.pumps.sender.Ships r session log)
    ⟨⟨[], ⟨rfl, nofun, nofun⟩, rfl⟩, nofun⟩
    (fun _ h => h)
    (fun now later pump h => by simpa using h)
    id id
    (fun there _ tells h move => ⟨move.offers tells h.1, move.ships there tells h.1⟩)
    id id
    (fun _ _ _ h move => ?_)).2
  have silent := postings_eq_nil_of_byReceiver move.byReceiver
  rw [move.frame.1, move.idle.2]
  refine ⟨h.1.quiet silent, fun e failed => ?_⟩
  obtain ⟨shipped, unsealed, ships⟩ := h.2 e failed
  exact ⟨shipped, unsealed, ships.quiet silent⟩

/-- What a round has shipped when it is left or over. -/
theorem exists_ships_of_path {w : World ε ρ σ} {s : RoundAt ε ρ σ} {limit : Option Time}
    {ending : Ending Bytes}
    (path : Path (RoundStep site r deadline) ⟨r.start session, w⟩ log s)
    (ended : s.pumps.Ended limit ending) :
    ∃ shipped unsealed, Ships r session log shipped unsealed ending.Waits := by
  have offers := offers_of_path path
  cases sender : s.pumps.sender with
  | asking | pausing | lingering =>
      rw [sender] at offers
      obtain ⟨offered, offers, -⟩ := offers
      exact ⟨offered, none, offers.ships _⟩
  | uploading message body places envelope answer ready =>
      rw [sender] at offers
      obtain ⟨offered, named, offering, -⟩ := offers
      have unsettled : s.pumps.result? = none := by
        unfold Pumps.result?
        rw [sender]
      refine ⟨_, none, offering.ships fun _ => .inl ?_⟩
      cases ending with
      | done | failed => cases unsettled.symm.trans ended
      | cut => exact .cut
      | endless => exact .endless
      | overflow => cases ended
  | left result =>
      cases result with
      | ok =>
          rw [sender] at offers
          obtain ⟨offered, offers, -⟩ := offers
          exact ⟨offered, none, offers.ships _⟩
      | error e =>
          obtain ⟨shipped, unsealed, ships⟩ := ships_of_path path e sender
          refine ⟨shipped, unsealed, { ships with last := fun a among => ?_ }⟩
          exact (ships.last a among).imp_right fun ⟨lt, why⟩ => ⟨lt, why.imp_left nofun⟩

/-! ### Silence -/

/-- Once the sender fails it does nothing any more. -/
def FallsSilent (site : Site ε ρ σ) (r : Round) (session : Session) (log : List Event) : Prop :=
  ∀ before event after, log = before ++ event :: after → Fails site r session event →
    ∀ e ∈ after, e.byReceiver = true

/-- A failure among what happened means that the sender is gone. -/
theorem Tells.senderLeft {p : Pumps} {before after : List Event} {event : Event}
    (h : Tells site r session p log) (split : log = before ++ event :: after)
    (fails : Fails site r session event) : p.senderLeft = true := by
  obtain ⟨e, fails⟩ := fails
  have left : p.sender = .left (.error e) := by
    rw [← h.sender_iff e]
    exact fails.mono (by simp [split])
  rw [Pumps.senderLeft, left]

theorem SenderMove.fallsSilent {s s' : SenderAt ε ρ σ} (there : s.doing.Waits s.pumps)
    (tells : Tells site r session s.pumps log) (move : SenderMove site r s log' s') :
    FallsSilent site r session (log ++ log') := by
  intro before event after split fails
  rcases split_append split with ⟨rest, earlier, -⟩ | ⟨front, -, now⟩
  · have gone := tells.senderLeft earlier fails
    rw [move.there there] at gone
    cases gone
  · obtain ⟨e, fails⟩ := fails
    have failed : s'.pumps.sender = .left (.error e) := by
      rw [← move.outboundFails_iff there e, OutboundFails.congr_iff tells.family_eq tells.handle_eq]
      exact fails.mono (by simp [now])
    -- The sender fails with the last thing that it does.
    have alone : log'.length = 1 := by
      rcases move.failed_cases there failed with
        ⟨-, -, rfl⟩ | ⟨_, _, -, -, rfl, -⟩ | ⟨_, _, _, _, -, rfl⟩ <;> rfl
    obtain rfl : after = [] := by
      rw [now, List.length_append, List.length_cons] at alone
      exact List.length_eq_zero_iff.1 (by omega)
    exact nofun

theorem ReceiverMove.fallsSilent {s s' : ReceiverAt ε ρ σ}
    (h : FallsSilent site r session log) (move : ReceiverMove site r deadline s log' s') :
    FallsSilent site r session (log ++ log') := by
  intro before event after split fails
  rcases split_append split with ⟨rest, earlier, rfl⟩ | ⟨front, -, now⟩
  · exact List.forall_mem_append.2 ⟨h before event rest earlier fails, move.byReceiver⟩
  · obtain ⟨e, fails⟩ := fails
    exact absurd (fails.mono (by simp [now])) (move.not_outboundFails session e)

theorem fallsSilent_of_path {w : World ε ρ σ} {s : RoundAt ε ρ σ}
    (path : Path (RoundStep site r deadline) ⟨r.start session, w⟩ log s) :
    FallsSilent site r session log :=
  keeps_of_path path
    (I := fun _ log => FallsSilent site r session log)
    (S := fun _ log => FallsSilent site r session log)
    (R := fun _ log => FallsSilent site r session log)
    (fun before event after split => by simp at split)
    (fun _ h => h)
    (fun _ _ _ h => h)
    id id
    (fun there _ tells _ move => move.fallsSilent there tells)
    id id
    (fun _ _ _ h move => move.fallsSilent h)

end Round

end QuorumVault
