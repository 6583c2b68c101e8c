/-
To whom messages are offered.

For every message that the engine gives out the sender goes through the places of the committee
in order.  At each it asks the engine once whom it names there, and if that is somebody, it leaves one
envelope with the sealed message.  `postings` is what a log tells about that, and as long as the
sender has not failed it is put together from the messages, one behind the other, each with
all of its places; only the last one may still be under way.
-/
import QuorumVault.Proofs.Round.Verdict

namespace QuorumVault

/-- Something done about a message of the local member. -/
inductive Posting where
  | given (family : Family) (handle : Engine.Handle) (message : Bytes)
  | named (family : Family) (handle : Engine.Handle) (message : Bytes) (place : Nat)
      (who : Option String)
  | offered (sender : String) (recipients : List String) (body : String) (scope : Option String)
deriving DecidableEq

/-- What an event does about a message of the local member. -/
def Event.posting? : Event → Option Posting
  | .engine family (.output handle) (.ok (some message)) => some (.given family handle message)
  | .engine family (.receiver handle message place) (.ok who) =>
    some (.named family handle message place who)
  | .asked (.upload m scope) => some (.offered m.sender m.recipients m.body scope)
  | _ => none

/-- All that was done about messages of the local member, in order. -/
def postings (log : List Event) : List Posting :=
  log.filterMap Event.posting?

@[simp] theorem postings_append (log log' : List Event) :
    postings (log ++ log') = postings log ++ postings log' :=
  List.filterMap_append

/-- Nothing that a receiver does is about messages of the local member. -/
theorem postings_eq_nil_of_byReceiver {log : List Event} (h : ∀ e ∈ log, e.byReceiver = true) :
    postings log = [] := by
  refine List.filterMap_eq_nil_iff.2 fun e mem => ?_
  have own := h e mem
  unfold Event.byReceiver at own
  split at own <;> first | rfl | cases own

/-- The message that is given out. -/
def Posting.message? : Posting → Option Bytes
  | .given _ _ message => some message
  | .named .. | .offered .. => none

theorem emitted_eq_postings (log : List Event) :
    emitted log = (postings log).filterMap Posting.message? := by
  unfold emitted postings
  rw [List.filterMap_filterMap]
  congr 1
  funext e
  cases e with
  | engine family c answer =>
      cases c with
      | output handle =>
          match answer with
          | .ok (some message) => rfl
          | .ok none => rfl
          | .error e => rfl
      | receiver => cases answer <;> rfl
      | openKeygen | openSign | input | finish | free => rfl
  | asked c => cases c <;> rfl
  | query | answered | storing | stored | noted | queued | attempt => rfl

namespace Round

/-- A message that is offered to the members. -/
structure Offered where
  message : Bytes
  body : String
  named : List (Option String)

/-- What is done about a message at a place. -/
def offer (r : Round) (session : Session) (message : Bytes) (body : String) (who : Option String)
    (place : Nat) : List Posting :=
  .named session.family session.handle message place who ::
    if who.getD "" = "" then [] else [.offered r.party [who.getD ""] body r.scope]

/-- What is done about a message. -/
def Offered.postings (r : Round) (session : Session) (a : Offered) : List Posting :=
  .given session.family session.handle a.message ::
    a.named.zipIdx.flatMap fun x => offer r session a.message a.body x.1 x.2

variable {ε ρ σ : Type} {site : Site ε ρ σ} {r : Round} {session : Session} {first : Nat}
  {deadline : Time} {log log' : List Event} {offered : List Offered}

theorem Offered.postings_concat (message : Bytes) (body : String) (named : List (Option String))
    (who : Option String) :
    Offered.postings r session ⟨message, body, named ++ [who]⟩ =
      Offered.postings r session ⟨message, body, named⟩ ++
        offer r session message body who named.length := by
  simp [Offered.postings, List.zipIdx_append]

/-- A member gets a message as often as the engine names it for the message. -/
theorem Offered.count_offered (a : Offered) {who : String} (somebody : who ≠ "") :
    (a.postings r session).count (.offered r.party [who] a.body r.scope) =
      a.named.count (some who) := by
  have counted (place : Nat) (named : List (Option String)) :
      ((named.zipIdx place).flatMap fun x => offer r session a.message a.body x.1 x.2).count
        (.offered r.party [who] a.body r.scope) = named.count (some who) := by
    induction named generalizing place with
    | nil => rfl
    | cons next rest ih =>
        rw [List.zipIdx_cons, List.flatMap_cons, List.count_append, ih, List.count_cons, Nat.add_comm]
        congr 1
        unfold offer
        by_cases named : next = some who
        · subst named
          simp [somebody]
        · by_cases nobody : next.getD "" = ""
          · simp [nobody, named]
          · have other : next.getD "" ≠ who := by
              cases next with
              | none => simp at nobody
              | some name => simpa using named
            simp [nobody, other, named]
  rw [Offered.postings, List.count_cons_of_ne (by simp), counted]

/-- The messages that were offered, and nothing else was done about messages. -/
structure Offers (site : Site ε ρ σ) (r : Round) (session : Session) (first : Nat)
    (log : List Event) (offered : List Offered) : Prop where
  postings_eq : postings log = offered.flatMap (·.postings r session)
  named : ∀ a ∈ offered, a.named.length = r.committee.length
  sealed : ∀ number a, offered[number]? = some a →
    Sealing.encode r.hexEncryptionKey (site.nonce (first + number)) a.message = .ok a.body

/-- The last message has some places to go. -/
structure Offering (site : Site ε ρ σ) (r : Round) (session : Session) (first : Nat)
    (log : List Event) (offered : List Offered) (last : Offered) (places : List Nat) : Prop where
  postings_eq : postings log =
    offered.flatMap (·.postings r session) ++ last.postings r session
  named : ∀ a ∈ offered, a.named.length = r.committee.length
  places_eq : places = (List.range r.committee.length).drop last.named.length
  length_le : last.named.length ≤ r.committee.length
  sealed : ∀ number a, (offered ++ [last])[number]? = some a →
    Sealing.encode r.hexEncryptionKey (site.nonce (first + number)) a.message = .ok a.body

theorem Offered.filterMap_postings (a : Offered) :
    (a.postings r session).filterMap Posting.message? = [a.message] := by
  have silent : (a.named.zipIdx.flatMap fun x =>
      offer r session a.message a.body x.1 x.2).filterMap Posting.message? = [] := by
    refine List.filterMap_eq_nil_iff.2 fun posting mem => ?_
    obtain ⟨x, -, mem⟩ := List.mem_flatMap.1 mem
    unfold offer at mem
    rcases List.mem_cons.1 mem with rfl | mem
    · rfl
    · split at mem
      · cases mem
      · rw [List.mem_singleton.1 mem]
        rfl
  rw [Offered.postings, List.filterMap_cons, silent]
  rfl

/-- What the engine gave out was offered. -/
theorem Offers.emitted_eq (h : Offers site r session first log offered) :
    emitted log = offered.map (·.message) := by
  rw [emitted_eq_postings, h.postings_eq]
  clear h
  induction offered with
  | nil => rfl
  | cons a rest ih =>
      rw [List.flatMap_cons, List.filterMap_append, Offered.filterMap_postings, ih]
      rfl

theorem Offers.quiet (h : Offers site r session first log offered) (silent : postings log' = []) :
    Offers site r session first (log ++ log') offered where
  postings_eq := by rw [postings_append, silent, List.append_nil, h.postings_eq]
  named := h.named
  sealed := h.sealed

theorem Offering.quiet {last : Offered} {places : List Nat}
    (h : Offering site r session first log offered last places) (silent : postings log' = []) :
    Offering site r session first (log ++ log') offered last places where
  postings_eq := by rw [postings_append, silent, List.append_nil, h.postings_eq]
  named := h.named
  places_eq := h.places_eq
  length_le := h.length_le
  sealed := h.sealed

/-- A message has been given out and sealed. -/
theorem Offers.gives {message : Bytes} {body : String}
    (h : Offers site r session first log offered)
    (given : postings log' = [.given session.family session.handle message])
    (sealed : Sealing.encode r.hexEncryptionKey (site.nonce (first + offered.length)) message =
      .ok body) :
    Offering site r session first (log ++ log') offered ⟨message, body, []⟩
      (List.range r.committee.length) where
  postings_eq := by
    rw [postings_append, given, h.postings_eq]
    rfl
  named := h.named
  places_eq := rfl
  length_le := Nat.zero_le _
  sealed number a among := by
    rcases Nat.lt_trichotomy number offered.length with before | rfl | behind
    · rw [List.getElem?_append_left before] at among
      exact h.sealed number a among
    · rw [List.getElem?_concat_length] at among
      cases among
      exact sealed
    · rw [List.getElem?_eq_none (by simp; omega)] at among
      cases among

theorem Offering.next {message : Bytes} {body : String} {named : List (Option String)}
    {place : Nat} {places : List Nat} {who : Option String}
    (h : Offering site r session first log offered ⟨message, body, named⟩ (place :: places))
    (done : place = named.length →
      postings log' = offer r session message body who named.length) :
    Offering site r session first (log ++ log') offered ⟨message, body, named ++ [who]⟩ places := by
  have places_eq := h.places_eq
  dsimp only at places_eq
  have lt : named.length < r.committee.length := by
    refine Nat.lt_of_not_le fun le => ?_
    rw [List.drop_eq_nil_of_le (by simpa using le)] at places_eq
    cases places_eq
  rw [List.drop_eq_getElem_cons (by simpa using lt)] at places_eq
  obtain ⟨place_eq, rest⟩ := List.cons.inj places_eq
  refine ⟨?_, h.named, by simpa using rest, by simpa using Nat.succ_le_of_lt lt, fun number a among => ?_⟩
  · rw [postings_append, h.postings_eq, done (by simpa using place_eq), Offered.postings_concat,
      List.append_assoc]
  · rcases Nat.lt_trichotomy number offered.length with before | rfl | behind
    · rw [List.getElem?_append_left before] at among
      exact h.sealed number a (by rw [List.getElem?_append_left before]; exact among)
    · rw [List.getElem?_concat_length] at among
      cases among
      exact h.sealed offered.length ⟨message, body, named⟩ List.getElem?_concat_length
    · rw [List.getElem?_eq_none (by simp; omega)] at among
      cases among

theorem Offering.done {last : Offered} (h : Offering site r session first log offered last []) :
    Offers site r session first log (offered ++ [last]) where
  postings_eq := by simp [h.postings_eq]
  named a among := by
    rcases List.mem_append.1 among with among | among
    · exact h.named a among
    · obtain rfl := List.mem_singleton.1 among
      have all := congrArg List.length h.places_eq
      have le := h.length_le
      simp at all
      omega
  sealed := h.sealed

/-! ### The invariant -/

/-- What the sender is doing tells how far the messages were offered. -/
def Sender.Offers (site : Site ε ρ σ) (r : Round) (session : Session) (first sealings : Nat)
    (log : List Event) : Sender → Prop
  | .asking | .pausing _ | .lingering _ | .left (.ok ()) => ∃ offered,
    Round.Offers site r session first log offered ∧ sealings = first + offered.length
  | .uploading message body places _ _ _ => ∃ offered named,
    Offering site r session first log offered ⟨message, body, named⟩ places ∧
      sealings = first + (offered.length + 1)
  | .left (.error _) => True

/-- So does where it stands in its turn. -/
def Sending.Offers (site : Site ε ρ σ) (r : Round) (session : Session) (first sealings : Nat)
    (log : List Event) (p : Pumps) : Sending → Prop
  | .idle => p.sender.Offers site r session first sealings log
  | .delivering message body places | .uploading message body places _ _ => ∃ offered named,
    Offering site r session first log offered ⟨message, body, named⟩ places ∧
      sealings = first + (offered.length + 1)

variable {sealings : Nat}

theorem Sender.Offers.quiet {sender : Sender}
    (h : sender.Offers site r session first sealings log) (silent : postings log' = []) :
    sender.Offers site r session first sealings (log ++ log') := by
  cases sender with
  | asking | pausing | lingering =>
      obtain ⟨offered, offers, count⟩ := h
      exact ⟨offered, offers.quiet silent, count⟩
  | uploading =>
      obtain ⟨offered, named, offering, count⟩ := h
      exact ⟨offered, named, offering.quiet silent, count⟩
  | left result =>
      cases result with
      | error => trivial
      | ok =>
          obtain ⟨offered, offers, count⟩ := h
          exact ⟨offered, offers.quiet silent, count⟩

/-- A sender that is about to ask for a message has offered all there were. -/
theorem Sender.Offers.asks {p : Pumps} (h : p.sender.Offers site r session first sealings log)
    (asks : p.asksOutput = true) : ∃ offered,
      Round.Offers site r session first log offered ∧ sealings = first + offered.length := by
  unfold Pumps.asksOutput at asks
  cases hs : p.sender with
  | asking | pausing =>
      rw [hs] at h
      exact h
  | uploading | lingering | left => simp [hs] at asks

theorem SenderMove.offers {s s' : SenderAt ε ρ σ} (tells : Tells site r session s.pumps log)
    (h : s.doing.Offers site r session first s.world.sealings log s.pumps)
    (move : SenderMove site r s log' s') :
    s'.doing.Offers site r session first s'.world.sealings (log ++ log') s'.pumps := by
  have family := tells.family_eq
  have handle := tells.handle_eq
  cases move with
  | outputFails | unsealable | receiverFails => trivial
  | lingers asks call | quits asks call =>
      obtain ⟨offered, offers, count⟩ := Sender.Offers.asks h asks
      exact ⟨offered, offers.quiet rfl, (World.sealings_callEngine call).trans count⟩
  | pauses asks call =>
      obtain ⟨offered, offers, count⟩ := Sender.Offers.asks h asks
      unfold Pumps.senderPauses
      split <;> exact ⟨offered, offers.quiet rfl, (World.sealings_callEngine call).trans count⟩
  | seals asks call sealed =>
      obtain ⟨offered, offers, count⟩ := Sender.Offers.asks h asks
      have unsealed := (World.sealings_callEngine call).trans count
      refine ⟨offered, [], offers.gives ?_ (unsealed ▸ sealed), ?_⟩
      · rw [← family, ← handle]
        rfl
      · exact congrArg (· + 1) unsealed
  | delivered =>
      obtain ⟨offered, named, offering, count⟩ := h
      exact ⟨_, (offering.quiet rfl).done, by simpa using count⟩
  | @skips _ _ _ _ _ _ _ recipient call nobody =>
      obtain ⟨offered, named, offering, count⟩ := h
      refine ⟨offered, named ++ [recipient], offering.next fun place => ?_, (World.sealings_callEngine call).trans count⟩
      rw [offer, if_pos nobody, ← family, ← handle, ← place]
      rfl
  | @uploads _ _ _ _ _ _ _ _ recipient _ _ call somebody ask =>
      obtain ⟨offered, named, offering, count⟩ := h
      refine ⟨offered, named ++ [some recipient], offering.next fun place => ?_,
        (World.sealings_askRelay ask).trans ((World.sealings_callEngine call).trans count)⟩
      rw [offer, ← family, ← handle, ← place]
      dsimp only [Option.getD_some]
      rw [if_neg somebody]
      rfl
  | uploadWaits =>
      obtain ⟨offered, named, offering, count⟩ := h
      exact ⟨offered, named, offering.quiet rfl, count⟩
  | uploadResumes waiting =>
      dsimp only [Sending.Offers] at h
      rw [waiting] at h
      obtain ⟨offered, named, offering, count⟩ := h
      exact ⟨offered, named, offering.quiet rfl, count⟩
  | uploaded =>
      obtain ⟨offered, named, offering, count⟩ := h
      exact ⟨offered, named, offering.quiet rfl, count⟩
  | leaves lingering =>
      dsimp only [Sending.Offers] at h
      rw [lingering] at h
      obtain ⟨offered, offers, count⟩ := h
      exact ⟨offered, offers.quiet rfl, count⟩

/-- At every moment the sender has offered what it was given, as far as it has come. -/
theorem offers_of_path {w : World ε ρ σ} {s : RoundAt ε ρ σ}
    (path : Path (RoundStep site r deadline) ⟨r.start session, w⟩ log s) :
    s.pumps.sender.Offers site r session w.sealings s.world.sealings log :=
  keeps_of_path path
    (I := fun s log => s.pumps.sender.Offers site r session w.sealings s.world.sealings log)
    (S := fun s log => s.doing.Offers site r session w.sealings s.world.sealings log s.pumps)
    (R := fun s log => s.pumps.sender.Offers site r session w.sealings s.world.sealings log)
    ⟨[], ⟨rfl, nofun, nofun⟩, rfl⟩
    (fun _ h => h)
    (fun now later pump h => by simpa using h)
    id id
    (fun _ _ tells h move => move.offers tells h)
    id id
    (fun _ _ _ h move => by
      rw [move.frame.1, move.idle.2]
      exact h.quiet (postings_eq_nil_of_byReceiver move.byReceiver))

end Round

end QuorumVault
