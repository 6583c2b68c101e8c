/-
Deleting is only an optimisation.

A mailbox serves messages from the moment on that each of them is due, in the order in which
they lie there, as often as it is asked.  How long a call takes, when the relay looks into
the box and what else it answers may be anything, from call to call.  So may what becomes of a
deletion: it may fail, it may succeed, and then all messages of the scope with the hash may be
gone or all still be there.

A round asks for a deletion only of what it has applied, so what is deleted is never news, and
it makes no difference to the round which deletions fail or are ignored.
-/
import QuorumVault.Proofs.Round.Mirror

namespace QuorumVault

variable {ε ρ σ : Type}

/-- A message that lies in a mailbox. -/
structure Post where
  scope : Option String
  due : Time
  envelope : Envelope
deriving DecidableEq, Repr

/-- A mailbox and the relay around it.  What the relay does may depend on the number of calls before,
on the time and on the call. -/
structure Mailbox where
  posts : List Post
  takes : Nat → Time → Relay.Call → Option Duration
  looks : Nat → Time → Relay.Call → Time
  /-- What is answered.  A download that does not fail brings what is served instead, and deletions
  are answered otherwise. -/
  answers : Nat → Time → (c : Relay.Call) → Except Error c.Answer

/-- What becomes of deletions: they fail, or succeed, and then whether the messages are gone. -/
abbrev Deletions := Nat → Time → Relay.Call → Except Error Bool

/-- A mailbox in use. -/
structure MailboxUse where
  calls : Nat
  gone : List (Option String × String)
deriving DecidableEq, Repr

namespace Mailbox

/-- What is served of a scope at some time. -/
def served (box : Mailbox) (gone : List (Option String × String)) (scope : Option String)
    (time : Time) : List Envelope :=
  (box.posts.filter fun p =>
    p.scope = scope ∧ p.due ≤ time ∧ (scope, p.envelope.hash) ∉ gone).map (·.envelope)

/-- What a call answers. -/
def answer (box : Mailbox) (deletions : Deletions) (use : MailboxUse) (now : Time) :
    (c : Relay.Call) → Except Error c.Answer
  | .download session party scope =>
    let c := .download session party scope
    (box.answers use.calls now c).map fun _ => box.served use.gone scope (box.looks use.calls now c)
  | .delete session party hash scope =>
    (deletions use.calls now (.delete session party hash scope)).map fun _ => ()
  | c => box.answers use.calls now c

/-- What is gone after a call. -/
def goneAfter (deletions : Deletions) (use : MailboxUse) (now : Time) :
    Relay.Call → List (Option String × String)
  | .delete session party hash scope =>
    match deletions use.calls now (.delete session party hash scope) with
    | .ok true => (scope, hash) :: use.gone
    | .ok false | .error _ => use.gone
  | _ => use.gone

/-- The relay around a mailbox. -/
def relay (box : Mailbox) (deletions : Deletions) : Relay MailboxUse where
  ask use now c :=
    (box.takes use.calls now c, box.answer deletions use now c,
      ⟨use.calls + 1, goneAfter deletions use now c⟩)

end Mailbox

/-- The event without what a download or a deletion has answered. -/
def Event.masked : Event → Event
  | .answered (.download session party scope) _ =>
    .answered (.download session party scope) (.ok [])
  | .answered (.delete session party hash scope) _ =>
    .answered (.delete session party hash scope) (.ok ())
  | e => e

/-- Whatever is read off events other than answers is the same. -/
theorem World.Twin.filterMap_events_masked {ρ' α : Type} {R : ρ → ρ' → Prop} {w : World ε ρ σ}
    {w' : World ε ρ' σ} (h : w.Twin Event.masked R w') {f : Event → Option α}
    (answers : ∀ c answer, f (.answered c answer) = none) :
    w.trace.events.filterMap f = w'.trace.events.filterMap f := by
  refine h.filterMap_events fun e => ?_
  cases e with
  | answered c answer => cases c <;> simp [Event.masked, answers]
  | engine | query | asked | storing | stored | noted | queued | attempt => rfl

namespace Round

/-! ### Mailboxes that mirror each other -/

/-- Of the round's scope at most what was applied is gone from one mailbox and not from the other. -/
structure SameUse (r : Round) (applied : Applied) (use use' : MailboxUse) : Prop where
  calls : use.calls = use'.calls
  gone : ∀ hash, applied.contains (Applied.key r.sessionId r.party r.scope hash) = false →
    ((r.scope, hash) ∈ use.gone ↔ (r.scope, hash) ∈ use'.gone)

theorem SameUse.news_served {r : Round} {applied : Applied} {use use' : MailboxUse}
    (h : r.SameUse applied use use') (box : Mailbox) (time : Time) :
    r.news applied (box.served use.gone r.scope time) =
      r.news applied (box.served use'.gone r.scope time) := by
  unfold news Mailbox.served
  rw [List.filter_map, List.filter_map, List.filter_filter, List.filter_filter]
  refine congrArg _ (List.filter_congr fun p _ => ?_)
  cases old : applied.contains (Applied.key r.sessionId r.party r.scope p.envelope.hash) with
  | true => simp [Pumps.keyOf, old]
  | false => simp [Pumps.keyOf, old, h.gone _ old]

theorem SameUse.insert {r : Round} {applied : Applied} {use use' : MailboxUse}
    (h : r.SameUse applied use use') (name : String) : r.SameUse (applied.insert name) use use' where
  calls := h.calls
  gone hash new := by
    refine h.gone hash ?_
    rw [Applied.contains_insert, Bool.or_eq_false_iff] at new
    exact new.2

/-- What is gone after a deletion of something applied makes no difference. -/
theorem SameUse.delete {r : Round} {applied : Applied} {use use' : MailboxUse}
    (h : r.SameUse applied use use') (deletions deletions' : Deletions) (now : Time) {hash : String}
    (old : applied.contains (Applied.key r.sessionId r.party r.scope hash) = true) :
    r.SameUse applied
      ⟨use.calls + 1, Mailbox.goneAfter deletions use now (deleteCall r hash)⟩
      ⟨use'.calls + 1, Mailbox.goneAfter deletions' use' now (deleteCall r hash)⟩ where
  calls := congrArg (· + 1) h.calls
  gone other new := by
    -- A deletion takes off only what has its hash, and that was applied.
    have apart : other ≠ hash := by
      rintro rfl
      rw [old] at new
      cases new
    have kept (deletions : Deletions) (use : MailboxUse) :
        (r.scope, other) ∈ Mailbox.goneAfter deletions use now (deleteCall r hash) ↔
          (r.scope, other) ∈ use.gone := by
      unfold Mailbox.goneAfter
      dsimp only
      split <;> simp [apart]
    rw [kept, kept]
    exact h.gone other new

/-- A mailbox mirrors itself, whatever becomes of deletions. -/
theorem mailbox_mirror (box : Mailbox) (deletions deletions' : Deletions) (r : Round) :
    Mirror Event.masked r r.SameUse (box.relay deletions) (box.relay deletions') where
  grows name h := h.insert name
  upload now envelope h := by
    refine ⟨congrArg (box.takes · now _) h.calls, ?_, congrArg (· + 1) h.calls, h.gone⟩
    let c := Relay.Call.upload envelope r.scope
    exact congrArg (fun calls => some (Event.masked (.answered c (box.answers calls now c)))) h.calls
  download {applied use use'} now h := by
    refine ⟨congrArg (box.takes · now _) h.calls, ?_, congrArg (· + 1) h.calls, h.gone⟩
    show SameNews Event.masked r applied
      ((box.answers use.calls now (downloadCall r)).map fun _ => box.served use.gone r.scope _)
      ((box.answers use'.calls now (downloadCall r)).map fun _ => box.served use'.gone r.scope _)
    rw [← h.calls]
    cases box.answers use.calls now (downloadCall r) with
    | error e => exact .failed e
    | ok _ => exact .served (h.news_served box _) rfl
  delete now hash old h := by
    exact ⟨congrArg (box.takes · now _) h.calls, rfl, h.delete deletions deletions' now old⟩

/-! ### Rounds that cannot be told apart -/

/-- Two rounds come to the same, and do the same at the same times. -/
structure ComeToTheSame (x x' : Ending Bytes × World ε ρ σ) : Prop where
  ending : x.1 = x'.1
  now : x.2.now = x'.2.now
  engineCalls : ∀ family, x.2.trace.engineCalls family = x'.2.trace.engineCalls family
  /-- They call the relay alike: the uploads, the downloads and the deletions are the same. -/
  relayCalls : x.2.trace.relayCalls = x'.2.trace.relayCalls
  /-- All of it happens at the same times; only what downloads bring and what deletions are answered
  may differ. -/
  trace : x.2.trace.map (Prod.map id Event.masked) = x'.2.trace.map (Prod.map id Event.masked)

/-- Whatever becomes of its deletions, a round over a mailbox comes to the same. -/
theorem run_regardless_of_deletions (site : Site ε ρ σ) (box : Mailbox)
    (deletions deletions' : Deletions) (r : Round) (session : Session) (limit : Option Time)
    (w : World ε MailboxUse σ) :
    ComeToTheSame (r.run (site.over (box.relay deletions)) session limit w)
      (r.run (site.over (box.relay deletions')) session limit w) := by
  have same : w.Twin Event.masked (r.SameUse .empty) w :=
    ⟨⟨rfl, fun _ _ => Iff.rfl⟩, rfl, rfl, rfl, rfl, rfl⟩
  have mirror : Mirror Event.masked r r.SameUse (site.over (box.relay deletions)).relay
      (box.relay deletions') := mailbox_mirror box deletions deletions' r
  obtain ⟨ending, applied, world⟩ := run_twins mirror session limit same
  exact {
    ending := ending
    now := world.now
    engineCalls := fun family => world.filterMap_events_masked fun _ _ => rfl
    relayCalls := world.filterMap_events_masked fun _ _ => rfl
    trace := world.seen }

end Round

end QuorumVault
