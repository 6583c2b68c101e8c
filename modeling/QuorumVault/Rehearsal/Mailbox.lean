/-
A relay that follows a script.

The relay serves messages that were put into its mailboxes beforehand, from the moment
on that each of them is due, as often as it is asked and in the order of the box, until
they are deleted.  What is uploaded goes nowhere.  Any call may be made to fail.
-/
import QuorumVault.Relay.Basic

namespace QuorumVault.Rehearsal

/-- A message that waits in a mailbox. -/
structure Mail where
  due : Time
  sender : String
  hash : String
  body : String
deriving DecidableEq, Repr

/-- An answer and how long it takes. -/
structure Delayed (α : Type) where
  delay : Duration
  answer : Except Error α

/-- What a relay does.  Mailboxes and setup messages are told apart by the scope; no scope is the
empty one. -/
structure MailboxScript where
  register : List (Option Error)
  upload : List (Option Error)
  download : List (Option Error)
  delete : List (Option Error)
  complete : Option Error
  completed : Except Error Bool
  start : Delayed (List String)
  /-- The setup messages of each scope; the last one stands for all further ones. -/
  setups : List (String × List (Delayed String))
  inbox : List (String × List Mail)
  latency : Duration
  sticky : Bool

/-- A relay under way. -/
structure MailboxProgress where
  registered : Nat
  uploaded : Nat
  downloaded : Nat
  deletions : Nat
  setups : List String
  deleted : List (String × String)
deriving DecidableEq, Repr

/-- A relay that has not been asked yet. -/
def MailboxProgress.start : MailboxProgress :=
  ⟨0, 0, 0, 0, [], []⟩

namespace MailboxScript

/-- The name of a scope in a script. -/
def box (scope : Option String) : String :=
  scope.getD ""

/-- A call that fails if the list says so. -/
def outcome {α : Type} (failures : List (Option Error)) (n : Nat) (x : α) : Except Error α :=
  match failures.getD n none with
  | some e => .error e
  | none => .ok x

def setup (s : MailboxScript) (p : MailboxProgress) (box : String) : Delayed String :=
  let items := (s.setups.lookup box).getD []
  items.getD (min (p.setups.count box) (items.length - 1))
    ⟨0, .error (.of .timeout "no setup message")⟩

/-- What a mailbox serves at some time. -/
def served (s : MailboxScript) (p : MailboxProgress) (box : String) (now : Time) : List Mail :=
  ((s.inbox.lookup box).getD []).filter fun m => m.due ≤ now && !p.deleted.contains (box, m.hash)

/-- The relay that follows the script. -/
def relay (s : MailboxScript) : Relay MailboxProgress where
  ask p now := fun
    | .register .. =>
      (some 0, outcome s.register p.registered (), { p with registered := p.registered + 1 })
    | .start .. => (some s.start.delay.pause, s.start.answer, p)
    | .setup _ scope _ =>
      let item := s.setup p (box scope)
      (some item.delay.pause, item.answer, { p with setups := box scope :: p.setups })
    | .upload .. => (some 0, outcome s.upload p.uploaded (), { p with uploaded := p.uploaded + 1 })
    | .download session party scope =>
      let mails := (s.served p (box scope) (now + s.latency.pause)).map fun m =>
        { sessionId := session, sender := m.sender, recipients := [party], body := m.body,
          hash := m.hash, sequenceNo := 0 : Envelope }
      (some s.latency.pause, outcome s.download p.downloaded mails,
        { p with downloaded := p.downloaded + 1 })
    | .delete _ _ hash scope =>
      let answer := outcome s.delete p.deletions ()
      let gone := answer.isOk && !s.sticky
      (some 0, answer, { p with
        deletions := p.deletions + 1
        deleted := if gone then (box scope, hash) :: p.deleted else p.deleted })
    | .complete .. => (some 0, s.complete.elim (.ok ()) .error, p)
    | .completed .. => (some 0, s.completed, p)

end MailboxScript

end QuorumVault.Rehearsal
