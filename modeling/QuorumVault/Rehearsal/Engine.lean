/-
Engines that follow a script.

A script says beforehand what an engine answers: which openings fail, and for every
session the messages it has to send, who gets them, which inputs fail, after how many
inputs it is done and with what.  Rounds can be rehearsed with it.
-/
import QuorumVault.Engine.Basic

namespace QuorumVault.Rehearsal

/-- What one session does. -/
structure SessionScript where
  /-- The answers to the demands for messages, one by one; nothing behind the last. -/
  outputs : List (Except Error (Option Bytes))
  /-- For messages, who at each place of the committee gets them; otherwise nobody. -/
  receivers : List (Bytes × List (Except Error (Option String)))
  inputErrors : List (Bytes × Error)
  finishAfter : Nat
  result : Except Error Bytes

/-- A session that has nothing to say. -/
def SessionScript.silent : SessionScript :=
  ⟨[], [], [], 1, .ok []⟩

/-- What an engine does. -/
structure EngineScript where
  /-- The openings that fail, one by one; the others succeed. -/
  openings : List (Option Error)
  /-- The sessions one by one; the last one stands for all further ones. -/
  sessions : List SessionScript
  publicKey : Except Error Bytes
  chainCode : Except Error Bytes
  childKey : Except Error Bytes

/-- A session under way. -/
structure SessionProgress where
  script : SessionScript
  outputs : Nat
  inputs : Nat

/-- An engine under way. -/
structure EngineProgress where
  openings : Nat
  /-- The sessions that were opened; the first has the number one. -/
  sessions : List SessionProgress

/-- An engine that has not been called yet. -/
def EngineProgress.start : EngineProgress :=
  ⟨0, []⟩

namespace EngineScript

/-- The script of a session, counted from zero. -/
def session (s : EngineScript) (n : Nat) : SessionScript :=
  s.sessions.getD (min n (s.sessions.length - 1)) .silent

def openSession (s : EngineScript) (p : EngineProgress) : Except Error Engine.Handle × EngineProgress :=
  let next := { p with openings := p.openings + 1 }
  match s.openings.getD p.openings none with
  | some e => (.error e, next)
  | none =>
    (.ok (p.sessions.length + 1),
      { next with sessions := p.sessions ++ [⟨s.session p.sessions.length, 0, 0⟩] })

/-- Serves a call in a session. -/
def inSession {α : Type} (p : EngineProgress) (h : Engine.Handle)
    (serve : SessionProgress → Except Error α × SessionProgress) : Except Error α × EngineProgress :=
  match p.sessions[h - 1]? with
  | some session =>
    let (answer, session) := serve session
    (answer, { p with sessions := p.sessions.set (h - 1) session })
  | none => (.error (.of .engine "unknown session"), p)

/-- The next message of a session. -/
def output (s : SessionProgress) : Except Error (Option Bytes) × SessionProgress :=
  (s.script.outputs.getD s.outputs (.ok none), { s with outputs := s.outputs + 1 })

def receiver (message : Bytes) (index : Nat) (s : SessionProgress) :
    Except Error (Option String) × SessionProgress :=
  (((s.script.receivers.lookup message).getD []).getD index (.ok none), s)

def input (message : Bytes) (s : SessionProgress) : Except Error Bool × SessionProgress :=
  match s.script.inputErrors.lookup message with
  | some e => (.error e, s)
  | none => (.ok (s.script.finishAfter ≤ s.inputs + 1), { s with inputs := s.inputs + 1 })

/-- The engine that follows the script. -/
def engine (s : EngineScript) : Engine EngineProgress where
  call p := fun
    | .openKeygen .. => s.openSession p
    | .openSign .. => s.openSession p
    | .output h => inSession p h output
    | .receiver h message index => inSession p h (receiver message index)
    | .input h message => inSession p h (input message)
    | .finish h => inSession p h fun session => (session.script.result, session)
    | .free _ => (.ok (), p)
  query _ := fun
    | .publicKey _ => s.publicKey
    | .chainCode _ => s.chainCode
    | .childKey .. => s.childKey

end EngineScript

end QuorumVault.Rehearsal
