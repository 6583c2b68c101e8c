/-
Sessions of an engine.

A session is open from the call that opens it until it is freed, which happens
whatever becomes of the work in between.  It is finished at most once: a second demand
fails without asking the engine.
-/
import QuorumVault.Run.Basic

namespace QuorumVault

/-- A session of an engine. -/
structure Session where
  family : Family
  handle : Engine.Handle
  finished : Bool
deriving DecidableEq, Repr

namespace Session

variable {ε ρ σ α : Type}

/-- What opens a session. -/
inductive Opening where
  | keygen (setup : Bytes) (party : String)
  | sign (setup : Bytes) (party : String) (share : Bytes)
deriving DecidableEq, Repr

def start (site : Site ε ρ σ) (family : Family) : Opening → Run ε ρ σ Session
  | .keygen setup party => do
    return ⟨family, ← Run.callEngine site family (.openKeygen setup party), false⟩
  | .sign setup party share => do
    return ⟨family, ← Run.callEngine site family (.openSign setup party share), false⟩

def free (site : Site ε ρ σ) (s : Session) (w : World ε ρ σ) : World ε ρ σ :=
  (w.callEngine site s.family (.free s.handle)).2

/-- The failure of a second demand for the result. -/
def finishedTwice (s : Session) : Error :=
  .of .engine ("session " ++ toString s.handle ++ " already finished")

/-- Demands the result of a session; from then on it is finished. -/
def finish (site : Site ε ρ σ) (s : Session) (w : World ε ρ σ) :
    Except Error Bytes × Session × World ε ρ σ :=
  if s.finished then (.error s.finishedTwice, s, w)
  else
    let (answer, w) := w.callEngine site s.family (.finish s.handle)
    (answer, { s with finished := true }, w)

/-- Works in a session and frees it, unless the work never ends. -/
def use (site : Site ε ρ σ) (s : Session) (work : Run ε ρ σ α) : Run ε ρ σ α :=
  fun limit w =>
    match work limit w with
    | (.done x, w) => (.done x, s.free site w)
    | (.failed e, w) => (.failed e, s.free site w)
    | (.cut, w) => (.cut, s.free site w)
    | (.endless, w) => (.endless, w)
    | (.overflow, w) => (.overflow, s.free site w)

/-- Opens a session, works in it and frees it. -/
def withSession (site : Site ε ρ σ) (family : Family) (opening : Opening)
    (work : Session → Run ε ρ σ α) : Run ε ρ σ α := do
  let s ← start site family opening
  s.use site (work s)

end Session

end QuorumVault
