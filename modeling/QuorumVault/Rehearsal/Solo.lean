/-
One pump of a round alone.

In place of the other pump a list of signals is set at given times.  Pump and list are
watched until both are through, but no longer than to a horizon.
-/
import QuorumVault.Round.Pumping

namespace QuorumVault.Rehearsal

open Round

variable {ε ρ σ : Type}

/-- How a pump alone comes out. -/
structure SoloReport where
  pumps : Pumps
  leftAt : Option Time
  /-- Whether pump and list came to an end before the horizon. -/
  through : Bool

/-- Whether the pump is gone. -/
def gone (p : Pumps) : Pump → Bool
  | .sender => match p.sender with
    | .left _ => true
    | _ => false
  | .receiver => p.receiverLeft

/-- Whether the pump need not wait. -/
def ready (p : Pumps) : Pump → Bool
  | .sender => p.senderReady
  | .receiver => p.receiverReady

/-- When the pump's turn comes, if it ever does. -/
def due (deadline : Time) (p : Pumps) : Pump → Option Time
  | .sender => p.senderWake
  | .receiver => receiverDue deadline p

/-- The earlier of two times, either of which may never come. -/
def earlier : Option Time → Option Time → Option Time
  | none, t => t
  | s, none => s
  | some s, some t => some (min s t)

/-- A number of steps; signals go first. -/
def soloSteps (site : Site ε ρ σ) (r : Round) (deadline horizon : Time) (pump : Pump) :
    Nat → List (Time × RoundState) → Option Time → Pumps → World ε ρ σ →
      SoloReport × World ε ρ σ
  | 0, _, leftAt, p, w => (⟨p, leftAt, false⟩, w.advanceTo horizon)
  | patience + 1, signals, leftAt, p, w =>
    let leftAt := if gone p pump then leftAt <|> some w.now else none
    let (current, signals) := signals.span fun s => s.1 ≤ w.now
    let p := { p with signal := current.foldl (fun state s => state.set s.2) p.signal }
    if ready p pump then
      let (p, w) := turn site r deadline pump p w
      soloSteps site r deadline horizon pump patience signals leftAt p w
    else if gone p pump && signals.isEmpty then (⟨p, leftAt, true⟩, w)
    else
      let signalDue := signals.head?.map (·.1)
      match earlier signalDue (due deadline p pump) with
      | none => (⟨p, leftAt, false⟩, w.advanceTo horizon)
      | some t =>
        if horizon < t then (⟨p, leftAt, false⟩, w.advanceTo horizon)
        else if signalDue.any (· ≤ t) then
          soloSteps site r deadline horizon pump patience signals leftAt p (w.advanceTo t)
        else
          let (p, w) := turn site r deadline pump (p.wake pump) (w.advanceTo t)
          soloSteps site r deadline horizon pump patience signals leftAt p w

/-- Runs one pump of a round alone. -/
def solo (site : Site ε ρ σ) (r : Round) (horizon : Duration) (pump : Pump)
    (signals : List (Time × RoundState)) (session : Session) : Run ε ρ σ SoloReport :=
  fun _ w =>
    let (report, w) := soloSteps site r (w.now + r.deadline) (w.now + horizon) pump
      site.patience signals none (r.start session) w
    (.done report, w)

end QuorumVault.Rehearsal
