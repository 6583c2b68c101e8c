/-
Runs.

A run takes the world from one state to another and ends in one of few ways.  It may
be under a time limit: what is done in time counts, also at the last moment, and what
would take longer is cut off at the limit.
-/
import QuorumVault.Run.World

namespace QuorumVault

/-- How a run ends. -/
inductive Ending (α : Type) where
  | done (x : α)
  | failed (e : Error)
  | cut
  /-- Not at all, as far as anyone has watched. -/
  | endless
  /-- By a budget of time that is more than a span can hold. -/
  | overflow

/-- A run, given its time limit, if there is one. -/
def Run (ε ρ σ α : Type) : Type :=
  Option Time → World ε ρ σ → Ending α × World ε ρ σ

namespace Run

variable {ε ρ σ α β : Type}

def done (x : α) : Run ε ρ σ α :=
  fun _ w => (.done x, w)

/-- One run after another. -/
def andThen (m : Run ε ρ σ α) (f : α → Run ε ρ σ β) : Run ε ρ σ β :=
  fun limit w =>
    match m limit w with
    | (.done x, w) => f x limit w
    | (.failed e, w) => (.failed e, w)
    | (.cut, w) => (.cut, w)
    | (.endless, w) => (.endless, w)
    | (.overflow, w) => (.overflow, w)

instance : Monad (Run ε ρ σ) where
  pure := done
  bind := andThen

def fail (e : Error) : Run ε ρ σ α :=
  fun _ w => (.failed e, w)

/-- A result or a failure that is already there. -/
def ofExcept : Except Error α → Run ε ρ σ α
  | .ok x => done x
  | .error e => fail e

/-- A budget of time is more than a span can hold. -/
def overflow : Run ε ρ σ α :=
  fun _ w => (.overflow, w)

/-- Takes a failure for a result. -/
def attempt (m : Run ε ρ σ α) : Run ε ρ σ (Except Error α) :=
  fun limit w =>
    match m limit w with
    | (.done x, w) => (.done (.ok x), w)
    | (.failed e, w) => (.done (.error e), w)
    | (.cut, w) => (.cut, w)
    | (.endless, w) => (.endless, w)
    | (.overflow, w) => (.overflow, w)

def now : Run ε ρ σ Time :=
  fun _ w => (.done w.now, w)

def record (e : Event) : Run ε ρ σ Unit :=
  fun _ w => (.done (), w.record e)

/-- The limit is passed before a moment. -/
def exceeds (limit : Option Time) (t : Time) : Bool :=
  limit.any (· < t)

/-- Waits for what will not come before the limit, if ever. -/
def expire (limit : Option Time) (w : World ε ρ σ) : Ending α × World ε ρ σ :=
  match limit with
  | some last => (.cut, w.advanceTo last)
  | none => (.endless, w)

/-- Waits for a time, or for ever. -/
def wait (span : Option Duration) : Run ε ρ σ Unit :=
  fun limit w =>
    match span with
    | some d =>
      if exceeds limit (w.now + d) then expire limit w else (.done (), w.advanceTo (w.now + d))
    | none => expire limit w

def nonce (site : Site ε ρ σ) : Run ε ρ σ Sealing.Nonce :=
  fun _ w => (.done (site.nonce w.sealings), w.sealOnce)

/-- Lets a run go on no longer than to a moment, if one is given; none if it was cut off then. -/
def within (deadline : Option Time) (m : Run ε ρ σ α) : Run ε ρ σ (Option α) :=
  match deadline with
  | none => do return some (← m)
  | some t => fun outer w =>
    match m (some (outer.elim t (min t))) w with
    | (.done x, w) => (.done (some x), w)
    | (.failed e, w) => (.failed e, w)
    | (.cut, w) => if exceeds outer t then (.cut, w) else (.done none, w)
    | (.endless, w) => (.endless, w)
    | (.overflow, w) => (.overflow, w)

/-! ### Calls -/

/-- Calls the engine of a family. -/
def callEngine (site : Site ε ρ σ) (family : Family) (c : Engine.Call) : Run ε ρ σ c.Answer :=
  fun limit w =>
    let (answer, w) := w.callEngine site family c
    ofExcept answer limit w

/-- Asks the engine of a family about a share. -/
def queryEngine (site : Site ε ρ σ) (family : Family) (q : Engine.Query) : Run ε ρ σ Bytes :=
  fun limit w =>
    let (answer, w) := w.queryEngine site family q
    ofExcept answer limit w

/-- Asks the relay and waits for its answer. -/
def askRelay (site : Site ε ρ σ) (c : Relay.Call) : Run ε ρ σ c.Answer :=
  fun limit w =>
    let (took, answer, w) := w.askRelay site c
    (do wait took; record (.answered c answer); ofExcept answer) limit w

/-- Asks the storage and waits for its answer. -/
def askStorage (site : Site ε ρ σ) (c : Storage.Call) : Run ε ρ σ c.Answer :=
  fun limit w =>
    let (took, answer, w) := w.askStorage site c
    (do wait took; record (.stored c answer); ofExcept answer) limit w

end Run

end QuorumVault
