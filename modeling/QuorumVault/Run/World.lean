/-
The surroundings of a run.

A site says how engines, relay and storage behave, where nonces come from, and what
is left open otherwise: which of two things due at the same moment comes first, and
for how many steps anyone will watch.  A world is what changes: the time, the inner
states of the others, and what has happened so far.
-/
import QuorumVault.Run.Trace

namespace QuorumVault

/-- How everything around a run behaves. -/
structure Site (ε ρ σ : Type) where
  engine : Family → Engine ε
  relay : Relay ρ
  storage : Storage σ
  hasQueue : Bool
  nonce : Nat → Sealing.Nonce
  /-- The date and time of day at some time of the run. -/
  calendar : Time → Moment
  /-- Whether the receiver goes first when it wakes together with the sender; by how often a round
  has woken before. -/
  receiverFirst : Nat → Bool
  patience : Nat

/-- The pumps of a round take turns at going first: the receiver when the round wakes for the first
time, the sender the next time, and so on. -/
def takeTurns (wakes : Nat) : Bool :=
  wakes % 2 == 0

/-- What changes in a run. -/
structure World (ε ρ σ : Type) where
  now : Time
  engines : Family → ε
  relay : ρ
  storage : σ
  sealings : Nat
  trace : Trace

namespace World

variable {ε ρ σ : Type}

/-- The world before anything has happened. -/
def start (engines : Family → ε) (relay : ρ) (storage : σ) : World ε ρ σ :=
  ⟨0, engines, relay, storage, 0, []⟩

def record (w : World ε ρ σ) (e : Event) : World ε ρ σ :=
  { w with trace := (w.now, e) :: w.trace }

/-- Lets time pass until a moment. -/
def advanceTo (w : World ε ρ σ) (t : Time) : World ε ρ σ :=
  { w with now := max w.now t }

def sealOnce (w : World ε ρ σ) : World ε ρ σ :=
  { w with sealings := w.sealings + 1 }

/-- Calls the engine of a family. -/
def callEngine (site : Site ε ρ σ) (family : Family) (c : Engine.Call) (w : World ε ρ σ) :
    Except Error c.Answer × World ε ρ σ :=
  let (answer, state) := (site.engine family).call (w.engines family) c
  (answer, { w with engines := fun f => if f = family then state else w.engines f }.record
    (.engine family c answer))

/-- Asks the engine of a family about a share. -/
def queryEngine (site : Site ε ρ σ) (family : Family) (q : Engine.Query) (w : World ε ρ σ) :
    Except Error Bytes × World ε ρ σ :=
  let answer := (site.engine family).query (w.engines family) q
  (answer, w.record (.query family q answer))

/-- Begins a call to the relay: how long it will take and what will be answered. -/
def askRelay (site : Site ε ρ σ) (c : Relay.Call) (w : World ε ρ σ) :
    Option Duration × Except Error c.Answer × World ε ρ σ :=
  let (took, answer, state) := site.relay.ask w.relay w.now c
  (took, answer, { w with relay := state }.record (.asked c))

/-- Begins a call to the storage: how long it will take and what will be answered. -/
def askStorage (site : Site ε ρ σ) (c : Storage.Call) (w : World ε ρ σ) :
    Option Duration × Except Error c.Answer × World ε ρ σ :=
  let (took, answer, state) := site.storage.ask w.storage w.now c
  (took, answer, { w with storage := state }.record (.storing c))

end World

end QuorumVault
