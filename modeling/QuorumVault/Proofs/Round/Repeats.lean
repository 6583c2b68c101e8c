/-
What a round does about messages that come again.

A relay may serve what it likes, under whatever names and hashes it likes and in any order.
The round knows a message by the hash that the relay gives with it, and no message of one hash is
handed over twice.  It does not look whether the hash is that of the body: a relay that serves one
body under two hashes has it handed over twice.
-/
import QuorumVault.Proofs.Rehearsal.Exchange
import QuorumVault.Proofs.Round.Drained

namespace QuorumVault.Round

variable {ε ρ σ : Type} {r : Round} {session : Session}

theorem firstsFrom_sublist (party : String) (before messages : List Envelope) :
    (firstsFrom party before messages).Sublist messages := by
  induction messages generalizing before with
  | nil => exact .refl _
  | cons m rest ih =>
      rw [firstsFrom]
      split
      · exact (ih _).cons_cons m
      · exact (ih _).cons m

theorem sender_ne_of_mem_firstsFrom {party : String} {before messages : List Envelope} {m : Envelope}
    (mem : m ∈ firstsFrom party before messages) : m.sender ≠ party := by
  induction messages generalizing before with
  | nil => cases mem
  | cons first rest ih =>
      rw [firstsFrom] at mem
      split at mem
      · next counts =>
          rcases List.mem_cons.1 mem with rfl | mem
          · exact counts.1
          · exact ih mem
      · exact ih mem

/-- What was handed to the engine, one envelope for every call. -/
structure HandsOver (r : Round) (session : Session) (log : List Event) (handed : List Handed) :
    Prop where
  handlings_eq : handlings log = handed.flatMap (·.handlings r session)
  fetched : (handed.map (·.envelope)).Sublist (fetched log)
  foreign : ∀ a ∈ handed, a.envelope.sender ≠ r.party
  opened : ∀ a ∈ handed, Sealing.decode r.hexEncryptionKey a.envelope.body = .ok a.message

/-- The hash that the relay gives with a message of somebody else's is one of its body. -/
def HashedBy (r : Round) (log : List Event) (hashOf : String → String) : Prop :=
  ∀ m ∈ fetched log, m.sender ≠ r.party → m.hash = hashOf m.body

/-- Whatever the relay serves, no two messages that a round hands to its engine come from envelopes
with the same hash; so they come from different bodies, unless the relay has given one body two hashes. -/
theorem run_applies_hashes_once (site : Site ε ρ σ) (r : Round) (session : Session)
    (limit : Option Time) (w : World ε ρ σ) :
    ∃ log handed, w.Since (r.run site session limit w).2 log ∧ HandsOver r session log handed ∧
      inputs log = handed.map (·.message) ∧
      (handed.Pairwise fun a a' => a.envelope.hash ≠ a'.envelope.hash) ∧
      ∀ hashOf, HashedBy r log hashOf →
        handed.Pairwise fun a a' => a.envelope.body ≠ a'.envelope.body := by
  obtain ⟨log, handed, rest, since, firsts_eq, opened, handled, -, -⟩ :=
    run_applies_firsts site r session limit w
  have among : (handed.map (·.envelope)).Sublist (firsts r.party (fetched log)) := by
    rw [firsts_eq]
    exact List.sublist_append_left _ _
  have counts (a : Handed) (mem : a ∈ handed) : a.envelope ∈ firsts r.party (fetched log) :=
    among.subset (List.mem_map_of_mem mem)
  have unlike : handed.Pairwise fun a a' => a.envelope.hash ≠ a'.envelope.hash := by
    have apart : (handed.map (·.envelope)).Pairwise fun m m' => m.hash ≠ m'.hash :=
      (firstsFrom_pairwise r.party [] (fetched log)).sublist among
    rwa [List.pairwise_map] at apart
  have foreign (a : Handed) (mem : a ∈ handed) : a.envelope.sender ≠ r.party :=
    sender_ne_of_mem_firstsFrom (counts a mem)
  refine ⟨log, handed, since, ⟨handled, among.trans (firstsFrom_sublist ..), foreign, opened⟩,
    inputs_flatMap handed log handled, unlike, fun hashOf hashed => ?_⟩
  refine unlike.imp_of_mem fun mem mem' hashes bodies => hashes ?_
  rw [hashed _ (mem_of_mem_firsts (counts _ mem)) (foreign _ mem),
    hashed _ (mem_of_mem_firsts (counts _ mem')) (foreign _ mem'), bodies]

/-- The device hands over what it is served under either hash. -/
theorem handsOver_exchange (p : Exchange) : HandsOver p.round Exchange.session p.log
    [⟨p.served "one" 0, [], .ok false⟩, ⟨p.served "two" p.second, [], .ok true⟩] where
  handlings_eq := rfl
  fetched := .refl _
  foreign := by simp [Exchange.served, Exchange.round]
  opened := by
    simp [Exchange.served, Exchange.round, Sealing.decode_eq_ok_of_encode (p.sealed 0),
      Sealing.decode_eq_ok_of_encode (p.sealed p.second)]

/-- What the relay serves the device under two hashes, each the hash of its body, is handed over from two
bodies. -/
theorem run_applies_hashes_once_exchange :
    let p : Exchange :=
      .ofKey ⟨List.replicate 32 0, rfl⟩ (fun number => Vector.replicate 12 (.ofNat number)) 1
    let hashOf (body : String) := if body = p.body 0 then "one" else "two"
    ∃ w' log handed, p.round.run p.site Exchange.session none Exchange.start = (.done [], w') ∧
      Exchange.start.Since w' log ∧ HashedBy p.round log hashOf ∧
      HandsOver p.round Exchange.session log handed ∧ inputs log = handed.map (·.message) ∧
      inputs log = [[], []] ∧ handed.Pairwise fun a a' => a.envelope.body ≠ a'.envelope.body := by
  intro p hashOf
  obtain ⟨w', ends, since, -⟩ := p.run_eq
  have unlike : p.body 1 ≠ p.body 0 := fun same =>
    absurd (Sealing.nonce_eq_of_encode (p.sealed 1) (same ▸ p.sealed 0)) (by decide)
  have hashed : HashedBy p.round p.log hashOf := by
    have served : fetched p.log = [p.served "one" 0, p.served "two" 1] := rfl
    unfold HashedBy
    rw [served]
    simp [Exchange.served, hashOf, unlike]
  obtain ⟨log, handed, since', hands, given, -, distinct⟩ :=
    run_applies_hashes_once p.site p.round Exchange.session none Exchange.start
  rw [ends] at since'
  obtain rfl := since'.unique since
  exact ⟨w', p.log, handed, ends, since, hashed, hands, given, rfl, distinct _ hashed⟩

/-- A relay that serves one body under two hashes has it handed over twice, in the whole round of the
device. -/
theorem run_repeats_relabelled :
    let p : Exchange :=
      .ofKey ⟨List.replicate 32 0, rfl⟩ (fun number => Vector.replicate 12 (.ofNat number)) 0
    ∃ w' log a a', p.round.run p.site Exchange.session none Exchange.start = (.done [], w') ∧
      Exchange.start.Since w' log ∧ HandsOver p.round Exchange.session log [a, a'] ∧
      inputs log = [a.message, a'.message] ∧ a.envelope.body = a'.envelope.body := by
  intro p
  obtain ⟨w', ends, since, -⟩ := p.run_eq
  exact ⟨w', p.log, _, _, ends, since, handsOver_exchange p, rfl, rfl⟩

end QuorumVault.Round
