/-
What a round conveys, whatever the relay says to it.

A relay can be overruled in what it answers to uploads: an envelope that was taken is refused, or the
other way round, and nothing else changes.  The round notices and forgets it, so it does the same at the
same times and comes out the same.  What it does is told in full by the messages that the engine gives
out and by whom the engine names for them.
-/
import QuorumVault.Proofs.Round.Framing
import QuorumVault.Proofs.Round.Mirror

namespace QuorumVault

variable {ε ρ σ : Type}

/-- What is answered to uploads, by what the relay has come to, the time, the envelope and its scope. -/
abbrev Verdicts (ρ : Type) := ρ → Time → Envelope → Option String → Except Error Unit

/-- The relay with other answers to uploads. -/
def Relay.ruling (relay : Relay ρ) (verdicts : Verdicts ρ) : Relay ρ where
  ask s now
    | .upload m scope =>
      ((relay.ask s now (.upload m scope)).1, verdicts s now m scope,
        (relay.ask s now (.upload m scope)).2.2)
    | c => relay.ask s now c

/-- The event without what an upload was answered. -/
def Event.unruled : Event → Event
  | .answered (.upload m scope) _ => .answered (.upload m scope) (.ok ())
  | e => e

/-- Whatever is read off events other than answers is the same. -/
theorem World.Twin.filterMap_events_unruled {α : Type} {R : ρ → ρ → Prop} {w w' : World ε ρ σ}
    (h : w.Twin Event.unruled R w') {f : Event → Option α}
    (answers : ∀ c answer, f (.answered c answer) = none) :
    w.trace.events.filterMap f = w'.trace.events.filterMap f := by
  refine h.filterMap_events fun e => ?_
  cases e with
  | answered c answer => cases c <;> simp [Event.unruled, answers]
  | engine | query | asked | storing | stored | noted | queued | attempt => rfl

/-- Twins with the same relay differ in their traces only. -/
theorem World.Twin.eq_of_eq {view : View} {w w' : World ε ρ σ} (h : w.Twin view Eq w') :
    w' = { w with trace := w'.trace } := by
  obtain ⟨_, _, rfl, -, rfl⟩ := h.exists_over
  rfl

namespace Round

/-- A relay mirrors itself, whatever it answers to uploads. -/
theorem ruling_mirror (relay : Relay ρ) (verdicts : Verdicts ρ) (r : Round) :
    Mirror Event.unruled r (fun _ => Eq) relay (relay.ruling verdicts) where
  grows _ h := h
  upload := by
    rintro _ s _ now envelope rfl
    exact ⟨rfl, rfl, rfl⟩
  download := by
    rintro _ s _ now rfl
    exact ⟨rfl, .refl .., rfl⟩
  delete := by
    rintro _ s _ now hash - rfl
    exact ⟨rfl, rfl, rfl⟩

/-- Two rounds differ in what was answered to their uploads, and no more. -/
structure DifferInVerdicts (x x' : Ending Bytes × World ε ρ σ) : Prop where
  ending : x.1 = x'.1
  world : x'.2 = { x.2 with trace := x'.2.trace }
  engineCalls : ∀ family, x.2.trace.engineCalls family = x'.2.trace.engineCalls family
  /-- They call the relay alike, so they leave the same envelopes there. -/
  relayCalls : x.2.trace.relayCalls = x'.2.trace.relayCalls
  trace : x.2.trace.map (Prod.map id Event.unruled) = x'.2.trace.map (Prod.map id Event.unruled)

/-- Whatever is answered to its uploads, a round comes to the same. -/
theorem run_ruling (site : Site ε ρ σ) (verdicts : Verdicts ρ) (r : Round) (session : Session)
    (limit : Option Time) (w : World ε ρ σ) :
    DifferInVerdicts (r.run site session limit w)
      (r.run (site.over (site.relay.ruling verdicts)) session limit w) := by
  obtain ⟨ending, _, world⟩ := run_twins (ruling_mirror site.relay verdicts r) session limit
    (World.Twin.of_related rfl : w.Twin Event.unruled Eq (w.over w.relay))
  exact {
    ending := ending
    world := world.eq_of_eq
    engineCalls := fun family => world.filterMap_events_unruled fun _ _ => rfl
    relayCalls := world.filterMap_events_unruled fun _ _ => rfl
    trace := world.seen }

section

variable {r : Round} {session : Session} {log : List Event} {shipped : List Offered}
  {unsealed : Option Bytes} {waits : Prop}

/-- The messages that were given out are those that were shipped, and perhaps one that cannot be sealed. -/
theorem Ships.emitted_eq (h : Ships r session log shipped unsealed waits) :
    emitted log = shipped.map (·.message) ++ unsealed.toList := by
  have one (a : Offered) : (a.postings r session).filterMap Posting.message? = [a.message] :=
    a.filterMap_postings
  have all : shipped.flatMap (fun a => [a.message]) = shipped.map (·.message) :=
    List.map_eq_flatMap.symm
  rw [emitted_eq_postings, h.postings_eq, List.filterMap_append, List.filterMap_flatMap]
  simp [one, all, Posting.message?, Function.comp_def]

/-- What was offered are the letters of the messages that were shipped. -/
theorem Ships.letters_eq (h : Ships r session log shipped unsealed waits) :
    (postings log).filterMap Posting.letter? = shipped.flatMap Offered.letters := by
  have one (a : Offered) : (a.postings r session).filterMap Posting.letter? = a.letters :=
    a.filterMap_letter?
  rw [h.postings_eq, List.filterMap_append, List.filterMap_flatMap]
  simp [one, Posting.letter?, Function.comp_def]

/-- With a session key that is of no use nothing was shipped. -/
theorem Ships.eq_nil {fault : Sealing.Fault} (h : Ships r session log shipped unsealed waits)
    (unusable : Sealing.Key.ofText r.hexEncryptionKey = .error fault) : shipped = [] := by
  refine List.eq_nil_iff_forall_not_mem.2 fun a among => ?_
  have opens := h.opens a among
  unfold Sealing.decode at opens
  rw [unusable] at opens
  cases opens

end

/-- What is told of a round by the messages that its engine gives out and by whom the engine names for
them. -/
structure Conveys (site : Site ε ρ σ) (r : Round) (session : Session) (log : List Event)
    (shipped : List Offered) (unsealed : Option Bytes) (waits : Prop) : Prop
    extends Ships r session log shipped unsealed waits where
  emitted_eq : emitted log = shipped.map (·.message) ++ unsealed.toList
  /-- There is one envelope for every member that was named for a message, in order, and they are
  numbered from nought. -/
  envelopes_eq : envelopes log = (shipped.flatMap Offered.letters).mapIdx r.frame
  keyless : ∀ fault, Sealing.Key.ofText r.hexEncryptionKey = .error fault → envelopes log = []
  silent : FallsSilent site r session log

/-- Every message that the engine gives out goes to each member whom the engine names for it, once and
in an envelope with the next number, whatever the relay answers; and a sender that fails sends no more. -/
theorem run_conveys (site : Site ε ρ σ) (r : Round) (session : Session) (limit : Option Time)
    (w : World ε ρ σ) :
    (∃ log shipped unsealed, w.Since (r.run site session limit w).2 log ∧
      Conveys site r session log shipped unsealed (r.run site session limit w).1.Waits) ∧
    ∀ verdicts, DifferInVerdicts (r.run site session limit w)
      (r.run (site.over (site.relay.ruling verdicts)) session limit w) := by
  obtain ⟨log, p, path, ended⟩ := run_path site r session limit w
  obtain ⟨shipped, unsealed, ships⟩ := exists_ships_of_path path ended
  have envelopes_eq := (numbered_of_path path).envelopes_eq
  rw [ships.letters_eq] at envelopes_eq
  refine ⟨⟨log, shipped, unsealed, since_of_path path, ?_⟩, fun verdicts =>
    run_ruling site verdicts r session limit w⟩
  exact {
    toShips := ships
    emitted_eq := ships.emitted_eq
    envelopes_eq := envelopes_eq
    keyless := fun fault unusable => by
      rw [envelopes_eq, ships.eq_nil unusable]
      rfl
    silent := fallsSilent_of_path path }

end Round

end QuorumVault
