/-
A round uses its session in order.

The sender only asks.  The receiver feeds the engine until that has what it needs, and
then demands the result once; how far it has come shows in what it is doing, also when
it waits for the relay in between.
-/
import QuorumVault.Proofs.Engine.Discipline
import QuorumVault.Proofs.Round.Steps

namespace QuorumVault.Round

open Deed

variable {ε ρ σ : Type} {site : Site ε ρ σ} {r : Round} {deadline : Time}
  {family : Family} {handle : Engine.Handle}

/-- What the receiver is doing fits with whether the engine was fed with its last message. -/
def Receiver.Fits (fed : Prop) : Receiver → Prop
  | .starting | .asking | .downloading .. | .pausing _ => ¬fed
  | .deleting finished _ _ _ _ => finished = true ↔ fed
  | .left _ => True

/-- Where the receiver stands in its turn fits with whether the engine was fed with its last
message. -/
def Receiving.Fits (fed : Prop) (receiver : Receiver) : Receiving → Prop
  | .idle => receiver.Fits fed
  | .fetching _ | .applying _ => ¬fed
  | .clearing finished _ _ _ => finished = true ↔ fed
  | .finishing => fed

/-- A session has been used in order, and knows whether it is finished. -/
structure Working (family : Family) (handle : Engine.Handle) (session : Session)
    (ds : List Deed) : Prop where
  family_eq : session.family = family
  handle_eq : session.handle = handle
  work : Work family handle ds
  unfinished : session.finished = false → ⟨family, handle, .finishes⟩ ∉ ds

/-- The engine was fed with its last message. -/
abbrev Fed (family : Family) (handle : Engine.Handle) (ds : List Deed) : Prop :=
  ⟨family, handle, .feeds true⟩ ∈ ds

/-! ### The sender -/

/-- The sender does nothing to the session but ask. -/
theorem SenderMove.deeds_eq {s s' : SenderAt ε ρ σ} {log : List Event}
    (move : SenderMove site r s log s') :
    deeds log = [] ∨
      deeds log = [⟨s.pumps.session.family, s.pumps.session.handle, .asks⟩] := by
  cases move with
  | outputFails | lingers | quits | pauses | unsealable | seals | receiverFails | skips | uploads =>
      exact .inr rfl
  | delivered | uploadWaits | uploadResumes | uploaded | leaves => exact .inl rfl

/-- The sender uses the session in order and leaves the receiver as it is. -/
theorem SenderMove.working {s s' : SenderAt ε ρ σ} {ds : List Deed} {log : List Event}
    (h : Working family handle s.pumps.session ds ∧
      s.pumps.receiver.Fits (Fed family handle ds))
    (move : SenderMove site r s log s') :
    Working family handle s'.pumps.session (ds ++ deeds log) ∧
      s'.pumps.receiver.Fits (Fed family handle (ds ++ deeds log)) := by
  obtain ⟨working, fits⟩ := h
  obtain ⟨session, receiver, -, -⟩ := move.frame
  rw [session, receiver]
  rcases move.deeds_eq with hd | hd
  · rw [hd, List.append_nil]
    exact ⟨working, fits⟩
  · rw [hd, working.family_eq, working.handle_eq]
    refine ⟨⟨working.family_eq, working.handle_eq, working.work.snoc trivial trivial, ?_⟩, ?_⟩
    · simpa using working.unfinished
    · simpa [Fed] using fits

/-! ### The receiver -/

theorem Working.feeds {session : Session} {ds : List Deed}
    (working : Working family handle session ds) (unfed : ¬Fed family handle ds) (last : Bool) :
    Working family handle session (ds ++ [⟨family, handle, .feeds last⟩]) where
  family_eq := working.family_eq
  handle_eq := working.handle_eq
  work := working.work.snoc trivial unfed
  unfinished := by simpa using working.unfinished

theorem Working.finishes {session : Session} {ds : List Deed}
    (working : Working family handle session ds) (fed : Fed family handle ds)
    (first : session.finished = false) :
    Working family handle { session with finished := true }
      (ds ++ [⟨family, handle, .finishes⟩]) where
  family_eq := working.family_eq
  handle_eq := working.handle_eq
  work := working.work.snoc trivial ⟨fed, working.unfinished first⟩
  unfinished := nofun

theorem fed_feeds {ds : List Deed} (unfed : ¬Fed family handle ds) (last : Bool) :
    last = true ↔ Fed family handle (ds ++ [⟨family, handle, .feeds last⟩]) := by
  cases last with
  | true => simp [Fed]
  | false => simpa [Fed] using unfed

/-- The receiver is about to look for messages only as long as the engine needs some. -/
theorem Pumps.unfed_of_asksBatch {p : Pumps} {fed : Prop} (asks : p.asksBatch = true)
    (fits : p.receiver.Fits fed) : ¬fed := by
  unfold Pumps.asksBatch at asks
  cases h : p.receiver <;> rw [h] at asks fits <;> first | exact fits | cases asks

theorem ReceiverMove.working {s s' : ReceiverAt ε ρ σ} {ds : List Deed} {log : List Event}
    (h : Working family handle s.pumps.session ds ∧
      s.doing.Fits (Fed family handle ds) s.pumps.receiver)
    (move : ReceiverMove site r deadline s log s') :
    Working family handle s'.pumps.session (ds ++ deeds log) ∧
      s'.doing.Fits (Fed family handle (ds ++ deeds log)) s'.pumps.receiver := by
  obtain ⟨working, fits⟩ := h
  have same : ds ++ deeds [] = ds := List.append_nil ds
  obtain rfl := working.family_eq
  obtain rfl := working.handle_eq
  cases move with
  | begins => exact ⟨same.symm ▸ working, same.symm ▸ fits⟩
  | aborts => exact ⟨same.symm ▸ working, trivial⟩
  | asks asks => exact ⟨same.symm ▸ working, same.symm ▸ Pumps.unfed_of_asksBatch asks fits⟩
  | fetchWaits => exact ⟨same.symm ▸ working, same.symm ▸ fits⟩
  | fetchResumes h =>
      dsimp only [Receiving.Fits] at fits
      rw [h] at fits
      exact ⟨same.symm ▸ working, same.symm ▸ fits⟩
  | fetchFails => exact ⟨same.symm ▸ working, trivial⟩
  | fetched => exact ⟨same.symm ▸ working, same.symm ▸ fits⟩
  | pauses =>
      unfold Pumps.receiverPauses
      split <;> exact ⟨same.symm ▸ working, same.symm ▸ fits⟩
  | passesOver => exact ⟨same.symm ▸ working, same.symm ▸ fits⟩
  | unreadable => exact ⟨same.symm ▸ working, trivial⟩
  | refused => exact ⟨working.feeds fits false, trivial⟩
  | applies => exact ⟨working.feeds fits _, fed_feeds fits _⟩
  | clearWaits => exact ⟨same.symm ▸ working, same.symm ▸ fits⟩
  | clearResumes h =>
      dsimp only [Receiving.Fits] at fits
      rw [h] at fits
      exact ⟨same.symm ▸ working, same.symm ▸ fits⟩
  | goesOn => exact ⟨same.symm ▸ working, same.symm ▸ fun fed => by simpa using fits.2 fed⟩
  | hasAll => exact ⟨same.symm ▸ working, same.symm ▸ fits.1 rfl⟩
  | finishedTwice => exact ⟨same.symm ▸ working, trivial⟩
  | finishes first => exact ⟨working.finishes fits first, trivial⟩
  | timesOut => exact ⟨same.symm ▸ working, trivial⟩

/-- A round uses its session in order. -/
theorem run_work (site : Site ε ρ σ) (r : Round) (family : Family) (handle : Engine.Handle) :
    (r.run site ⟨family, handle, false⟩).Logs fun _ log => Work family handle (deeds log) := by
  intro limit w
  obtain ⟨log, p, since, ⟨working, -⟩, -⟩ := run_invariant site r
    ⟨family, handle, false⟩ limit w
    (I := fun s log => Working family handle s.pumps.session (deeds log) ∧
      s.pumps.receiver.Fits (Fed family handle (deeds log)))
    (S := fun s log => Working family handle s.pumps.session (deeds log) ∧
      s.pumps.receiver.Fits (Fed family handle (deeds log)))
    (R := fun s log => Working family handle s.pumps.session (deeds log) ∧
      s.doing.Fits (Fed family handle (deeds log)) s.pumps.receiver)
    ⟨⟨rfl, rfl, .nil, by simp⟩, by simp [Round.start, Receiver.Fits]⟩
    (fun _ h => h)
    (fun now later pump h => by rwa [Pumps.serve_session, Pumps.serve_receiver])
    id id
    (fun h move => by
      rw [deeds_append]
      exact move.working h)
    id id
    (fun h move => by
      rw [deeds_append]
      exact move.working h)
  exact ⟨log, since, working.work⟩

end QuorumVault.Round
