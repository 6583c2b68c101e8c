/-
The result of a round is the engine's.

The engine answers the demand for the result once, and what it answers there is what
the round returns.  Other than that a round makes calls in its session and passes
messages, nothing else.
-/
import QuorumVault.Proofs.Engine.Sessions
import QuorumVault.Proofs.Round.Steps

namespace QuorumVault

/-- The results that engines gave, in order. -/
def results (log : List Event) : List (Family × Bytes) :=
  log.filterMap fun
    | .engine family (.finish _) (.ok raw) => some (family, raw)
    | _ => none

@[simp] theorem results_append (log log' : List Event) :
    results (log ++ log') = results log ++ results log' :=
  List.filterMap_append

/-- The call takes part in passing messages. -/
def Relay.Call.Passes : Relay.Call → Prop
  | .upload .. | .download .. | .delete .. => True
  | .register .. | .start .. | .setup .. | .complete .. | .completed .. => False

/-- Something that happens in a round. -/
def Event.InRound : Event → Prop
  | .engine _ c _ => c.handle?.isSome = true
  | .asked c | .answered c _ => c.Passes
  | .query .. | .storing _ | .stored .. | .noted _ | .queued .. | .attempt .. => False

namespace Round

variable {ε ρ σ : Type} {site : Site ε ρ σ} {r : Round} {deadline : Time}

/-! ### What a round logs -/

theorem SenderMove.inRound {s s' : SenderAt ε ρ σ} {log : List Event}
    (move : SenderMove site r s log s') : (∀ e ∈ log, e.InRound) ∧ results log = [] := by
  cases move with
  | outputFails | lingers | quits | pauses | unsealable | seals | receiverFails | skips =>
      exact ⟨by simp [Event.InRound, Engine.Call.handle?], rfl⟩
  | uploads => exact ⟨by simp [Event.InRound, Engine.Call.handle?, Relay.Call.Passes], rfl⟩
  | uploaded => exact ⟨by simp [Event.InRound, Relay.Call.Passes], rfl⟩
  | delivered | uploadWaits | uploadResumes | leaves => exact ⟨List.forall_mem_nil _, rfl⟩

theorem ReceiverMove.inRound {s s' : ReceiverAt ε ρ σ} {log : List Event}
    (move : ReceiverMove site r deadline s log s') : ∀ e ∈ log, e.InRound := by
  cases move with
  | asks | fetchFails | fetched | goesOn | hasAll => simp [Event.InRound, Relay.Call.Passes]
  | refused | finishes => simp [Event.InRound, Engine.Call.handle?]
  | applies => simp [Event.InRound, Engine.Call.handle?, Relay.Call.Passes]
  | begins | aborts | fetchWaits | fetchResumes | pauses | passesOver | unreadable | clearWaits
  | clearResumes | finishedTwice | timesOut => exact List.forall_mem_nil _

/-! ### Where the result comes from -/

/-- The result with which the receiver left, if it did with one. -/
def Receiver.results (family : Family) : Receiver → List (Family × Bytes)
  | .left (.ok raw) => [(family, raw)]
  | .left (.error _) | .starting | .asking | .downloading .. | .deleting .. | .pausing _ => []

theorem Receiver.results_of_waiting {p : Pumps} (waiting : p.receiverLeft = false)
    (family : Family) : p.receiver.results family = [] := by
  unfold Pumps.receiverLeft at waiting
  cases h : p.receiver with
  | left => simp [h] at waiting
  | starting | asking | downloading | deleting | pausing => rfl

/-- Everything so far belongs to the round, and the engine has given the receiver's result and no
other. -/
structure Told (family : Family) (p : Pumps) (log : List Event) : Prop where
  family_eq : p.session.family = family
  inRound : ∀ e ∈ log, e.InRound
  results_eq : results log = p.receiver.results family

theorem SenderMove.told {family : Family} {s s' : SenderAt ε ρ σ} {log log' : List Event}
    (told : Told family s.pumps log) (move : SenderMove site r s log' s') :
    Told family s'.pumps (log ++ log') := by
  obtain ⟨session, receiver, -, -⟩ := move.frame
  obtain ⟨inRound, none⟩ := move.inRound
  refine ⟨by rw [session, told.family_eq], ?_, ?_⟩
  · intro e he
    exact (List.mem_append.1 he).elim (told.inRound e) (inRound e)
  · rw [results_append, none, List.append_nil, receiver, told.results_eq]

/-- In its turn the receiver has not left. -/
def Receiving.Waits (p : Pumps) (doing : Receiving) : Prop :=
  doing ≠ .idle → p.receiverLeft = false

/-- The receiver leaves with a result only if the engine has just given it. -/
theorem ReceiverMove.results_eq {family : Family} {s s' : ReceiverAt ε ρ σ} {log log' : List Event}
    (told : Told family s.pumps log) (waits : s.doing.Waits s.pumps)
    (move : ReceiverMove site r deadline s log' s') :
    s'.pumps.session.family = family ∧ s'.doing.Waits s'.pumps ∧
      results (log ++ log') = s'.pumps.receiver.results family := by
  have before : results log ++ [] = s.pumps.receiver.results family :=
    (List.append_nil _).trans told.results_eq
  have none (waiting : s.pumps.receiverLeft = false) : results log ++ [] = [] :=
    before.trans (Receiver.results_of_waiting waiting family)
  have asksWait {p : Pumps} (asks : p.asksBatch = true) : p.receiverLeft = false := by
    unfold Pumps.asksBatch at asks
    unfold Pumps.receiverLeft
    cases h : p.receiver with
    | starting | asking | downloading | deleting | pausing => rfl
    | left =>
        rw [h] at asks
        cases asks
  rw [results_append]
  cases move with
  | begins => exact ⟨told.family_eq, nofun, before⟩
  | aborts asks => exact ⟨told.family_eq, nofun, none (asksWait asks)⟩
  | asks asks =>
      exact ⟨told.family_eq, fun _ => asksWait asks, before⟩
  | fetchWaits =>
      exact ⟨told.family_eq, nofun, none (waits nofun)⟩
  | fetchResumes h =>
      refine ⟨told.family_eq, fun _ => ?_, before⟩
      show Pumps.receiverLeft _ = false
      rw [Pumps.receiverLeft, h]
  | fetchFails => exact ⟨told.family_eq, nofun, none (waits nofun)⟩
  | fetched => exact ⟨told.family_eq, fun _ => waits nofun, before⟩
  | pauses =>
      unfold Pumps.receiverPauses
      split <;> exact ⟨told.family_eq, nofun, none (waits nofun)⟩
  | passesOver => exact ⟨told.family_eq, fun _ => waits nofun, before⟩
  | unreadable => exact ⟨told.family_eq, nofun, none (waits nofun)⟩
  | refused => exact ⟨told.family_eq, nofun, none (waits nofun)⟩
  | applies => exact ⟨told.family_eq, fun _ => waits nofun, before⟩
  | clearWaits => exact ⟨told.family_eq, nofun, none (waits nofun)⟩
  | clearResumes h =>
      refine ⟨told.family_eq, fun _ => ?_, before⟩
      show Pumps.receiverLeft _ = false
      rw [Pumps.receiverLeft, h]
  | goesOn => exact ⟨told.family_eq, fun _ => waits nofun, before⟩
  | hasAll => exact ⟨told.family_eq, fun _ => waits nofun, before⟩
  | finishedTwice => exact ⟨told.family_eq, nofun, none (waits nofun)⟩
  | @finishes p w w' answer first call =>
      refine ⟨told.family_eq, nofun, ?_⟩
      rw [← List.append_nil (results log), none (waits nofun), List.nil_append]
      have family_eq : p.session.family = family := told.family_eq
      cases answer with
      | ok raw => rw [family_eq]; rfl
      | error e => rfl
  | timesOut waiting => exact ⟨told.family_eq, nofun, none waiting⟩

/-- What a round returns is the one result that the engine gave. -/
theorem run_results (site : Site ε ρ σ) (r : Round) (family : Family) (handle : Engine.Handle) :
    (r.run site ⟨family, handle, false⟩).Logs fun e log =>
      (∀ e ∈ log, e.InRound) ∧ ∀ raw, e = .done raw → results log = [(family, raw)] := by
  intro limit w
  obtain ⟨log, p, since, told, ended⟩ := run_invariant site r ⟨family, handle, false⟩ limit w
    (I := fun s log => Told family s.pumps log) (S := fun s log => Told family s.pumps log)
    (R := fun s log => Told family s.pumps log ∧ s.doing.Waits s.pumps)
    ⟨rfl, List.forall_mem_nil _, rfl⟩
    (fun _ h => h)
    (fun now later pump h => ⟨by rw [Pumps.serve_session]; exact h.family_eq, h.inRound,
      by rw [Pumps.serve_receiver]; exact h.results_eq⟩)
    id id
    (fun h move => move.told h)
    (fun h => ⟨h, nofun⟩)
    (fun h => h.1)
    (fun {s log s' log'} h move => by
      obtain ⟨family_eq, waits, results_eq⟩ := move.results_eq h.1 h.2
      refine ⟨⟨family_eq, ?_, results_eq⟩, waits⟩
      intro e he
      exact (List.mem_append.1 he).elim (h.1.inRound e) (move.inRound e))
  refine ⟨log, since, told.inRound, fun raw h => ?_⟩
  rw [h] at ended
  have known : p.result? = some (.ok raw) := ended
  rw [told.results_eq]
  unfold Pumps.result? at known
  split at known
  · cases known
  · next left =>
      rw [left, Option.some.inj known]
      rfl
  · cases known

/-- A property of events that the opening of a session has, or its failure, and all that happens in a
round, is one of everything that happens in a round with a session of its own. -/
theorem session_keeps {P : Event → Prop} (site : Site ε ρ σ) {family : Family}
    {opening : Session.Opening} (r : Round) (opened : ∀ handle, P (opening.opened family handle))
    (refused : ∀ e, P (opening.refused family e)) (inRound : ∀ e : Event, e.InRound → P e) :
    (Session.withSession site family opening (r.run site)).Keeps fun _ log => ∀ e ∈ log, P e := by
  refine (Session.withSession_logs site fun handle => r.run_results site family handle).mono ?_
  intro e log within
  cases within with
  | refused =>
      intro e he
      rw [List.mem_singleton.1 he]
      exact refused _
  | @freed handle _ log answer h =>
      intro e he
      rcases List.mem_append.1 he with he | he
      · rcases List.mem_cons.1 he with rfl | he
        · exact opened handle
        · exact inRound e (h.1 e he)
      · rw [List.mem_singleton.1 he]
        exact inRound _ rfl
  | @endless handle log h =>
      intro e he
      rcases List.mem_cons.1 he with rfl | he
      · exact opened handle
      · exact inRound e (h.1 e he)

end Round

end QuorumVault
