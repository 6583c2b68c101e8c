/-
In which attempts sessions are opened.

Attempts tell their labels when they begin.  `openers` lists, for every session that is
opened or was to be, the label of the attempt it is opened in.  A list of events behind
another one goes on with the attempt under way there; so `OpenedIn` asks for whatever
attempt may be under way, and survives composition.
-/
import QuorumVault.Proofs.Ceremony.Keeping
import QuorumVault.Proofs.Round.Results

namespace QuorumVault

open Run

namespace Event

/-- A session is opened, or was to be. -/
def isOpening : Event → Bool
  | .engine _ (.openKeygen ..) _ | .engine _ (.openSign ..) _ => true
  | _ => false

/-- The label of the attempt that begins. -/
def begun? : Event → Option String
  | .attempt label _ => some label
  | _ => none

theorem not_isOpening_of_calm {e : Event} (calm : e.Calm) : e.isOpening = false := by
  cases e with
  | engine => cases calm
  | query | asked | answered | storing | stored | noted | queued | attempt => rfl

theorem Plain.not_begun {e : Event} (h : e.Plain) : e.begun? = none := by
  cases e with
  | attempt => exact absurd trivial h.2.2
  | engine | query | asked | answered | storing | stored | noted | queued => rfl

theorem InRound.not_begun {e : Event} (h : e.InRound) : e.begun? = none := by
  cases e with
  | attempt => cases h
  | engine | query | asked | answered | storing | stored | noted | queued => rfl

end Event

/-- For every session that is opened, the label of the attempt it is opened in; `current` is the
attempt under way in the beginning. -/
def openersFrom (current : Option String) : List Event → List (Option String)
  | [] => []
  | e :: rest =>
    (if e.isOpening then [current] else []) ++ openersFrom (e.begun?.or current) rest

/-- For every session that is opened, the label of the attempt it is opened in. -/
def openers (log : List Event) : List (Option String) :=
  openersFrom none log

theorem exists_openersFrom_append (current : Option String) (log log' : List Event) :
    ∃ later, openersFrom current (log ++ log') = openersFrom current log ++ openersFrom later log' := by
  induction log generalizing current with
  | nil => exact ⟨current, rfl⟩
  | cons e rest ih =>
      obtain ⟨later, ih⟩ := ih (e.begun?.or current)
      exact ⟨later, by rw [List.cons_append, openersFrom, openersFrom, ih, List.append_assoc]⟩

/-- As long as no attempt begins, all sessions are opened in the one under way. -/
theorem mem_openersFrom {current opener : Option String} {log : List Event}
    (unbegun : ∀ e ∈ log, e.begun? = none) (mem : opener ∈ openersFrom current log) :
    opener = current := by
  induction log with
  | nil => cases mem
  | cons e rest ih =>
      rw [openersFrom, unbegun e List.mem_cons_self, Option.none_or] at mem
      rcases List.mem_append.1 mem with first | later
      · split at first
        · exact List.mem_singleton.1 first
        · cases first
      · exact ih (fun e he => unbegun e (List.mem_cons_of_mem _ he)) later

theorem openersFrom_eq_nil {log : List Event} (none : ∀ e ∈ log, e.isOpening = false)
    (current : Option String) : openersFrom current log = [] := by
  induction log generalizing current with
  | nil => rfl
  | cons e rest ih =>
      rw [openersFrom, none e List.mem_cons_self, ih fun e he => none e (List.mem_cons_of_mem _ he)]
      rfl

/-- Sessions are opened in attempts of some labels only. -/
def OpenedIn (labels : String → Prop) (log : List Event) : Prop :=
  ∀ current, ∀ opener ∈ openersFrom current log, ∃ label, opener = some label ∧ labels label

namespace OpenedIn

variable {labels labels' : String → Prop} {log log' : List Event}

theorem append (h : OpenedIn labels log) (h' : OpenedIn labels log') :
    OpenedIn labels (log ++ log') := by
  intro current opener mem
  obtain ⟨later, split⟩ := exists_openersFrom_append current log log'
  rw [split] at mem
  exact (List.mem_append.1 mem).elim (h current opener) (h' later opener)

theorem mono (h : OpenedIn labels log) (le : ∀ label, labels label → labels' label) :
    OpenedIn labels' log := by
  intro current opener mem
  obtain ⟨label, rfl, this⟩ := h current opener mem
  exact ⟨label, rfl, le label this⟩

theorem of_not_isOpening (none : ∀ e ∈ log, e.isOpening = false) : OpenedIn labels log := by
  intro current opener mem
  rw [openersFrom_eq_nil none] at mem
  cases mem

end OpenedIn

theorem steady_openedIn (labels : String → Prop) : Steady fun _ log => OpenedIn labels log where
  nil := .of_not_isOpening nofun
  append := .append
  unended := id

/-- Attempts open their sessions under their label. -/
theorem RetryPolicy.Attempts.openedIn {α : Type} {p : RetryPolicy} {label : String}
    {L : Ending α → List Event → Prop} {left : Nat} {e : Ending α} {log : List Event}
    (h : Attempts p label L left e log) (unbegun : ∀ e log, L e log → ∀ ev ∈ log, ev.begun? = none) :
    OpenedIn (· = label) log := by
  refine h.keeps_each (steady_openedIn (· = label)) ?_
  intro number e' log' tried current opener mem
  exact ⟨label, mem_openersFrom (unbegun e' log' tried) mem, rfl⟩

end QuorumVault
