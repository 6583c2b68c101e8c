/-
How sessions of the engines are to be handled.

What a log says about sessions is the list of its deeds: a session is opened under a
handle, asked for messages, fed with messages, finished, freed.  An engine may give out
any handle, also one that it gave out before, so deeds belong to the session that was
opened last under their handle and not freed since.

`Disciplined` says what has to hold: whatever is opened is freed, once, before anything
else is opened; nothing is done to a session that is not open; messages end with the
one that the engine calls the last, and only then the result is demanded, once.  A
disciplined list behind another one is disciplined, so a whole run is, if every
session that it opens is handled well by itself.
-/
import QuorumVault.Proofs.Engine.Sessions

namespace QuorumVault

/-- What is done to a session. -/
inductive Deed.Kind where
  | opens
  | asks
  | feeds (last : Bool)
  | finishes
  | frees
deriving DecidableEq

/-- Something done to a session. -/
structure Deed where
  family : Family
  handle : Engine.Handle
  kind : Deed.Kind
deriving DecidableEq

/-- What an event does to a session.  An opening that fails does nothing. -/
def Event.deed? : Event → Option Deed
  | .engine family (.openKeygen ..) (.ok handle) => some ⟨family, handle, .opens⟩
  | .engine family (.openSign ..) (.ok handle) => some ⟨family, handle, .opens⟩
  | .engine family (.output handle) _ => some ⟨family, handle, .asks⟩
  | .engine family (.receiver handle _ _) _ => some ⟨family, handle, .asks⟩
  | .engine family (.input handle _) (.ok last) => some ⟨family, handle, .feeds last⟩
  | .engine family (.input handle _) (.error _) => some ⟨family, handle, .feeds false⟩
  | .engine family (.finish handle) _ => some ⟨family, handle, .finishes⟩
  | .engine family (.free handle) _ => some ⟨family, handle, .frees⟩
  | _ => none

/-- What a log does to sessions, in order. -/
def deeds (log : List Event) : List Deed :=
  log.filterMap Event.deed?

@[simp] theorem deeds_nil : deeds [] = [] := rfl

@[simp] theorem deeds_append (log log' : List Event) :
    deeds (log ++ log') = deeds log ++ deeds log' :=
  List.filterMap_append

namespace Deed

/-- A deed on an open session that leaves it open. -/
def Kind.IsUse : Kind → Prop
  | .opens | .frees => False
  | .asks | .feeds _ | .finishes => True

/-- All deeds are uses of one session. -/
def Uses (family : Family) (handle : Engine.Handle) (uses : List Deed) : Prop :=
  ∀ d ∈ uses, d.family = family ∧ d.handle = handle ∧ d.kind.IsUse

/-- A deed may be done to a session, given its uses before. -/
def Kind.InOrder (family : Family) (handle : Engine.Handle) (uses : List Deed) : Kind → Prop
  | .opens | .frees | .asks => True
  | .feeds _ => ⟨family, handle, .feeds true⟩ ∉ uses
  | .finishes => ⟨family, handle, .feeds true⟩ ∈ uses ∧ ⟨family, handle, .finishes⟩ ∉ uses

/-- How many sessions were opened. -/
def opened (ds : List Deed) : Nat :=
  ds.countP fun d => d.kind = .opens

/-- How many sessions were freed. -/
def freed (ds : List Deed) : Nat :=
  ds.countP fun d => d.kind = .frees

end Deed

open Deed

/-- Sessions are handled as they are to be.  The flag says that the run in question has not ended;
the session that it opened last may then be open. -/
structure Disciplined (unended : Bool) (ds : List Deed) : Prop where
  /-- Whatever is opened is used and freed before anything else is done. -/
  freed : ∀ before family handle after, ds = before ++ ⟨family, handle, .opens⟩ :: after →
    (∃ uses rest, after = uses ++ ⟨family, handle, .frees⟩ :: rest ∧ Uses family handle uses) ∨
      unended = true ∧ Uses family handle after
  /-- Whatever is used or freed was opened, and only used since, in order. -/
  opened : ∀ before family handle kind after, ds = before ++ ⟨family, handle, kind⟩ :: after →
    kind ≠ .opens → ∃ earlier uses, before = earlier ++ ⟨family, handle, .opens⟩ :: uses ∧
      Uses family handle uses ∧ kind.InOrder family handle uses
  live : ∀ before after, ds = before ++ after →
    Deed.opened before = Deed.freed before ∨ Deed.opened before = Deed.freed before + 1
  returned : unended = false → Deed.opened ds = Deed.freed ds

/-! ### Counting -/

@[simp] theorem Deed.opened_append (ds ds' : List Deed) :
    Deed.opened (ds ++ ds') = Deed.opened ds + Deed.opened ds' :=
  List.countP_append

@[simp] theorem Deed.freed_append (ds ds' : List Deed) :
    Deed.freed (ds ++ ds') = Deed.freed ds + Deed.freed ds' :=
  List.countP_append

@[simp] theorem Deed.opened_cons_opens (family : Family) (handle : Engine.Handle) (ds : List Deed) :
    Deed.opened (⟨family, handle, .opens⟩ :: ds) = Deed.opened ds + 1 := by
  simp [Deed.opened]

@[simp] theorem Deed.freed_cons_opens (family : Family) (handle : Engine.Handle) (ds : List Deed) :
    Deed.freed (⟨family, handle, .opens⟩ :: ds) = Deed.freed ds := by
  simp [Deed.freed]

theorem Deed.Uses.opened {family : Family} {handle : Engine.Handle} {uses : List Deed}
    (h : Uses family handle uses) : Deed.opened uses = 0 := by
  refine List.countP_eq_zero.2 fun d hd opens => ?_
  have use := (h d hd).2.2
  rw [of_decide_eq_true opens] at use
  exact use

theorem Deed.Uses.freed {family : Family} {handle : Engine.Handle} {uses : List Deed}
    (h : Uses family handle uses) : Deed.freed uses = 0 := by
  refine List.countP_eq_zero.2 fun d hd frees => ?_
  have use := (h d hd).2.2
  rw [of_decide_eq_true frees] at use
  exact use

/-- A session that was opened, used and freed is not counted any more. -/
theorem Deed.Uses.balanced {family : Family} {handle : Engine.Handle} {uses : List Deed}
    (h : Uses family handle uses) :
    Deed.opened (⟨family, handle, .opens⟩ :: uses ++ [⟨family, handle, .frees⟩]) =
      Deed.freed (⟨family, handle, .opens⟩ :: uses ++ [⟨family, handle, .frees⟩]) := by
  rw [opened_append, freed_append, opened_cons_opens, freed_cons_opens, h.opened, h.freed]
  rfl

theorem Deed.Uses.of_append {family : Family} {handle : Engine.Handle} {uses uses' : List Deed}
    (h : Uses family handle (uses ++ uses')) : Uses family handle uses :=
  fun d hd => h d (List.mem_append_left _ hd)

/-! ### Disciplined lists compose -/

namespace Disciplined

theorem nil : Disciplined false [] where
  freed := by simp
  opened := by simp
  live := by simp [Deed.opened, Deed.freed]
  returned _ := rfl

theorem unended {ds : List Deed} (h : Disciplined false ds) : Disciplined true ds where
  freed before family handle after hs := by
    rcases h.freed before family handle after hs with hf | ⟨hf, -⟩
    · exact .inl hf
    · cases hf
  opened := h.opened
  live := h.live
  returned := nofun

/-- What comes behind disciplined deeds may be looked at by itself. -/
theorem append {b : Bool} {ds ds' : List Deed} (h : Disciplined false ds) (h' : Disciplined b ds') :
    Disciplined b (ds ++ ds') where
  freed before family handle after hs := by
    rcases split_append hs with ⟨a, ha, rfl⟩ | ⟨c, rfl, hc⟩
    · rcases h.freed before family handle a ha with ⟨uses, rest, rfl, hu⟩ | ⟨hf, -⟩
      · exact .inl ⟨uses, rest ++ ds', by simp, hu⟩
      · cases hf
    · exact h'.freed c family handle after hc
  opened before family handle kind after hs hk := by
    rcases split_append hs with ⟨a, ha, rfl⟩ | ⟨c, rfl, hc⟩
    · exact h.opened before family handle kind a ha hk
    · obtain ⟨earlier, uses, rfl, hu, order⟩ := h'.opened c family handle kind after hc hk
      exact ⟨ds ++ earlier, uses, by simp, hu, order⟩
  live before after hs := by
    have balanced := h.returned rfl
    rcases List.append_eq_append_iff.1 hs with ⟨c, rfl, hc⟩ | ⟨a, ha, -⟩
    · have := h'.live c after hc
      rw [opened_append, freed_append]
      omega
    · exact h.live before a ha
  returned hb := by
    have balanced := h.returned rfl
    have balanced' := h'.returned hb
    rw [opened_append, freed_append]
    omega

end Disciplined

theorem steady_disciplined : Run.Steady fun unended log => Disciplined unended (deeds log) where
  nil := .nil
  append h h' := by
    rw [deeds_append]
    exact h.append h'
  unended := .unended

/-! ### One session -/

/-- An open session is used in order, and nothing else is done. -/
def Work (family : Family) (handle : Engine.Handle) (uses : List Deed) : Prop :=
  ∀ before d after, uses = before ++ d :: after →
    d.family = family ∧ d.handle = handle ∧ d.kind.IsUse ∧ d.kind.InOrder family handle before

namespace Work

variable {family : Family} {handle : Engine.Handle} {ds : List Deed}

theorem nil : Work family handle [] := by
  intro before d after h
  simp at h

/-- One more use, if it is in order. -/
theorem snoc {kind : Kind} (work : Work family handle ds) (use : kind.IsUse)
    (order : kind.InOrder family handle ds) :
    Work family handle (ds ++ [⟨family, handle, kind⟩]) := by
  intro before d after h
  rcases split_append h with ⟨a, ha, -⟩ | ⟨c, rfl, hc⟩
  · exact work before d a ha
  · cases c with
    | nil =>
        cases hc
        exact ⟨rfl, rfl, use, by simpa using order⟩
    | cons => simp at hc

theorem uses (work : Work family handle ds) : Uses family handle ds := by
  intro d hd
  obtain ⟨before, after, h⟩ := List.append_of_mem hd
  obtain ⟨hf, hh, use, -⟩ := work before d after h
  exact ⟨hf, hh, use⟩

/-- A session that is opened and used in order is handled well as long as it is open. -/
theorem begun (work : Work family handle ds) :
    Disciplined true (⟨family, handle, .opens⟩ :: ds) where
  freed before f h after hs := by
    cases before with
    | nil =>
        cases hs
        exact .inr ⟨rfl, work.uses⟩
    | cons d before =>
        obtain ⟨-, -, use, -⟩ := work before _ after (List.cons.inj hs).2
        cases use
  opened before f h kind after hs hk := by
    cases before with
    | nil =>
        cases hs
        exact absurd rfl hk
    | cons d before =>
        obtain ⟨rfl, rfl⟩ := List.cons.inj hs
        obtain ⟨rfl, rfl, -, order⟩ := work before _ after rfl
        exact ⟨[], before, rfl, work.uses.of_append, order⟩
  live before after hs := by
    cases before with
    | nil => exact .inl rfl
    | cons d before =>
        obtain ⟨rfl, rfl⟩ := List.cons.inj hs
        right
        rw [opened_cons_opens, freed_cons_opens, work.uses.of_append.opened,
          work.uses.of_append.freed]
  returned := nofun

/-- A session that is opened, used in order and freed is handled well. -/
theorem ended (work : Work family handle ds) :
    Disciplined false (⟨family, handle, .opens⟩ :: ds ++ [⟨family, handle, .frees⟩]) where
  freed before f h after hs := by
    rcases split_append hs with ⟨a, ha, rfl⟩ | ⟨c, -, hc⟩
    · cases before with
      | nil =>
          cases ha
          exact .inl ⟨_, [], rfl, work.uses⟩
      | cons d before =>
          obtain ⟨-, -, use, -⟩ := work before _ a (List.cons.inj ha).2
          cases use
    · cases c with
      | nil => cases hc
      | cons => simp at hc
  opened before f h kind after hs hk := by
    rcases split_append hs with ⟨a, ha, rfl⟩ | ⟨c, rfl, hc⟩
    · exact work.begun.opened before f h kind a ha hk
    · cases c with
      | nil =>
          cases hc
          exact ⟨[], ds, by simp, work.uses, trivial⟩
      | cons => simp at hc
  live before after hs := by
    rcases List.append_eq_append_iff.1 hs with ⟨c, rfl, hc⟩ | ⟨a, ha, -⟩
    · cases c with
      | nil =>
          rw [List.append_nil]
          exact work.begun.live _ [] (List.append_nil _).symm
      | cons d c =>
          obtain ⟨rfl, nothing⟩ := List.cons.inj hc
          obtain ⟨rfl, rfl⟩ := List.append_eq_nil_iff.1 nothing.symm
          exact .inl work.uses.balanced
    · exact work.begun.live before a ha
  returned _ := work.uses.balanced

end Work

/-! ### Sessions in a run -/

variable {ε ρ σ α : Type} {site : Site ε ρ σ}

@[simp] theorem Session.Opening.deeds_opened (opening : Session.Opening) (family : Family)
    (handle : Engine.Handle) :
    deeds [opening.opened family handle] = [⟨family, handle, .opens⟩] := by
  cases opening <;> rfl

@[simp] theorem Session.Opening.deeds_refused (opening : Session.Opening) (family : Family)
    (e : Error) : deeds [opening.refused family e] = [] := by
  cases opening <;> rfl

theorem Session.Opening.deeds_cons_opened (opening : Session.Opening) (family : Family)
    (handle : Engine.Handle) (log : List Event) :
    deeds (opening.opened family handle :: log) = ⟨family, handle, .opens⟩ :: deeds log := by
  rw [← List.singleton_append, deeds_append, deeds_opened]
  rfl

/-- Work in a session of its own is disciplined if it uses the session in order. -/
theorem Session.withSession_keeps {family : Family} {opening : Session.Opening}
    {work : Session → Run ε ρ σ α}
    (h : ∀ handle, (work ⟨family, handle, false⟩).Logs fun _ log => Work family handle (deeds log)) :
    (Session.withSession site family opening work).Keeps fun unended log =>
      Disciplined unended (deeds log) := by
  refine (withSession_logs site (L := fun handle _ log => Work family handle (deeds log)) h).mono ?_
  intro e log within
  cases within with
  | refused =>
      show Disciplined false (deeds _)
      rw [Opening.deeds_refused]
      exact .nil
  | @freed handle e log answer work ended =>
      rw [ended, deeds_append, Opening.deeds_cons_opened]
      exact work.ended
  | @endless handle log work =>
      rw [Opening.deeds_cons_opened]
      exact work.begun

end QuorumVault
