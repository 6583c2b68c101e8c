/-
Relays that agree where it matters.

Two relays agree on calls of some kind if they answer any number of such calls, made one after
the other at whatever times, alike and in the same time.  What they would answer to other calls
does not matter as long as nobody makes them.  So a round over one of them is the same round
over the other one if they agree on the calls of its scope.
-/
import QuorumVault.Proofs.Round.Mirror
import QuorumVault.Rehearsal.Mailbox

namespace QuorumVault

variable {ε ρ ρ' σ : Type}

namespace Relay

/-- The scope of the round that a call is about, if it is about one. -/
def Call.scope? : Relay.Call → Option (Option String)
  | .setup _ scope _ | .upload _ scope | .download _ _ scope | .delete _ _ _ scope => some scope
  | .register .. | .start .. | .complete .. | .completed .. => none

/-- The call is about the session, or about a round with one of the scopes. -/
def Call.Within (scopes : Option String → Prop) (c : Relay.Call) : Prop :=
  ∀ scope, c.scope? = some scope → scopes scope

/-- How long calls take and what is answered, when they are made one after the other. -/
def replies (relay : Relay ρ) :
    ρ → List (Time × Relay.Call) → List (Option Duration × (c : Relay.Call) × Except Error c.Answer)
  | _, [] => []
  | s, (now, c) :: rest =>
    let (took, answer, next) := relay.ask s now c
    (took, ⟨c, answer⟩) :: relay.replies next rest

/-- Two relays reply alike to calls of some kind. -/
def Agree (P : Relay.Call → Prop) (relay : Relay ρ) (relay' : Relay ρ') (s : ρ) (s' : ρ') : Prop :=
  ∀ calls, (∀ c ∈ calls, P c.2) → relay.replies s calls = relay'.replies s' calls

/-- Relays that agree on a call answer it alike and go on to agree. -/
theorem Agree.matches {P : Relay.Call → Prop} {relay : Relay ρ} {relay' : Relay ρ'} {s : ρ} {s' : ρ'}
    (h : Agree P relay relay' s s') (now : Time) {c : Relay.Call} (allowed : P c) :
    relay.Matches relay' s s' now c (· = ·) (Agree P relay relay') := by
  have first := h [(now, c)] (by simpa using allowed)
  simp only [replies, List.cons.injEq, Prod.mk.injEq, Sigma.mk.injEq, heq_eq_eq, true_and, and_true]
    at first
  refine ⟨first.1, first.2, fun calls all => ?_⟩
  -- What they reply from now on is what they reply behind this call.
  have more := h ((now, c) :: calls) (List.forall_mem_cons.2 ⟨allowed, all⟩)
  simp only [replies, List.cons.injEq] at more
  exact more.2

/-- Relays whose states stay related as long as they are asked such things agree on them. -/
theorem Agree.of_matches {P : Relay.Call → Prop} {relay : Relay ρ} {relay' : Relay ρ'}
    {R : ρ → ρ' → Prop}
    (step : ∀ s s' now c, P c → R s s' → relay.Matches relay' s s' now c (· = ·) R)
    {s : ρ} {s' : ρ'} (h : R s s') : Agree P relay relay' s s' := by
  intro calls all
  induction calls generalizing s s' with
  | nil => rfl
  | cons call rest ih =>
      obtain ⟨now, c⟩ := call
      obtain ⟨allowed, others⟩ := List.forall_mem_cons.1 all
      obtain ⟨took, answer, state⟩ := step s s' now c allowed h
      simp only [replies]
      rw [took, answer, ih state others]

end Relay

namespace Rehearsal.MailboxScript

/-- Scripts that differ at most in the setup messages and the mailboxes of other scopes agree. -/
theorem agree {script : MailboxScript} {scopes : Option String → Prop}
    {setups : List (String × List (Delayed String))} {inbox : List (String × List Mail)}
    (sameSetups : ∀ scope, scopes scope →
      setups.lookup (box scope) = script.setups.lookup (box scope))
    (sameInbox : ∀ scope, scopes scope →
      inbox.lookup (box scope) = script.inbox.lookup (box scope)) (p : MailboxProgress) :
    Relay.Agree (Relay.Call.Within scopes) script.relay
      { script with setups := setups, inbox := inbox }.relay p p := by
  refine Relay.Agree.of_matches (R := Eq) ?_ rfl
  rintro p _ now c within rfl
  cases c with
  | register | start | upload | delete | complete | completed => exact ⟨rfl, rfl, rfl⟩
  | setup session scope wait =>
      have item : { script with setups := setups, inbox := inbox }.setup p (box scope) =
          script.setup p (box scope) := by
        unfold setup
        rw [sameSetups scope (within scope rfl)]
      refine ⟨?_, ?_, rfl⟩
      · exact congrArg (fun item => some item.delay.pause) item.symm
      · exact congrArg (·.answer) item.symm
  | download session party scope =>
      have mails (time : Time) : { script with setups := setups, inbox := inbox }.served p (box scope)
          time = script.served p (box scope) time := by
        unfold served
        rw [sameInbox scope (within scope rfl)]
      refine ⟨rfl, ?_, rfl⟩
      simp only [relay, mails]

end Rehearsal.MailboxScript

end QuorumVault
