/-
How the members meet.

Both ceremonies register the local member, wait for the session to start and check who has
met, and only then begin to work.  `Meets` has one case for each way in which that comes
out, with everything that is logged, and `Gathers` puts the work behind it.

What a log says about a stage is said by that part of it which belongs to the stage.  So it
does not matter what else a whole log holds, and claims about it come down to these cases.
-/
import QuorumVault.Proofs.Ceremony.Work

namespace QuorumVault

open Run

variable {ε ρ σ α β : Type}

/-! ### Stages -/

/-- There is nothing of a stage. -/
def Without (stage : Stage) (log : List Event) : Prop :=
  ∀ e ∈ log, e.stage ≠ stage

theorem AllOf.without {stage other : Stage} {log : List Event} (h : AllOf other log)
    (apart : other ≠ stage) : Without stage log :=
  fun e mem here => apart ((h e mem).symm.trans here)

theorem Without.append {stage : Stage} {log log' : List Event} (h : Without stage log)
    (h' : Without stage log') : Without stage (log ++ log') :=
  List.forall_mem_append.2 ⟨h, h'⟩

/-- Everything of a stage that is in one log is in another one. -/
def Stage.Within (stage : Stage) (log log' : List Event) : Prop :=
  ∀ e, e.stage = stage → e ∈ log → e ∈ log'

namespace Stage.Within

variable {stage : Stage} {log log' : List Event}

theorem of_subset (h : log ⊆ log') : stage.Within log log' := fun _ _ mem => h mem

/-- What is in front of everything of a stage may be left out. -/
theorem of_left (h : Without stage log) : stage.Within (log ++ log') log' := by
  intro e here mem
  exact (List.mem_append.1 mem).resolve_left fun mem => h e mem here

/-- So may what is behind it. -/
theorem of_right (h : Without stage log') : stage.Within (log ++ log') log := by
  intro e here mem
  exact (List.mem_append.1 mem).resolve_right fun mem => h e mem here

end Stage.Within

/-- What happens in a later stage happens behind everything of the stages before it. -/
theorem exists_before {early late before after : List Event} {e : Event}
    (without : Without e.stage early) (split : early ++ late = before ++ e :: after) :
    ∃ rest, before = early ++ rest ∧ late = rest ++ e :: after := by
  rcases split_append split with ⟨rest, first, -⟩ | behind
  · exact absurd rfl (without e (by simp [first]))
  · exact behind

/-! ### Stages as runs -/

namespace Run

variable {m : Run ε ρ σ α} {f : α → Run ε ρ σ β} {K : Ending β → List Event → Prop}

/-- A check stands in front of a run: either it fails, and nothing is logged, or the run goes on. -/
theorem checked_logs {φ : Type} {x : Except φ α} {error : φ → Error}
    (fails : ∀ fault, x = .error fault → K (.failed (error fault)) [])
    (after : ∀ y, x = .ok y → (f y).Logs K) : (Run.ofExcept (x.mapError error) >>= f).Logs K := by
  cases h : x with
  | error fault => exact fun _ w => ⟨[], .refl w, fails fault h⟩
  | ok y => exact after y h

/-- A question stands in front of a run. -/
theorem asks_logs {asked : Event} {answered : Except Error α → Event} (asks : m.Logs (Asks asked answered))
    (waits : ∀ e, e.Waits → K e [asked]) (fails : ∀ e, K (.failed e) [asked, answered (.error e)])
    (after : ∀ x, (f x).Logs fun e log => K e ([asked, answered (.ok x)] ++ log)) :
    (m >>= f).Logs K := by
  refine Logs.bind asks after ?_ ?_
  · intro x e log log' asks h
    cases asks with
    | waits waits => cases waits
    | done => exact h
  · intro e e' log stops asks
    cases asks with
    | waits none => exact waits e' (stops.waits none)
    | done => cases stops
    | failed e =>
        cases stops
        exact fails e

end Run

/-! ### The members meet -/

/-- How meeting comes out and what it logs. -/
inductive Meets (session party : String) (wait : Duration) (signers : Option (List String)) :
    Ending (List String) → List Event → Prop
  | registering {e} (waits : e.Waits) : Meets session party wait signers e
      [.asked (.register session party)]
  | unregistered (e) : Meets session party wait signers (.failed e)
      [.asked (.register session party), .answered (.register session party) (.error e)]
  | starting {e} (waits : e.Waits) : Meets session party wait signers e
      [.asked (.register session party), .answered (.register session party) (.ok ()),
        .asked (.start session wait)]
  | unstarted (e) : Meets session party wait signers (.failed e)
      [.asked (.register session party), .answered (.register session party) (.ok ()),
        .asked (.start session wait), .answered (.start session wait) (.error e)]
  | unfit {committee fault} (h : Committee.check committee party signers = .error fault) :
      Meets session party wait signers (.failed fault.error)
        [.asked (.register session party), .answered (.register session party) (.ok ()),
          .asked (.start session wait), .answered (.start session wait) (.ok committee)]
  | met {committee} (h : Committee.check committee party signers = .ok ()) :
      Meets session party wait signers (.done committee)
        [.asked (.register session party), .answered (.register session party) (.ok ()),
          .asked (.start session wait), .answered (.start session wait) (.ok committee)]

/-- Both ceremonies meet in the same way. -/
theorem meets (site : Site ε ρ σ) (session party : String) (wait : Duration)
    (signers : Option (List String)) :
    (do
      Run.askRelay site (.register session party)
      let committee ← Run.askRelay site (.start session wait)
      Run.ofExcept ((Committee.check committee party signers).mapError Committee.Fault.error)
      return committee : Run ε ρ σ (List String)).Logs (Meets session party wait signers) := by
  refine asks_logs (askRelay_logs site _) (fun _ => .registering) .unregistered fun _ => ?_
  refine asks_logs (askRelay_logs site _) (fun _ => .starting) .unstarted fun committee => ?_
  refine checked_logs (fun _ => .unfit) fun _ fits => ?_
  exact fun _ w => ⟨[], .refl w, .met fits⟩

/-- The member is registered, and those who have met are known and fit. -/
structure Met (session party : String) (wait : Duration) (signers : Option (List String))
    (committee : List String) (log : List Event) : Prop where
  registered : .answered (.register session party) (.ok ()) ∈ log
  started : .answered (.start session wait) (.ok committee) ∈ log
  present : party ∈ committee
  known : ∀ members, signers = some members → ∀ p ∈ committee, p ∈ members

/-- Meeting has failed, and this is how. -/
inductive Unmet (session party : String) (wait : Duration) (signers : Option (List String))
    (log : List Event) : Error → Prop
  | unregistered {e} (answered : .answered (.register session party) (.error e) ∈ log) :
      Unmet session party wait signers log e
  | unstarted {e} (answered : .answered (.start session wait) (.error e) ∈ log) :
      Unmet session party wait signers log e
  | unfit {committee fault} (answered : .answered (.start session wait) (.ok committee) ∈ log)
      (h : Committee.check committee party signers = .error fault) :
      Unmet session party wait signers log fault.error

theorem Met.transfer {session party : String} {wait : Duration} {signers : Option (List String)}
    {committee : List String} {log log' : List Event} (h : Met session party wait signers committee log)
    (within : Stage.meeting.Within log log') : Met session party wait signers committee log' where
  registered := within _ rfl h.registered
  started := within _ rfl h.started
  present := h.present
  known := h.known

theorem Unmet.transfer {session party : String} {wait : Duration} {signers : Option (List String)}
    {e : Error} {log log' : List Event} (h : Unmet session party wait signers log e)
    (within : Stage.meeting.Within log log') : Unmet session party wait signers log' e := by
  cases h with
  | unregistered answered => exact .unregistered (within _ rfl answered)
  | unstarted answered => exact .unstarted (within _ rfl answered)
  | unfit answered unfit => exact .unfit (within _ rfl answered) unfit

theorem Unmet.exists_mem {session party : String} {wait : Duration} {signers : Option (List String)}
    {e : Error} {log : List Event} (h : Unmet session party wait signers log e) :
    ∃ ev, ev ∈ log := by
  cases h with
  | unregistered answered | unstarted answered | unfit answered => exact ⟨_, answered⟩

/-- Those who have met fit if the local member is among them and all are members of the vault. -/
theorem Committee.check_iff {committee : List String} {party : String}
    {signers : Option (List String)} : check committee party signers = .ok () ↔
      party ∈ committee ∧ ∀ members, signers = some members → ∀ p ∈ committee, p ∈ members := by
  unfold check
  by_cases present : party ∈ committee
  · rw [if_neg (not_not_intro present)]
    cases signers with
    | none => simp [present]
    | some members =>
        cases found : committee.find? fun p => p ∉ members with
        | none =>
            simp only [Option.bind_some, found, true_iff]
            refine ⟨present, ?_⟩
            rintro _ ⟨⟩ p mem
            simpa using List.find?_eq_none.1 found p mem
        | some stranger =>
            have strange : stranger ∉ members := by simpa using List.find?_some found
            have among : stranger ∈ committee := List.mem_of_find?_eq_some found
            simp only [Option.bind_some, found, reduceCtorEq, false_iff]
            intro fits
            exact strange (fits.2 members rfl stranger among)
  · rw [if_pos present]
    simp [present]

namespace Meets

variable {session party : String} {wait : Duration} {signers : Option (List String)}
  {e : Ending (List String)} {log : List Event} {committee : List String}

theorem stage (h : Meets session party wait signers e log) : AllOf .meeting log := by
  cases h <;> simp [AllOf, Event.stage, Relay.Call.stage]

theorem nodup (h : Meets session party wait signers e log) : log.Nodup := by
  cases h <;> simp

theorem registers (h : Meets session party wait signers e log) :
    .asked (.register session party) ∈ log := by
  cases h <;> simp

theorem starts (h : Meets session party wait signers e log)
    (registered : .answered (.register session party) (.ok ()) ∈ log) :
    .asked (.start session wait) ∈ log := by
  cases h with
  | registering | unregistered => simp at registered
  | starting | unstarted | unfit | met => simp

theorem met_of_done (h : Meets session party wait signers (.done committee) log) :
    Met session party wait signers committee log := by
  cases h with
  | registering waits | starting waits => cases waits
  | met fits =>
      obtain ⟨present, known⟩ := Committee.check_iff.1 fits
      exact ⟨by simp, by simp, present, known⟩

theorem done_of_met (h : Meets session party wait signers e log)
    (met : Met session party wait signers committee log) : e = .done committee := by
  obtain ⟨registered, started, present, known⟩ := met
  have fits : Committee.check committee party signers = .ok () := Committee.check_iff.2 ⟨present, known⟩
  cases h with
  | registering | unregistered | starting | unstarted => simp at started
  | unfit unfit =>
      obtain rfl : committee = _ := by simpa using started
      rw [fits] at unfit
      cases unfit
  | met =>
      obtain rfl : committee = _ := by simpa using started
      rfl

theorem failed_of_unmet {err : Error} (h : Meets session party wait signers e log)
    (unmet : Unmet session party wait signers log err) : e = .failed err := by
  cases unmet with
  | unregistered answered =>
      cases h with
      | registering | starting | unstarted | unfit | met => simp at answered
      | unregistered =>
          obtain rfl : err = _ := by simpa using answered
          rfl
  | unstarted answered =>
      cases h with
      | registering | unregistered | starting | unfit | met => simp at answered
      | unstarted =>
          obtain rfl : err = _ := by simpa using answered
          rfl
  | @unfit committee fault answered unfit =>
      cases h with
      | registering | unregistered | starting | unstarted => simp at answered
      | unfit unfit' =>
          obtain rfl : committee = _ := by simpa using answered
          cases unfit.symm.trans unfit'
          rfl
      | met fits =>
          obtain rfl : committee = _ := by simpa using answered
          cases unfit.symm.trans fits

end Meets

/-- There is a policy if a span can hold its budget. -/
theorem Timeouts.exists_retry {t : Timeouts} {round : Duration}
    (countable : t.roundBudget round / 1000 ≤ Duration.maxSeconds) :
    ∃ policy, t.retry? round = some policy :=
  ⟨_, if_pos countable⟩

/-- How meeting and working come out and what they log.  `Q` is what an attempt may do in its round
with those who have met; the first attempt has the label. -/
inductive Gathers (session party : String) (wait : Duration) (signers : Option (List String))
    (Q : List String → String → List Event → Event → Prop) (policy? : Option RetryPolicy)
    (label : String) : Ending α → List Event → Prop
  | unmet {e : Ending (List String)} {e' : Ending α} {log}
      (meets : Meets session party wait signers e log) (stops : e.Stops e') :
      Gathers session party wait signers Q policy? label e' log
  | met {committee : List String} {e : Ending α} {log work}
      (meets : Meets session party wait signers (.done committee) log)
      (commences : Commences (Q committee) policy? label work) :
      Gathers session party wait signers Q policy? label e (log ++ work)

/-- A ceremony whose work begins with a first attempt gathers for it. -/
theorem meets_works (site : Site ε ρ σ) (session party : String) (wait : Duration)
    (signers : Option (List String)) {Q : List String → String → List Event → Event → Prop}
    {policy? : Option RetryPolicy} {label : String} {work : List String → Run ε ρ σ α}
    (works : ∀ committee, (work committee).Keeps fun _ log =>
      Commences (Q committee) policy? label log) :
    ((do
      Run.askRelay site (.register session party)
      let committee ← Run.askRelay site (.start session wait)
      Run.ofExcept ((Committee.check committee party signers).mapError Committee.Fault.error)
      return committee : Run ε ρ σ (List String)) >>= work).Logs
        (Gathers session party wait signers Q policy? label) := by
  refine Logs.bind (meets site session party wait signers) works ?_ ?_
  · intro committee e log log' meets commences
    exact .met meets commences
  · intro e e' log stops meets
    exact .unmet meets stops

namespace Gathers

variable {session party : String} {wait : Duration} {signers : Option (List String)}
  {Q : List String → String → List Event → Event → Prop} {policy? : Option RetryPolicy}
  {label : String} {e : Ending α} {log before after : List Event} {ev : Event}

theorem without_opening (h : Gathers session party wait signers Q policy? label e log) :
    Without .opening log := by
  cases h with
  | unmet meets => exact meets.stage.without nofun
  | met meets commences =>
      have meeting : Without .opening _ := meets.stage.without nofun
      have working : Without .opening _ := commences.works.stage.without nofun
      exact meeting.append working

/-- No work is done before the members have met; and what is done in a round is done in an attempt
that may do it. -/
theorem working (h : Gathers session party wait signers Q policy? label e log)
    (split : log = before ++ ev :: after) (works : ev.stage = .working) :
    ∃ committee, Met session party wait signers committee before ∧
      (ev.OfRound → ∃ label since, Underway label since before ∧ Q committee label since ev) := by
  cases h with
  | unmet meets => cases (meets.stage ev (by simp [split])).symm.trans works
  | @met committee _ log _ meets commences =>
      have without : Without ev.stage log := meets.stage.without (by simp [works])
      obtain ⟨rest, rfl, behind⟩ := exists_before without split
      refine ⟨committee, ?_, fun ofRound => ?_⟩
      · exact meets.met_of_done.transfer (.of_subset (List.subset_append_left _ _))
      · obtain ⟨label, since, underway, allowed⟩ :=
          commences.works.underway rest ev after behind ofRound
        exact ⟨label, since, underway.append log, allowed⟩

theorem registers (h : Gathers session party wait signers Q policy? label e log) :
    .asked (.register session party) ∈ log := by
  cases h with
  | unmet meets => exact meets.registers
  | met meets => exact List.mem_append_left _ meets.registers

theorem starts (h : Gathers session party wait signers Q policy? label e log)
    (registered : .answered (.register session party) (.ok ()) ∈ log) :
    .asked (.start session wait) ∈ log := by
  cases h with
  | unmet meets => exact meets.starts registered
  | met meets commences =>
      have without : Without .meeting _ := commences.works.stage.without nofun
      exact List.mem_append_left _ (meets.starts (Stage.Within.of_right without _ rfl registered))

theorem attempts {policy : RetryPolicy} {committee : List String}
    (h : Gathers session party wait signers Q policy? label e log)
    (met : Met session party wait signers committee log) (some : policy? = some policy) :
    .attempt label 1 ∈ log := by
  cases h with
  | unmet meets stops =>
      cases meets.done_of_met met
      cases stops
  | met meets commences =>
      obtain ⟨rest, rfl⟩ := commences.first policy some
      simp

theorem fails {err : Error} (h : Gathers session party wait signers Q policy? label e log)
    (unmet : Unmet session party wait signers log err) :
    e = .failed err ∧ Without .working log ∧ log.Nodup := by
  cases h with
  | unmet meets stops =>
      cases meets.failed_of_unmet unmet
      cases stops
      exact ⟨rfl, meets.stage.without nofun, meets.nodup⟩
  | met meets commences =>
      have without : Without .meeting _ := commences.works.stage.without nofun
      cases meets.failed_of_unmet (unmet.transfer (.of_right without))

end Gathers

end QuorumVault
