/-
What a run adds to the trace.

Nothing is ever taken out of a trace, so what a run does to it is a list of events:
its log.  `Since` says that one world comes after another with a given log in between,
and `Run.Logs` that a run, wherever and under whatever limit it starts, ends and logs
as some relation allows.  Such relations compose as runs do: the log of one run after
another is the one log behind the other, and a run that fails or is cut off logs
nothing more.

Most properties of logs survive any composition.  They are called steady here, and a
run keeps a steady property if its parts do; so it is enough to look at the few parts
that could break it.
-/
import QuorumVault.Engine.Session

namespace QuorumVault

/-- An element of a list behind another one is in the one or in the other. -/
theorem split_append {α : Type} {a c before after : List α} {x : α}
    (h : a ++ c = before ++ x :: after) :
    (∃ a', a = before ++ x :: a' ∧ after = a' ++ c) ∨ ∃ c', before = a ++ c' ∧ c = c' ++ x :: after := by
  rcases List.append_eq_append_iff.1 h with ⟨c', hb, hc⟩ | ⟨a', ha, hd⟩
  · exact .inr ⟨c', hb, hc⟩
  · cases a' with
    | nil => exact .inr ⟨[], by simpa using ha.symm, by simpa using hd.symm⟩
    | cons y a' =>
        obtain ⟨rfl, rfl⟩ : x = y ∧ after = a' ++ c := by simpa using hd
        exact .inl ⟨a', ha, rfl⟩

namespace Trace

@[simp] theorem events_cons (t : Time) (e : Event) (trace : Trace) :
    events ((t, e) :: trace) = events trace ++ [e] := by
  simp [events]

end Trace

namespace World

variable {ε ρ σ : Type} {w w₁ w₂ : World ε ρ σ} {log log₁ log₂ : List Event}

/-- The second world comes after the first, and this has happened in between, in order. -/
def Since (w w' : World ε ρ σ) (log : List Event) : Prop :=
  w'.trace.events = w.trace.events ++ log

namespace Since

theorem refl (w : World ε ρ σ) : w.Since w [] := by
  simp [Since]

theorem trans (h₁ : w.Since w₁ log₁) (h₂ : w₁.Since w₂ log₂) : w.Since w₂ (log₁ ++ log₂) := by
  unfold Since at *
  rw [h₂, h₁, List.append_assoc]

/-- There is only one log between two worlds. -/
theorem unique (h₁ : w.Since w₁ log₁) (h₂ : w.Since w₁ log₂) : log₁ = log₂ :=
  List.append_cancel_left (h₁.symm.trans h₂)

theorem record (h : w.Since w₁ log) (e : Event) : w.Since (w₁.record e) (log ++ [e]) := by
  unfold Since at *
  simp [World.record, h]

theorem advanceTo (h : w.Since w₁ log) (t : Time) : w.Since (w₁.advanceTo t) log := h

theorem sealOnce (h : w.Since w₁ log) : w.Since w₁.sealOnce log := h

end Since

theorem since_record (w : World ε ρ σ) (e : Event) : w.Since (w.record e) [e] :=
  (Since.refl w).record e

theorem since_callEngine {site : Site ε ρ σ} {family : Family} {c : Engine.Call}
    {answer : Except Error c.Answer} {w w' : World ε ρ σ}
    (h : w.callEngine site family c = (answer, w')) : w.Since w' [.engine family c answer] := by
  cases h
  simp [Since, World.record]

theorem since_queryEngine {site : Site ε ρ σ} {family : Family} {q : Engine.Query}
    {answer : Except Error Bytes} {w w' : World ε ρ σ}
    (h : w.queryEngine site family q = (answer, w')) : w.Since w' [.query family q answer] := by
  cases h
  simp [Since, World.record]

theorem since_askRelay {site : Site ε ρ σ} {c : Relay.Call} {took : Option Duration}
    {answer : Except Error c.Answer} {w w' : World ε ρ σ}
    (h : w.askRelay site c = (took, answer, w')) : w.Since w' [.asked c] := by
  cases h
  simp [Since, World.record]

theorem since_askStorage {site : Site ε ρ σ} {c : Storage.Call} {took : Option Duration}
    {answer : Except Error c.Answer} {w w' : World ε ρ σ}
    (h : w.askStorage site c = (took, answer, w')) : w.Since w' [.storing c] := by
  cases h
  simp [Since, World.record]

theorem now_callEngine {site : Site ε ρ σ} {family : Family} {c : Engine.Call}
    {answer : Except Error c.Answer} {w w' : World ε ρ σ}
    (h : w.callEngine site family c = (answer, w')) : w'.now = w.now := by
  cases h
  rfl

theorem sealings_callEngine {site : Site ε ρ σ} {family : Family} {c : Engine.Call}
    {answer : Except Error c.Answer} {w w' : World ε ρ σ}
    (h : w.callEngine site family c = (answer, w')) : w'.sealings = w.sealings := by
  cases h
  rfl

theorem sealings_askRelay {site : Site ε ρ σ} {c : Relay.Call} {took : Option Duration}
    {answer : Except Error c.Answer} {w w' : World ε ρ σ}
    (h : w.askRelay site c = (took, answer, w')) : w'.sealings = w.sealings := by
  cases h
  rfl

theorem now_askRelay {site : Site ε ρ σ} {c : Relay.Call} {took : Option Duration}
    {answer : Except Error c.Answer} {w w' : World ε ρ σ}
    (h : w.askRelay site c = (took, answer, w')) : w'.now = w.now := by
  cases h
  rfl

end World

namespace Ending

variable {α β : Type}

/-- A run that ended like this goes no further, so that what it is part of ends like that. -/
inductive Stops : Ending α → Ending β → Prop
  | failed (e : Error) : Stops (.failed e) (.failed e)
  | cut : Stops .cut .cut
  | endless : Stops .endless .endless
  | overflow : Stops .overflow .overflow

/-- The run has not ended as far as anyone has watched. -/
def isEndless : Ending α → Bool
  | .endless => true
  | _ => false

/-- The run was left while it waited. -/
inductive Waits : Ending α → Prop
  | cut : Waits .cut
  | endless : Waits .endless

theorem Stops.isEndless_eq {e : Ending α} {e' : Ending β} (h : e.Stops e') :
    e'.isEndless = e.isEndless := by
  cases h <;> rfl

theorem Stops.waits {e : Ending α} {e' : Ending β} (h : e.Stops e') (waits : e.Waits) :
    e'.Waits := by
  cases h with
  | failed | overflow => cases waits
  | cut => exact .cut
  | endless => exact .endless

end Ending

namespace Run

variable {ε ρ σ α β : Type} {m : Run ε ρ σ α} {f : α → Run ε ρ σ β}

/-- A run after one that is done goes on where that is. -/
theorem bind_of_done {limit : Option Time} {w w₁ : World ε ρ σ} {x : α}
    (h : m limit w = (.done x, w₁)) : (m >>= f) limit w = f x limit w₁ := by
  show andThen m f limit w = _
  rw [andThen, h]

/-- A run after one that is not done ends with it. -/
theorem bind_of_stops {limit : Option Time} {w w₁ : World ε ρ σ} {e : Ending α} {e' : Ending β}
    (h : m limit w = (e, w₁)) (stops : e.Stops e') : (m >>= f) limit w = (e', w₁) := by
  show andThen m f limit w = _
  rw [andThen, h]
  cases stops <;> rfl

/-- A run after another one goes on where the first one is done, and ends with it if it is not. -/
theorem bind_cases (m : Run ε ρ σ α) (f : α → Run ε ρ σ β) (limit : Option Time)
    (w : World ε ρ σ) :
    (∃ x w₁, m limit w = (.done x, w₁) ∧ (m >>= f) limit w = f x limit w₁) ∨
      ∃ e e' w₁, m limit w = (e, w₁) ∧ (m >>= f) limit w = (e', w₁) ∧ e.Stops e' := by
  rcases h : m limit w with ⟨e, w₁⟩
  cases e with
  | done x => exact .inl ⟨x, w₁, rfl, bind_of_done h⟩
  | failed e => exact .inr ⟨_, _, w₁, rfl, bind_of_stops h (.failed e), .failed e⟩
  | cut => exact .inr ⟨_, _, w₁, rfl, bind_of_stops h .cut, .cut⟩
  | endless => exact .inr ⟨_, _, w₁, rfl, bind_of_stops h .endless, .endless⟩
  | overflow => exact .inr ⟨_, _, w₁, rfl, bind_of_stops h .overflow, .overflow⟩

theorem bind_of_fst {limit : Option Time} {w : World ε ρ σ} {x : α}
    (h : (m limit w).1 = .done x) : (m >>= f) limit w = f x limit (m limit w).2 :=
  bind_of_done (Prod.ext h rfl)

theorem bind_eq_done {limit : Option Time} {w w' : World ε ρ σ} {y : β}
    (h : (m >>= f) limit w = (.done y, w')) :
    ∃ x w₁, m limit w = (.done x, w₁) ∧ f x limit w₁ = (.done y, w') := by
  rcases bind_cases m f limit w with ⟨x, w₁, hm, hb⟩ | ⟨e, e', w₁, hm, hb, stops⟩
  · exact ⟨x, w₁, hm, hb.symm.trans h⟩
  · rw [hb] at h
    cases h
    cases stops

/-- A run after another one fails with it or by itself. -/
theorem bind_eq_failed {limit : Option Time} {w w' : World ε ρ σ} {e : Error}
    (h : (m >>= f) limit w = (.failed e, w')) :
    m limit w = (.failed e, w') ∨ ∃ x w₁, m limit w = (.done x, w₁) ∧ f x limit w₁ = (.failed e, w') := by
  rcases bind_cases m f limit w with ⟨x, w₁, hm, hb⟩ | ⟨e, e', w₁, hm, hb, stops⟩
  · exact .inr ⟨x, w₁, hm, hb.symm.trans h⟩
  · rw [hb] at h
    cases h
    cases stops
    exact .inl hm

theorem ofExcept_eq_done {x : Except Error α} {limit : Option Time} {w w' : World ε ρ σ} {y : α}
    (h : Run.ofExcept x limit w = (.done y, w')) : x = .ok y ∧ w = w' := by
  cases x with
  | ok x =>
      cases h
      exact ⟨rfl, rfl⟩
  | error e => cases h

/-- A run after one that was left while it waited is left as well. -/
theorem bind_of_waits {limit : Option Time} {w : World ε ρ σ} (h : (m limit w).1.Waits) :
    ((m >>= f) limit w).1.Waits ∧ ((m >>= f) limit w).2 = (m limit w).2 := by
  rcases hm : m limit w with ⟨e, w₁⟩
  rw [hm] at h
  cases e with
  | cut =>
      rw [bind_of_stops hm .cut]
      exact ⟨.cut, rfl⟩
  | endless =>
      rw [bind_of_stops hm .endless]
      exact ⟨.endless, rfl⟩
  | done | failed | overflow => cases h

@[simp] theorem pure_bind (x : α) (f : α → Run ε ρ σ β) : (pure x >>= f) = f x := rfl

/-- Runs one after another may be grouped as one likes. -/
@[simp] theorem bind_bind {γ : Type} (m : Run ε ρ σ α) (f : α → Run ε ρ σ β)
    (g : β → Run ε ρ σ γ) : ((m >>= f) >>= g) = m >>= fun x => f x >>= g := by
  funext limit w
  show andThen (andThen m f) g limit w = andThen m (fun x => andThen (f x) g) limit w
  unfold andThen
  rcases m limit w with ⟨e, w₁⟩
  cases e <;> rfl

/-- Taking a failure for a result leaves the world as it is. -/
theorem attempt_cases (m : Run ε ρ σ α) (limit : Option Time) (w : World ε ρ σ) :
    (∃ x w₁, m limit w = (.done x, w₁) ∧ attempt m limit w = (.done (.ok x), w₁)) ∨
      (∃ e w₁, m limit w = (.failed e, w₁) ∧ attempt m limit w = (.done (.error e), w₁)) ∨
      ∃ e e' w₁, m limit w = (e, w₁) ∧ attempt m limit w = (e', w₁) ∧ e.Stops e' ∧
        ∀ x, e ≠ .failed x := by
  unfold attempt
  rcases m limit w with ⟨e, w₁⟩
  cases e with
  | done x => exact .inl ⟨x, w₁, rfl, rfl⟩
  | failed e => exact .inr (.inl ⟨e, w₁, rfl, rfl⟩)
  | cut => exact .inr (.inr ⟨_, _, w₁, rfl, rfl, .cut, nofun⟩)
  | endless => exact .inr (.inr ⟨_, _, w₁, rfl, rfl, .endless, nofun⟩)
  | overflow => exact .inr (.inr ⟨_, _, w₁, rfl, rfl, .overflow, nofun⟩)

theorem attempt_eq_ok {limit : Option Time} {w w' : World ε ρ σ} {x : α}
    (h : attempt m limit w = (.done (.ok x), w')) : m limit w = (.done x, w') := by
  rcases attempt_cases m limit w with ⟨y, w₁, hm, ha⟩ | ⟨e, w₁, hm, ha⟩ | ⟨e, e', w₁, hm, ha, stops, -⟩
  · cases ha.symm.trans h
    exact hm
  · cases ha.symm.trans h
  · cases ha.symm.trans h
    cases stops

/-- What is taken for a result does not fail. -/
theorem attempt_ne_failed {limit : Option Time} {w w' : World ε ρ σ} {e : Error} :
    attempt m limit w ≠ (.failed e, w') := by
  intro h
  rcases attempt_cases m limit w with
    ⟨y, w₁, hm, ha⟩ | ⟨e, w₁, hm, ha⟩ | ⟨e, e', w₁, hm, ha, stops, unfailed⟩
  · cases ha.symm.trans h
  · cases ha.symm.trans h
  · cases ha.symm.trans h
    cases stops
    exact unfailed _ rfl

/-- A pause of some length is made in full or cut off at the limit. -/
theorem wait_some_cases (d : Duration) (limit : Option Time) (w : World ε ρ σ) :
    wait (some d) limit w = (.done (), w.advanceTo (w.now + d)) ∨
      ∃ last, limit = some last ∧ last < w.now + d ∧
        wait (some d) limit w = (.cut, w.advanceTo last) := by
  show (if exceeds limit (w.now + d) then expire limit w else (.done (), _)) = _ ∨ _
  cases limit with
  | none => exact .inl rfl
  | some last =>
      by_cases h : last < w.now + d
      · refine .inr ⟨last, rfl, h, ?_⟩
        show (if exceeds (some last) (w.now + d) then expire (some last) w else _) = _
        rw [if_pos (by simpa [exceeds] using h)]
        rfl
      · rw [if_neg (by simpa [exceeds] using h)]
        exact .inl rfl

/-! ### Relations between endings and logs -/

/-- Wherever it starts, the run ends and logs as the relation allows. -/
def Logs (m : Run ε ρ σ α) (L : Ending α → List Event → Prop) : Prop :=
  ∀ limit w, ∃ log, w.Since (m limit w).2 log ∧ L (m limit w).1 log

namespace Logs

variable {L M : Ending α → List Event → Prop} {K : Ending β → List Event → Prop}

theorem mono (h : m.Logs L) (le : ∀ e log, L e log → M e log) : m.Logs M := by
  intro limit w
  obtain ⟨log, since, hL⟩ := h limit w
  exact ⟨log, since, le _ _ hL⟩

/-- What a run logs has all properties that its log has. -/
theorem and (h : m.Logs L) (h' : m.Logs M) : m.Logs fun e log => L e log ∧ M e log := by
  intro limit w
  obtain ⟨log, since, hL⟩ := h limit w
  obtain ⟨log', since', hM⟩ := h' limit w
  cases since.unique since'
  exact ⟨log, since, hL, hM⟩

/-- The log of a run after another one is the one log behind the other. -/
theorem bind {F : α → Ending β → List Event → Prop} (first : m.Logs L)
    (after : ∀ x, (f x).Logs (F x))
    (go : ∀ x e log log', L (.done x) log → F x e log' → K e (log ++ log'))
    (stop : ∀ e e' log, e.Stops e' → L e log → K e' log) : (m >>= f).Logs K := by
  intro limit w
  obtain ⟨log, since, hL⟩ := first limit w
  rcases bind_cases m f limit w with ⟨x, w₁, hm, hb⟩ | ⟨e, e', w₁, hm, hb, hs⟩
  · rw [hm] at since hL
    obtain ⟨log', since', hF⟩ := after x limit w₁
    rw [hb]
    exact ⟨log ++ log', since.trans since', go _ _ _ _ hL hF⟩
  · rw [hm] at since hL
    rw [hb]
    exact ⟨log, since, stop _ _ _ hs hL⟩

end Logs

/-- The run can end and log like this. -/
def Ends (m : Run ε ρ σ α) (e : Ending α) (log : List Event) : Prop :=
  ∃ limit w w', m limit w = (e, w') ∧ w.Since w' log

theorem Logs.ends {L : Ending α → List Event → Prop} (h : m.Logs L) : m.Logs m.Ends := by
  intro limit w
  obtain ⟨log, since, -⟩ := h limit w
  exact ⟨log, since, limit, w, _, rfl, since⟩

theorem Ends.of_logs {L : Ending α → List Event → Prop} {e : Ending α} {log : List Event}
    (h : m.Ends e log) (logs : m.Logs L) : L e log := by
  obtain ⟨limit, w, w', run, since⟩ := h
  obtain ⟨log', since', hL⟩ := logs limit w
  rw [run] at since' hL
  cases since.unique since'
  exact hL

/-! ### Asking -/

/-- How asking for something comes out and what it logs: the question, and the answer if there is
one. -/
inductive Asks (asked : Event) (answered : Except Error α → Event) : Ending α → List Event → Prop
  | waits {e} (waits : e.Waits) : Asks asked answered e [asked]
  | done (x : α) : Asks asked answered (.done x) [asked, answered (.ok x)]
  | failed (e : Error) : Asks asked answered (.failed e) [asked, answered (.error e)]

/-- Waiting lets time pass and does nothing else, and how it comes out depends on the time only. -/
theorem wait_cases (span : Option Duration) (limit : Option Time) (now : Time) :
    ∃ (t : Time) (e : Ending Unit), (e = .done () ∨ e.Waits) ∧
      ∀ w : World ε ρ σ, w.now = now → wait span limit w = (e, w.advanceTo t) := by
  have expires : ∃ (t : Time) (e : Ending Unit), e.Waits ∧
      ∀ w : World ε ρ σ, w.now = now → expire limit w = (e, w.advanceTo t) := by
    cases limit with
    | none =>
        refine ⟨now, .endless, .endless, ?_⟩
        rintro w rfl
        unfold expire World.advanceTo
        rw [Nat.max_self]
    | some last => exact ⟨last, .cut, .cut, fun _ _ => rfl⟩
  obtain ⟨t, e, waits, expired⟩ := expires
  cases span with
  | none => exact ⟨t, e, .inr waits, expired⟩
  | some d =>
      by_cases late : exceeds limit (now + d) = true
      · refine ⟨t, e, .inr waits, ?_⟩
        rintro w rfl
        exact (if_pos late).trans (expired w rfl)
      · refine ⟨now + d, .done (), .inl rfl, ?_⟩
        rintro w rfl
        exact if_neg late

theorem wait_eq_done {span : Option Duration} {limit : Option Time} {w w' : World ε ρ σ}
    (h : wait span limit w = (.done (), w')) : w.Since w' [] := by
  obtain ⟨t, e, -, waited⟩ := wait_cases (ε := ε) (ρ := ρ) (σ := σ) span limit w.now
  rw [waited w rfl] at h
  cases h
  exact (World.Since.refl w).advanceTo t

/-- What waits for an answer logs it when it comes. -/
theorem answer_logs {asked : Event} {answered : Except Error α → Event} {w w₁ : World ε ρ σ}
    (since : w.Since w₁ [asked]) (took : Option Duration) (x : Except Error α)
    (limit : Option Time) :
    ∃ log, w.Since ((do wait took; record (answered x); ofExcept x : Run ε ρ σ α) limit w₁).2 log ∧
      Asks asked answered ((do wait took; record (answered x); ofExcept x : Run ε ρ σ α) limit w₁).1
        log := by
  obtain ⟨t, e, rfl | waits, waited⟩ := wait_cases (ε := ε) (ρ := ρ) (σ := σ) took limit w₁.now
  · have hwait := waited w₁ rfl
    have answers := (since.advanceTo t).record (answered x)
    rw [bind_of_done hwait]
    cases x with
    | ok x => exact ⟨_, answers, .done x⟩
    | error e => exact ⟨_, answers, .failed e⟩
  · have hwait := waited w₁ rfl
    cases e with
    | cut =>
        rw [bind_of_stops hwait .cut]
        exact ⟨_, since.advanceTo t, .waits .cut⟩
    | endless =>
        rw [bind_of_stops hwait .endless]
        exact ⟨_, since.advanceTo t, .waits .endless⟩
    | done | failed | overflow => cases waits

theorem askRelay_logs (site : Site ε ρ σ) (c : Relay.Call) :
    (askRelay site c).Logs (Asks (.asked c) (.answered c)) := by
  intro limit w
  unfold askRelay
  rcases hw : w.askRelay site c with ⟨took, x, w₁⟩
  exact answer_logs (World.since_askRelay hw) took x limit

theorem askStorage_logs (site : Site ε ρ σ) (c : Storage.Call) :
    (askStorage site c).Logs (Asks (.storing c) (.stored c)) := by
  intro limit w
  unfold askStorage
  rcases hw : w.askStorage site c with ⟨took, x, w₁⟩
  exact answer_logs (World.since_askStorage hw) took x limit

/-- If the storage's answer comes, it is what the storage said, and the storage is as it was then. -/
theorem askStorage_cases (site : Site ε ρ σ) (c : Storage.Call) (limit : Option Time)
    (w : World ε ρ σ) :
    (askStorage site c limit w).1.Waits ∨
      ∃ w', w'.storage = (site.storage.ask w.storage w.now c).2.2 ∧
        askStorage site c limit w = ofExcept (site.storage.ask w.storage w.now c).2.1 limit w' := by
  let said := site.storage.ask w.storage w.now c
  let w₁ := { w with storage := said.2.2 }.record (.storing c)
  show ((wait said.1 >>= fun _ => record (.stored c said.2.1) >>= fun _ => ofExcept said.2.1)
    limit w₁).1.Waits ∨ _
  obtain ⟨t, e, rfl | waits, waited⟩ := wait_cases (ε := ε) (ρ := ρ) (σ := σ) said.1 limit w.now
  · exact .inr ⟨(w₁.advanceTo t).record (.stored c said.2.1), rfl, bind_of_done (waited w₁ rfl)⟩
  · have unanswered : (wait said.1 limit w₁).1.Waits := by
      rw [waited w₁ rfl]
      exact waits
    exact .inl (bind_of_waits unanswered).1

/-- If the relay's answer is there, it was asked and has answered. -/
theorem askRelay_eq_done {site : Site ε ρ σ} {c : Relay.Call} {limit : Option Time}
    {w w' : World ε ρ σ} {x : c.Answer} (h : askRelay site c limit w = (.done x, w')) :
    w.Since w' [.asked c, .answered c (.ok x)] := by
  obtain ⟨log, since, asks⟩ := askRelay_logs site c limit w
  rw [h] at since asks
  cases asks with
  | done => exact since
  | waits waits => cases waits

theorem askStorage_eq_done {site : Site ε ρ σ} {c : Storage.Call} {limit : Option Time}
    {w w' : World ε ρ σ} {x : c.Answer} (h : askStorage site c limit w = (.done x, w')) :
    w.Since w' [.storing c, .stored c (.ok x)] := by
  obtain ⟨log, since, asks⟩ := askStorage_logs site c limit w
  rw [h] at since asks
  cases asks with
  | done => exact since
  | waits waits => cases waits

/-- Asking the relay, whatever it answers. -/
theorem attempt_askRelay_logs (site : Site ε ρ σ) (c : Relay.Call) :
    (attempt (askRelay site c)).Logs fun e log =>
      (e.Waits ∧ log = [.asked c]) ∨ ∃ x, e = .done x ∧ log = [.asked c, .answered c x] := by
  intro limit w
  obtain ⟨log, since, asks⟩ := askRelay_logs site c limit w
  refine ⟨log, ?_⟩
  rcases attempt_cases (askRelay site c) limit w with
    ⟨x, w₁, hm, ha⟩ | ⟨e, w₁, hm, ha⟩ | ⟨e, e', w₁, hm, ha, stops, unfailed⟩
  · rw [hm] at since asks
    rw [ha]
    refine ⟨since, .inr ⟨.ok x, rfl, ?_⟩⟩
    cases asks with
    | done => rfl
    | waits waits => cases waits
  · rw [hm] at since asks
    rw [ha]
    refine ⟨since, .inr ⟨.error e, rfl, ?_⟩⟩
    cases asks with
    | failed => rfl
    | waits waits => cases waits
  · rw [hm] at since asks
    rw [ha]
    refine ⟨since, .inl ?_⟩
    cases asks with
    | waits waits => exact ⟨stops.waits waits, rfl⟩
    | done => cases stops
    | failed e => exact absurd rfl (unfailed e)

theorem queryEngine_eq_done {site : Site ε ρ σ} {family : Family} {q : Engine.Query}
    {limit : Option Time} {w w' : World ε ρ σ} {x : Bytes}
    (h : queryEngine site family q limit w = (.done x, w')) :
    w.Since w' [.query family q (.ok x)] := by
  unfold queryEngine at h
  rcases hw : w.queryEngine site family q with ⟨answer, w₁⟩
  rw [hw] at h
  obtain ⟨rfl, rfl⟩ := ofExcept_eq_done h
  exact World.since_queryEngine hw

/-! ### Properties that survive composition -/

/-- A property of logs that holds of nothing and of one log behind another.  The flag says that the
run that logs has not ended; such a run may still owe something. -/
structure Steady (L : Bool → List Event → Prop) : Prop where
  nil : L false []
  append : ∀ {b log log'}, L false log → L b log' → L b (log ++ log')
  unended : ∀ {log}, L false log → L true log

/-- That all events are of some kind survives composition. -/
theorem steady_forall (P : Event → Prop) : Steady fun _ log => ∀ e ∈ log, P e where
  nil := nofun
  append h h' e he := (List.mem_append.1 he).elim (h e) (h' e)
  unended := id

/-- Whatever it logs has the property. -/
def Keeps (L : Bool → List Event → Prop) (m : Run ε ρ σ α) : Prop :=
  m.Logs fun e log => L e.isEndless log

namespace Keeps

variable {L : Bool → List Event → Prop} {site : Site ε ρ σ}

theorem of_quiet (steady : Steady L) (h : ∀ limit w, (m limit w).2.trace = w.trace) :
    m.Keeps L := by
  intro limit w
  refine ⟨[], by simp [World.Since, h], ?_⟩
  cases (m limit w).1 with
  | endless => exact steady.unended steady.nil
  | done _ | failed _ | cut | overflow => exact steady.nil

theorem done (steady : Steady L) (x : α) : (pure x : Run ε ρ σ α).Keeps L :=
  of_quiet steady fun _ _ => rfl

theorem fail (steady : Steady L) (e : Error) : (Run.fail e : Run ε ρ σ α).Keeps L :=
  of_quiet steady fun _ _ => rfl

theorem overflow (steady : Steady L) : (Run.overflow : Run ε ρ σ α).Keeps L :=
  of_quiet steady fun _ _ => rfl

theorem ofExcept (steady : Steady L) (x : Except Error α) : (Run.ofExcept x : Run ε ρ σ α).Keeps L := by
  cases x with
  | ok x => exact done steady x
  | error e => exact fail steady e

theorem now (steady : Steady L) : (Run.now : Run ε ρ σ Time).Keeps L :=
  of_quiet steady fun _ _ => rfl

theorem nonce (steady : Steady L) : (Run.nonce site).Keeps L :=
  of_quiet steady fun _ _ => rfl

theorem wait (steady : Steady L) (span : Option Duration) : (Run.wait span : Run ε ρ σ Unit).Keeps L := by
  refine of_quiet steady fun limit w => ?_
  unfold Run.wait expire
  cases span with
  | none => cases limit <;> rfl
  | some d =>
      dsimp only
      split
      · cases limit <;> rfl
      · rfl

theorem record {e : Event} (h : L false [e]) : (Run.record e : Run ε ρ σ Unit).Keeps L :=
  fun _ w => ⟨[e], w.since_record e, h⟩

theorem bind (steady : Steady L) (first : m.Keeps L) (after : ∀ x, (f x).Keeps L) :
    (m >>= f).Keeps L := by
  refine Logs.bind first after (fun x e log log' hm hf => steady.append hm hf) ?_
  intro e e' log hs hm
  rw [hs.isEndless_eq]
  exact hm

/-- What goes on with a result that is already there may make use of where it comes from. -/
theorem bind_ofExcept (steady : Steady L) {x : Except Error α} {f : α → Run ε ρ σ β}
    (after : ∀ y, x = .ok y → (f y).Keeps L) : (Run.ofExcept x >>= f).Keeps L := by
  cases x with
  | ok y => exact after y rfl
  | error e => exact fail steady e

theorem attempt (h : m.Keeps L) : (Run.attempt m).Keeps L := by
  intro limit w
  obtain ⟨log, since, hL⟩ := h limit w
  refine ⟨log, ?_⟩
  rcases attempt_cases m limit w with ⟨x, w₁, hm, ha⟩ | ⟨e, w₁, hm, ha⟩ | ⟨e, e', w₁, hm, ha, hs, -⟩
  · rw [hm] at since hL
    rw [ha]
    exact ⟨since, hL⟩
  · rw [hm] at since hL
    rw [ha]
    exact ⟨since, hL⟩
  · rw [hm] at since hL
    rw [ha]
    refine ⟨since, ?_⟩
    show L e'.isEndless log
    rw [hs.isEndless_eq]
    exact hL

/-- Waiting for an answer logs nothing but its arrival. -/
theorem answer (steady : Steady L) (took : Option Duration) {e : Event} (h : L false [e])
    (x : Except Error α) :
    (do Run.wait took; Run.record e; Run.ofExcept x : Run ε ρ σ α).Keeps L :=
  bind steady (wait steady _) fun _ => bind steady (record h) fun _ => ofExcept steady _

theorem askRelay (steady : Steady L) {c : Relay.Call} (asked : L false [.asked c])
    (answered : ∀ answer, L false [.answered c answer]) : (Run.askRelay site c).Keeps L := by
  intro limit w
  unfold Run.askRelay
  rcases hw : w.askRelay site c with ⟨took, x, w₁⟩
  obtain ⟨log, since, hL⟩ := answer (ε := ε) steady took (answered x) x limit w₁
  exact ⟨_, (World.since_askRelay hw).trans since, steady.append asked hL⟩

theorem askStorage (steady : Steady L) {c : Storage.Call} (asked : L false [.storing c])
    (answered : ∀ answer, L false [.stored c answer]) : (Run.askStorage site c).Keeps L := by
  intro limit w
  unfold Run.askStorage
  rcases hw : w.askStorage site c with ⟨took, x, w₁⟩
  obtain ⟨log, since, hL⟩ := answer (ε := ε) steady took (answered x) x limit w₁
  exact ⟨_, (World.since_askStorage hw).trans since, steady.append asked hL⟩

theorem queryEngine (steady : Steady L) {family : Family} {q : Engine.Query}
    (h : ∀ answer, L false [.query family q answer]) : (Run.queryEngine site family q).Keeps L := by
  intro limit w
  unfold Run.queryEngine
  rcases hw : w.queryEngine site family q with ⟨x, w₁⟩
  obtain ⟨log, since, hL⟩ := ofExcept (ε := ε) steady x limit w₁
  exact ⟨_, (World.since_queryEngine hw).trans since, steady.append (h x) hL⟩

end Keeps

end Run

end QuorumVault
