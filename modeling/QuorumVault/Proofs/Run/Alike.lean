/-
Runs that cannot be told apart.

Two worlds are alike if they differ in nothing but what has happened so far, and a run
never looks at that.  `Run.Alike` compares two runs in worlds that are alike: they have
to end alike, in worlds that are alike again, and to log the same but for events of a
kind that is left out.  Such comparisons compose as runs do.
-/
import QuorumVault.Proofs.Run.Log

namespace QuorumVault

variable {ε ρ σ α β : Type}

/-- The worlds differ at most in what has happened so far. -/
def World.Alike (w w' : World ε ρ σ) : Prop :=
  { w with trace := [] } = { w' with trace := [] }

/-- Both runs end in the same way, with results that are related if there are any. -/
inductive Ending.Alike (R : α → β → Prop) : Ending α → Ending β → Prop
  | done {x y} (h : R x y) : Alike R (.done x) (.done y)
  | failed (e) : Alike R (.failed e) (.failed e)
  | cut : Alike R .cut .cut
  | endless : Alike R .endless .endless
  | overflow : Alike R .overflow .overflow

theorem Ending.Alike.eq {e e' : Ending α} (h : Ending.Alike (· = ·) e e') : e = e' := by
  cases h with
  | done h => rw [h]
  | failed | cut | endless | overflow => rfl

namespace World.Alike

variable {w w' : World ε ρ σ}

theorem refl (w : World ε ρ σ) : w.Alike w := rfl

/-- Worlds that are alike are one world with other things behind it. -/
theorem exists_trace (h : w.Alike w') : ∃ trace, w' = { w with trace := trace } := by
  obtain ⟨now, engines, relay, storage, sealings, trace⟩ := w
  obtain ⟨now', engines', relay', storage', sealings', trace'⟩ := w'
  cases h
  exact ⟨trace', rfl⟩

theorem now_eq (h : w.Alike w') : w.now = w'.now := by
  obtain ⟨trace, rfl⟩ := h.exists_trace
  rfl

theorem sealings_eq (h : w.Alike w') : w.sealings = w'.sealings := by
  obtain ⟨trace, rfl⟩ := h.exists_trace
  rfl

theorem record (h : w.Alike w') (e e' : Event) : (w.record e).Alike (w'.record e') := h

theorem advanceTo (h : w.Alike w') (t : Time) : (w.advanceTo t).Alike (w'.advanceTo t) := by
  obtain ⟨trace, rfl⟩ := h.exists_trace
  rfl

theorem sealOnce (h : w.Alike w') : w.sealOnce.Alike w'.sealOnce := by
  obtain ⟨trace, rfl⟩ := h.exists_trace
  rfl

end World.Alike

namespace Run

variable {hidden : Event → Bool} {site : Site ε ρ σ}

/-- In worlds that are alike the runs end alike and log the same but for what is hidden. -/
def Alike (hidden : Event → Bool) (R : α → β → Prop) (m : Run ε ρ σ α) (m' : Run ε ρ σ β) : Prop :=
  ∀ limit w w', w.Alike w' → ∃ log log', w.Since (m limit w).2 log ∧ w'.Since (m' limit w').2 log' ∧
    log.filter (!hidden ·) = log'.filter (!hidden ·) ∧ (m limit w).2.Alike (m' limit w').2 ∧
    Ending.Alike R (m limit w).1 (m' limit w').1

namespace Alike

variable {R : α → β → Prop} {m : Run ε ρ σ α} {m' : Run ε ρ σ β}

theorem done {x : α} {y : β} (h : R x y) :
    Alike hidden R (pure x : Run ε ρ σ α) (pure y : Run ε ρ σ β) :=
  fun _ w w' alike => ⟨[], [], .refl w, .refl w', rfl, alike, .done h⟩

theorem bind {γ δ : Type} {S : γ → δ → Prop} {f : α → Run ε ρ σ γ} {f' : β → Run ε ρ σ δ}
    (first : Alike hidden R m m') (after : ∀ x y, R x y → Alike hidden S (f x) (f' y)) :
    Alike hidden S (m >>= f) (m' >>= f') := by
  intro limit w w' alike
  obtain ⟨log, log', since, since', same, alike', ends⟩ := first limit w w' alike
  rcases hm : m limit w with ⟨e, w₁⟩
  rcases hm' : m' limit w' with ⟨e', w₁'⟩
  rw [hm] at since alike' ends
  rw [hm'] at since' alike' ends
  have stops {d : Ending γ} {d' : Ending δ} (h : e.Stops d) (h' : e'.Stops d')
      (ends : Ending.Alike S d d') : ∃ log log', w.Since ((m >>= f) limit w).2 log ∧
        w'.Since ((m' >>= f') limit w').2 log' ∧ log.filter (!hidden ·) = log'.filter (!hidden ·) ∧
        ((m >>= f) limit w).2.Alike ((m' >>= f') limit w').2 ∧
        Ending.Alike S ((m >>= f) limit w).1 ((m' >>= f') limit w').1 := by
    rw [bind_of_stops hm h, bind_of_stops hm' h']
    exact ⟨log, log', since, since', same, alike', ends⟩
  cases ends with
  | @done x y h =>
      obtain ⟨rest, rest', later, later', same', alike'', ends⟩ := after x y h limit w₁ w₁' alike'
      rw [bind_of_done hm, bind_of_done hm']
      refine ⟨_, _, since.trans later, since'.trans later', ?_, alike'', ends⟩
      rw [List.filter_append, List.filter_append, same, same']
  | failed e => exact stops (.failed e) (.failed e) (.failed e)
  | cut => exact stops .cut .cut .cut
  | endless => exact stops .endless .endless .endless
  | overflow => exact stops .overflow .overflow .overflow

/-- A run that only reads what is alike. -/
theorem of_reads {f : World ε ρ σ → α} (reads : ∀ w w' : World ε ρ σ, w.Alike w' → f w = f w')
    {g : World ε ρ σ → World ε ρ σ} (traces : ∀ w, (g w).trace = w.trace)
    (keeps : ∀ w w' : World ε ρ σ, w.Alike w' → (g w).Alike (g w')) :
    Alike hidden (· = ·) (fun _ w => (.done (f w), g w) : Run ε ρ σ α) fun _ w => (.done (f w), g w) :=
  fun _ w w' alike => ⟨[], [], by simp [World.Since, traces], by simp [World.Since, traces], rfl,
    keeps w w' alike, .done (reads w w' alike)⟩

theorem now : Alike hidden (· = ·) (Run.now : Run ε ρ σ Time) Run.now :=
  of_reads (fun _ _ alike => alike.now_eq) (fun _ => rfl) fun _ _ alike => alike

theorem nonce (site : Site ε ρ σ) : Alike hidden (· = ·) (Run.nonce site) (Run.nonce site) :=
  of_reads (fun _ _ alike => by rw [alike.sealings_eq]) (fun _ => rfl) fun _ _ alike =>
    alike.sealOnce

theorem ofExcept (x : Except Error α) :
    Alike hidden (· = ·) (Run.ofExcept x : Run ε ρ σ α) (Run.ofExcept x) := by
  cases x with
  | ok x => exact done rfl
  | error e => exact fun _ w w' alike => ⟨[], [], .refl w, .refl w', rfl, alike, .failed e⟩

theorem record {e e' : Event} (h : e = e' ∨ hidden e = true ∧ hidden e' = true) :
    Alike hidden (fun _ _ => True) (Run.record e : Run ε ρ σ Unit) (Run.record e') := by
  intro limit w w' alike
  refine ⟨[e], [e'], w.since_record e, w'.since_record e', ?_, alike.record e e', .done trivial⟩
  rcases h with rfl | ⟨h, h'⟩
  · rfl
  · simp [h, h']

theorem wait (span : Option Duration) :
    Alike hidden (fun _ _ => True) (Run.wait span : Run ε ρ σ Unit) (Run.wait span) := by
  intro limit w w' alike
  obtain ⟨t, e, ends, waited⟩ := wait_cases (ε := ε) (ρ := ρ) (σ := σ) span limit w.now
  rw [waited w rfl, waited w' alike.now_eq.symm]
  refine ⟨[], [], .advanceTo (.refl w) t, .advanceTo (.refl w') t, rfl, alike.advanceTo t, ?_⟩
  cases e with
  | done => exact .done trivial
  | cut => exact .cut
  | endless => exact .endless
  | failed e => exact .failed e
  | overflow => exact .overflow

/-- What comes behind the beginning of a call that is the same to both. -/
theorem of_begun {e : Event} {limit : Option Time} {w w' w₁ w₁' : World ε ρ σ}
    (begun : w.Since w₁ [e]) (begun' : w'.Since w₁' [e]) (alike : w₁.Alike w₁')
    (rest : Alike hidden R m m') : ∃ log log', w.Since (m limit w₁).2 log ∧
      w'.Since (m' limit w₁').2 log' ∧ log.filter (!hidden ·) = log'.filter (!hidden ·) ∧
      (m limit w₁).2.Alike (m' limit w₁').2 ∧ Ending.Alike R (m limit w₁).1 (m' limit w₁').1 := by
  obtain ⟨log, log', since, since', same, alike', ends⟩ := rest limit w₁ w₁' alike
  refine ⟨_, _, begun.trans since, begun'.trans since', ?_, alike', ends⟩
  rw [List.filter_append, List.filter_append, same]

theorem askStorage (site : Site ε ρ σ) (c : Storage.Call) :
    Alike hidden (· = ·) (Run.askStorage site c) (Run.askStorage site c) := by
  intro limit w w' alike
  obtain ⟨trace, rfl⟩ := alike.exists_trace
  have rest (took : Option Duration) (answer : Except Error c.Answer) :
      Alike hidden (· = ·)
        (do Run.wait took; Run.record (.stored c answer); Run.ofExcept answer : Run ε ρ σ c.Answer)
        (do Run.wait took; Run.record (.stored c answer); Run.ofExcept answer) :=
    bind (wait took) fun _ _ _ => bind (record (.inl rfl)) fun _ _ _ => ofExcept answer
  unfold Run.askStorage
  rcases hw : w.askStorage site c with ⟨took, answer, w₁⟩
  rcases hw' : ({ w with trace := trace } : World ε ρ σ).askStorage site c with ⟨took', answer', w₁'⟩
  obtain ⟨rfl, rfl, alike₁⟩ : took = took' ∧ answer = answer' ∧ w₁.Alike w₁' := by
    cases hw
    cases hw'
    exact ⟨rfl, rfl, rfl⟩
  exact of_begun (World.since_askStorage hw) (World.since_askStorage hw') alike₁ (rest took answer)

/-- Waiting for an answer, whatever it is. -/
theorem attempt_answer (took : Option Duration) (e : Event) (x : Except Error α) :
    Run.attempt (do Run.wait took; Run.record e; Run.ofExcept x : Run ε ρ σ α) =
      (do Run.wait took; Run.record e; return x) := by
  funext limit w
  obtain ⟨t, d, ends, waited⟩ := wait_cases (ε := ε) (ρ := ρ) (σ := σ) took limit w.now
  have hwait := waited w rfl
  show Run.attempt (andThen (Run.wait took) _) limit w = andThen (Run.wait took) _ limit w
  unfold Run.attempt andThen
  rw [hwait]
  cases d with
  | done => cases x <;> rfl
  | cut | endless | overflow => rfl
  | failed e =>
      rcases ends with done | waits
      · cases done
      · cases waits

theorem attempt_askRelay_eq {c : Relay.Call} {w w₁ : World ε ρ σ} {took : Option Duration}
    {x : Except Error c.Answer} (h : w.askRelay site c = (took, x, w₁)) (limit : Option Time) :
    Run.attempt (Run.askRelay site c) limit w =
      (do Run.wait took; Run.record (.answered c x); return x : Run ε ρ σ _) limit w₁ := by
  have asked : Run.askRelay site c limit w =
      (do Run.wait took; Run.record (.answered c x); Run.ofExcept x : Run ε ρ σ _) limit w₁ := by
    unfold Run.askRelay
    rw [h]
  rw [← attempt_answer]
  unfold Run.attempt
  rw [asked]

/-- Two relays are asked for the same.  If they take the same time and are the same to later calls,
their answers may differ as long as nobody looks at them. -/
theorem attempt_askRelay {site' : Site ε ρ σ} {c : Relay.Call}
    (took : ∀ s t, (site'.relay.ask s t c).1 = (site.relay.ask s t c).1)
    (state : ∀ s t, (site'.relay.ask s t c).2.2 = (site.relay.ask s t c).2.2)
    (hides : ∀ answer, hidden (.answered c answer) = true) :
    Alike hidden (fun _ _ => True) (Run.attempt (Run.askRelay site c))
      (Run.attempt (Run.askRelay site' c)) := by
  intro limit w w' alike
  obtain ⟨trace, rfl⟩ := alike.exists_trace
  have rest (d : Option Duration) (x x' : Except Error c.Answer) :
      Alike hidden (fun _ _ => True)
        (do Run.wait d; Run.record (.answered c x); return x : Run ε ρ σ (Except Error c.Answer))
        (do Run.wait d; Run.record (.answered c x'); return x') :=
    bind (wait d) fun _ _ _ => bind (record (.inr ⟨hides x, hides x'⟩)) fun _ _ _ => done trivial
  have spans : (({ w with trace := trace } : World ε ρ σ).askRelay site' c).1 =
      (w.askRelay site c).1 := took w.relay w.now
  have worlds : (w.askRelay site c).2.2.Alike
      (({ w with trace := trace } : World ε ρ σ).askRelay site' c).2.2 := by
    show ({ w with relay := (site.relay.ask w.relay w.now c).2.2, trace := [] } : World ε ρ σ) =
      { w with relay := (site'.relay.ask w.relay w.now c).2.2, trace := [] }
    rw [state]
  rcases hw : w.askRelay site c with ⟨d, x, w₁⟩
  rcases hw' : ({ w with trace := trace } : World ε ρ σ).askRelay site' c with ⟨d', x', w₁'⟩
  rw [hw, hw'] at spans worlds
  obtain rfl : d' = d := spans
  rw [attempt_askRelay_eq hw, attempt_askRelay_eq hw']
  exact of_begun (World.since_askRelay hw) (World.since_askRelay hw') worlds (rest d' x x')

end Alike

end Run

end QuorumVault
