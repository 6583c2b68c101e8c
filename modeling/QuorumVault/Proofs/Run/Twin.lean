/-
The same run over another relay.

Two worlds are twins if they differ in nothing but the relay and in what the view leaves out
of the trace; what is to be known of the relays' states is a relation between them.  Twin
runs keep worlds twins and end alike.  They compose as runs do, so that two runs over
different relays come down to the calls that are made to these.
-/
import QuorumVault.Proofs.Run.Log
import QuorumVault.Retry.Basic

namespace QuorumVault

variable {ε ρ ρ' σ α β : Type}

/-- The site with another relay. -/
def Site.over (site : Site ε ρ σ) (relay : Relay ρ') : Site ε ρ' σ where
  engine := site.engine
  relay := relay
  storage := site.storage
  hasQueue := site.hasQueue
  nonce := site.nonce
  calendar := site.calendar
  receiverFirst := site.receiverFirst
  patience := site.patience

/-- The world with another relay in the given state. -/
def World.over (w : World ε ρ σ) (state : ρ') : World ε ρ' σ where
  now := w.now
  engines := w.engines
  relay := state
  storage := w.storage
  sealings := w.sealings
  trace := w.trace

/-- What is seen of an event, if it is seen at all. -/
abbrev View := Event → Option Event

/-- Something is seen of every event. -/
instance : Coe (Event → Event) View :=
  ⟨fun view => some ∘ view⟩

/-- Two relays take the same time for a call; what they answer and what becomes of them is
related. -/
structure Relay.Matches (relay : Relay ρ) (relay' : Relay ρ') (s : ρ) (s' : ρ') (now : Time)
    (c : Relay.Call) (P : Except Error c.Answer → Except Error c.Answer → Prop)
    (R : ρ → ρ' → Prop) : Prop where
  took : (relay.ask s now c).1 = (relay'.ask s' now c).1
  answer : P (relay.ask s now c).2.1 (relay'.ask s' now c).2.1
  state : R (relay.ask s now c).2.2 (relay'.ask s' now c).2.2

/-! ### What is seen of a trace -/

namespace Trace

variable {view : View} {trace trace' : Trace}

/-- What is seen of a trace, and when. -/
def seenBy (trace : Trace) (view : View) : Trace :=
  trace.filterMap fun x => (view x.2).map (x.1, ·)

theorem seenBy_append (trace trace' : Trace) (view : View) :
    (trace ++ trace').seenBy view = trace.seenBy view ++ trace'.seenBy view :=
  List.filterMap_append

/-- What looks the same adds the same to what is seen. -/
theorem seenBy_cons_congr {e e' : Event} (t : Time) (same : view e = view e')
    (seen : trace.seenBy view = trace'.seenBy view) :
    seenBy ((t, e) :: trace) view = seenBy ((t, e') :: trace') view := by
  unfold seenBy at *
  rw [List.filterMap_cons, List.filterMap_cons, same, seen]

/-- If something is seen of every event, it is seen at the times of all events. -/
theorem seenBy_all (trace : Trace) (view : Event → Event) :
    trace.seenBy view = trace.map (Prod.map id view) := by
  unfold seenBy
  rw [← List.filterMap_eq_map]
  rfl

@[simp] theorem seenBy_some (trace : Trace) : trace.seenBy some = trace := by
  simp [seenBy]

/-- The events that are seen, in order. -/
theorem events_seenBy (trace : Trace) (view : View) :
    (trace.seenBy view).events = trace.events.filterMap view := by
  simp [seenBy, events, List.filterMap_map, List.map_filterMap, Function.comp_def]

end Trace

/-! ### Worlds -/

namespace World

/-- The worlds differ in the relay and in what is not in view, and no more. -/
structure Twin (view : View) (R : ρ → ρ' → Prop) (w : World ε ρ σ) (w' : World ε ρ' σ) :
    Prop where
  relay : R w.relay w'.relay
  now : w.now = w'.now
  engines : w.engines = w'.engines
  storage : w.storage = w'.storage
  sealings : w.sealings = w'.sealings
  trace : w.trace.seenBy view = w'.trace.seenBy view

namespace Twin

variable {view : View} {R R' : ρ → ρ' → Prop} {site : Site ε ρ σ} {relay' : Relay ρ'}
  {w : World ε ρ σ} {w' : World ε ρ' σ}

theorem of_related {s : ρ'} (related : R w.relay s) : w.Twin view R (w.over s) :=
  ⟨related, rfl, rfl, rfl, rfl, rfl⟩

/-- A twin is the same world over another relay, with another trace. -/
theorem exists_over (h : w.Twin view R w') : ∃ s trace, R w.relay s ∧
    w.trace.seenBy view = trace.seenBy view ∧
      w' = { w.over s with trace := trace } := by
  obtain ⟨related, now, engines, storage, sealings, seen⟩ := h
  obtain ⟨now', engines', s, storage', sealings', trace⟩ := w'
  cases now
  cases engines
  cases storage
  cases sealings
  exact ⟨s, trace, related, seen, rfl⟩

/-- If all is in view, there is no difference but in the relay. -/
theorem eq_over (h : w.Twin some R w') : w' = w.over w'.relay := by
  obtain ⟨s, trace, -, seen, rfl⟩ := h.exists_over
  have same : w.trace = trace := by simpa using seen
  rw [← same]
  rfl

/-- If something is seen of every event, it happened at the same times. -/
theorem seen {view : Event → Event} (h : w.Twin view R w') :
    w.trace.map (Prod.map id view) = w'.trace.map (Prod.map id view) := by
  rw [← Trace.seenBy_all, ← Trace.seenBy_all]
  exact h.trace

/-- Whatever is read off the events in view is the same. -/
theorem filterMap_events (h : w.Twin view R w') {f : Event → Option α}
    (blind : ∀ e, (view e).bind f = f e) :
    w.trace.events.filterMap f = w'.trace.events.filterMap f := by
  have read (trace : Trace) : trace.events.filterMap f =
      (trace.seenBy view).events.filterMap f := by
    have same : (fun e => (view e).bind f) = f := funext blind
    rw [Trace.events_seenBy, List.filterMap_filterMap, same]
  rw [read, read w'.trace, h.trace]

theorem mono (h : w.Twin view R w') (le : R w.relay w'.relay → R' w.relay w'.relay) :
    w.Twin view R' w' :=
  ⟨le h.relay, h.now, h.engines, h.storage, h.sealings, h.trace⟩

theorem record (h : w.Twin view R w') {e e' : Event} (same : view e = view e') :
    (w.record e).Twin view R (w'.record e') := by
  obtain ⟨s, trace, related, seen, rfl⟩ := h.exists_over
  exact ⟨related, rfl, rfl, rfl, rfl, Trace.seenBy_cons_congr _ same seen⟩

theorem advanceTo (h : w.Twin view R w') (t : Time) :
    (w.advanceTo t).Twin view R (w'.advanceTo t) := by
  obtain ⟨s, trace, related, seen, rfl⟩ := h.exists_over
  exact ⟨related, rfl, rfl, rfl, rfl, seen⟩

theorem sealOnce (h : w.Twin view R w') : w.sealOnce.Twin view R w'.sealOnce := by
  obtain ⟨s, trace, related, seen, rfl⟩ := h.exists_over
  exact ⟨related, rfl, rfl, rfl, rfl, seen⟩

theorem callEngine (h : w.Twin view R w') (site : Site ε ρ σ) (relay' : Relay ρ')
    (family : Family) (c : Engine.Call) :
    ∃ answer w₁ w₁', w.callEngine site family c = (answer, w₁) ∧
      w'.callEngine (site.over relay') family c = (answer, w₁') ∧ w₁.Twin view R w₁' := by
  obtain ⟨s, trace, related, seen, rfl⟩ := h.exists_over
  exact ⟨_, _, _, rfl, rfl, related, rfl, rfl, rfl, rfl, Trace.seenBy_cons_congr _ rfl seen⟩

theorem queryEngine (h : w.Twin view R w') (site : Site ε ρ σ) (relay' : Relay ρ')
    (family : Family) (q : Engine.Query) :
    ∃ answer w₁ w₁', w.queryEngine site family q = (answer, w₁) ∧
      w'.queryEngine (site.over relay') family q = (answer, w₁') ∧ w₁.Twin view R w₁' := by
  obtain ⟨s, trace, related, seen, rfl⟩ := h.exists_over
  exact ⟨_, _, _, rfl, rfl, related, rfl, rfl, rfl, rfl, Trace.seenBy_cons_congr _ rfl seen⟩

theorem askStorage (h : w.Twin view R w') (site : Site ε ρ σ) (relay' : Relay ρ')
    (c : Storage.Call) :
    ∃ took answer w₁ w₁', w.askStorage site c = (took, answer, w₁) ∧
      w'.askStorage (site.over relay') c = (took, answer, w₁') ∧ w₁.Twin view R w₁' := by
  obtain ⟨s, trace, related, seen, rfl⟩ := h.exists_over
  exact ⟨_, _, _, _, rfl, rfl, related, rfl, rfl, rfl, rfl, Trace.seenBy_cons_congr _ rfl seen⟩

/-- The relays answer as they do. -/
theorem askRelay (h : w.Twin view R w') {c : Relay.Call}
    {P : Except Error c.Answer → Except Error c.Answer → Prop}
    (asks : site.relay.Matches relay' w.relay w'.relay w.now c P R') :
    ∃ took answer answer' w₁ w₁', P answer answer' ∧ w.askRelay site c = (took, answer, w₁) ∧
      w'.askRelay (site.over relay') c = (took, answer', w₁') ∧ w₁.Twin view R' w₁' := by
  obtain ⟨s, trace, -, seen, rfl⟩ := h.exists_over
  obtain ⟨took, answer, state⟩ := asks
  exact ⟨_, _, _, _, _, answer, rfl, Prod.ext took.symm rfl, state, rfl, rfl, rfl, rfl,
    Trace.seenBy_cons_congr _ rfl seen⟩

end Twin

end World

/-! ### Runs -/

namespace Run

variable {view : View} {R : ρ → ρ' → Prop} {site : Site ε ρ σ} {relay' : Relay ρ'}

/-- The runs end alike, and worlds that were twins are twins again. -/
def Twin (view : View) (R : ρ → ρ' → Prop) (m : Run ε ρ σ α) (m' : Run ε ρ' σ α) : Prop :=
  ∀ limit w w', w.Twin view R w' →
    (m limit w).1 = (m' limit w').1 ∧ (m limit w).2.Twin view R (m' limit w').2

namespace Twin

variable {m : Run ε ρ σ α} {m' : Run ε ρ' σ α}

/-- Twin runs come to the same end, in twin worlds. -/
theorem exists_ends (h : Twin view R m m') (limit : Option Time) {w : World ε ρ σ} {w' : World ε ρ' σ}
    (twin : w.Twin view R w') :
    ∃ e w₁ w₁', m limit w = (e, w₁) ∧ m' limit w' = (e, w₁') ∧ w₁.Twin view R w₁' := by
  obtain ⟨same, ends⟩ := h limit w w' twin
  exact ⟨_, _, _, rfl, Prod.ext same.symm rfl, ends⟩

theorem done (x : α) : Twin view R (pure x : Run ε ρ σ α) (pure x) :=
  fun _ _ _ twin => ⟨rfl, twin⟩

theorem fail (e : Error) : Twin view R (Run.fail e : Run ε ρ σ α) (Run.fail e) :=
  fun _ _ _ twin => ⟨rfl, twin⟩

theorem overflow : Twin view R (Run.overflow : Run ε ρ σ α) Run.overflow :=
  fun _ _ _ twin => ⟨rfl, twin⟩

theorem ofExcept (x : Except Error α) :
    Twin view R (Run.ofExcept x : Run ε ρ σ α) (Run.ofExcept x) := by
  cases x with
  | ok x => exact done x
  | error e => exact fail e

theorem now : Twin view R (Run.now : Run ε ρ σ Time) Run.now :=
  fun _ _ _ twin => ⟨congrArg Ending.done twin.now, twin⟩

theorem record (e : Event) : Twin view R (Run.record e : Run ε ρ σ Unit) (Run.record e) :=
  fun _ _ _ twin => ⟨rfl, twin.record rfl⟩

theorem nonce : Twin view R (Run.nonce site) (Run.nonce (site.over relay')) := by
  refine fun _ _ _ twin => ⟨?_, twin.sealOnce⟩
  show Ending.done _ = Ending.done _
  rw [twin.sealings]
  rfl

theorem bind {f : α → Run ε ρ σ β} {f' : α → Run ε ρ' σ β} (first : Twin view R m m')
    (after : ∀ x, Twin view R (f x) (f' x)) : Twin view R (m >>= f) (m' >>= f') := by
  intro limit w w' twin
  obtain ⟨e, w₁, w₁', hm, hm', twin₁⟩ := first.exists_ends limit twin
  have stops {d : Ending β} (h : e.Stops d) : ((m >>= f) limit w).1 = ((m' >>= f') limit w').1 ∧
      ((m >>= f) limit w).2.Twin view R ((m' >>= f') limit w').2 := by
    rw [bind_of_stops hm h, bind_of_stops hm' h]
    exact ⟨rfl, twin₁⟩
  cases e with
  | done x =>
      rw [bind_of_done hm, bind_of_done hm']
      exact after x limit w₁ w₁' twin₁
  | failed e => exact stops (.failed e)
  | cut => exact stops .cut
  | endless => exact stops .endless
  | overflow => exact stops .overflow

/-- What goes on with a result that is already there may make use of where it comes from. -/
theorem bind_ofExcept {x : Except Error α} {f : α → Run ε ρ σ β} {f' : α → Run ε ρ' σ β}
    (after : ∀ y, x = .ok y → Twin view R (f y) (f' y)) :
    Twin view R (Run.ofExcept x >>= f) (Run.ofExcept x >>= f') := by
  cases x with
  | ok y => exact after y rfl
  | error e => exact fail e

theorem attempt (h : Twin view R m m') : Twin view R (Run.attempt m) (Run.attempt m') := by
  intro limit w w' twin
  obtain ⟨e, w₁, w₁', hm, hm', twin₁⟩ := h.exists_ends limit twin
  unfold Run.attempt
  rw [hm, hm']
  cases e <;> exact ⟨rfl, twin₁⟩

theorem expire {limit : Option Time} {w : World ε ρ σ} {w' : World ε ρ' σ} (twin : w.Twin view R w') :
    (Run.expire limit w : Ending α × World ε ρ σ).1 = (Run.expire limit w').1 ∧
      (Run.expire limit w : Ending α × World ε ρ σ).2.Twin view R
        (Run.expire limit w' : Ending α × World ε ρ' σ).2 := by
  cases limit with
  | none => exact ⟨rfl, twin⟩
  | some last => exact ⟨rfl, twin.advanceTo last⟩

theorem wait (span : Option Duration) :
    Twin view R (Run.wait span : Run ε ρ σ Unit) (Run.wait span) := by
  intro limit w w' twin
  cases span with
  | none => exact expire twin
  | some d =>
      unfold Run.wait
      dsimp only
      rw [← twin.now]
      by_cases late : exceeds limit (w.now + d) = true
      · rw [if_pos late, if_pos late]
        exact expire twin
      · rw [if_neg late, if_neg late]
        exact ⟨rfl, twin.advanceTo _⟩

theorem within (deadline : Option Time) (h : Twin view R m m') :
    Twin view R (Run.within deadline m) (Run.within deadline m') := by
  cases deadline with
  | none => exact bind h fun x => done _
  | some t =>
      intro outer w w' twin
      obtain ⟨e, w₁, w₁', hm, hm', twin₁⟩ := h.exists_ends (some (outer.elim t (min t))) twin
      unfold Run.within
      dsimp only
      rw [hm, hm']
      cases e with
      | cut =>
          dsimp only
          split <;> exact ⟨rfl, twin₁⟩
      | done | failed | endless | overflow => exact ⟨rfl, twin₁⟩

/-! ### Calls -/

theorem callEngine (family : Family) (c : Engine.Call) :
    Twin view R (Run.callEngine site family c) (Run.callEngine (site.over relay') family c) := by
  intro limit w w' twin
  obtain ⟨answer, w₁, w₁', called, called', twin₁⟩ :=
    twin.callEngine site relay' family c
  unfold Run.callEngine
  rw [called, called']
  exact ofExcept answer limit w₁ w₁' twin₁

theorem queryEngine (family : Family) (q : Engine.Query) :
    Twin view R (Run.queryEngine site family q) (Run.queryEngine (site.over relay') family q) := by
  intro limit w w' twin
  obtain ⟨answer, w₁, w₁', asked, asked', twin₁⟩ :=
    twin.queryEngine site relay' family q
  unfold Run.queryEngine
  rw [asked, asked']
  exact ofExcept answer limit w₁ w₁' twin₁

theorem askStorage (c : Storage.Call) :
    Twin view R (Run.askStorage site c) (Run.askStorage (site.over relay') c) := by
  intro limit w w' twin
  obtain ⟨took, answer, w₁, w₁', asked, asked', twin₁⟩ :=
    twin.askStorage site relay' c
  unfold Run.askStorage
  rw [asked, asked']
  exact bind (wait took) (fun _ => bind (record _) fun _ => ofExcept answer) limit w₁ w₁' twin₁

/-- A call to which the relays answer the same. -/
theorem askRelay {c : Relay.Call}
    (asks : ∀ s s' now, R s s' → site.relay.Matches relay' s s' now c (· = ·) R) :
    Twin view R (Run.askRelay site c) (Run.askRelay (site.over relay') c) := by
  intro limit w w' twin
  obtain ⟨took, answer, _, w₁, w₁', rfl, asked, asked', twin₁⟩ := twin.askRelay (asks _ _ _ twin.relay)
  unfold Run.askRelay
  rw [asked, asked']
  exact bind (wait took) (fun _ => bind (record _) fun _ => ofExcept answer) limit w₁ w₁' twin₁

/-! ### Attempts -/

/-- Attempts are twins if every one of them is. -/
theorem attempts (policy : RetryPolicy) (label : String) (started : Time) {op : Nat → Run ε ρ σ α}
    {op' : Nat → Run ε ρ' σ α} (h : ∀ n, Twin view R (op n) (op' n)) (left : Nat)
    (last : Option Error) :
    Twin view R (policy.attempts label started op left last)
      (policy.attempts label started op' left last) := by
  induction left generalizing last with
  | zero => exact fail _
  | succ left ih =>
      refine bind (record _) fun _ => bind now fun start => bind (within _ (attempt (h _))) fun x => ?_
      match x with
      | none => exact fail _
      | some (.ok x) => exact done x
      | some (.error e) =>
          by_cases passing : e.retryable = true
          · simp only [passing, if_true]
            by_cases more : 0 < left
            · simp only [more, if_true]
              exact bind (wait _) fun _ => ih _
            · simp only [more, if_false]
              exact ih _
          · simp only [passing]
            exact fail e

theorem retries (policy : RetryPolicy) (label : String) {op : Nat → Run ε ρ σ α}
    {op' : Nat → Run ε ρ' σ α} (h : ∀ n, Twin view R (op n) (op' n)) :
    Twin view R (policy.run label op) (policy.run label op') :=
  bind now fun started => attempts policy label started h _ _

/-! ### Sessions -/

theorem start (family : Family) (opening : Session.Opening) :
    Twin view R (Session.start site family opening) (Session.start (site.over relay') family opening) := by
  cases opening with
  | keygen | sign => exact bind (callEngine family _) fun _ => done _

theorem use (s : Session) (h : Twin view R m m') :
    Twin view R (s.use site m) (s.use (site.over relay') m') := by
  intro limit w w' twin
  obtain ⟨e, w₁, w₁', hm, hm', twin₁⟩ := h.exists_ends limit twin
  have freed {w : World ε ρ σ} {w' : World ε ρ' σ} (twin : w.Twin view R w') :
      (s.free site w).Twin view R (s.free (site.over relay') w') := by
    obtain ⟨answer, w₁, w₁', called, called', twin₁⟩ :=
      twin.callEngine site relay' s.family (.free s.handle)
    unfold Session.free
    rw [called, called']
    exact twin₁
  unfold Session.use
  rw [hm, hm']
  cases e with
  | endless => exact ⟨rfl, twin₁⟩
  | done | failed | cut | overflow => exact ⟨rfl, freed twin₁⟩

/-- A session is opened, used and freed as its twin. -/
theorem withSession (family : Family) (opening : Session.Opening) {work : Session → Run ε ρ σ α}
    {work' : Session → Run ε ρ' σ α} (h : ∀ s, Twin view R (work s) (work' s)) :
    Twin view R (Session.withSession site family opening work)
      (Session.withSession (site.over relay') family opening work') :=
  bind (start family opening) fun s => use s (h s)

end Twin

/-- The run is done at once, and nothing is seen of it. -/
def Unseen (view : View) (m : Run ε ρ σ Unit) : Prop :=
  ∀ limit w, ∃ log : Trace, log.seenBy view = [] ∧
    m limit w = (.done (), { w with trace := log ++ w.trace })

/-- What is not seen may as well be left out. -/
theorem Twin.skip {m : Run ε ρ σ Unit} {f : Run ε ρ σ α} {f' : Run ε ρ' σ α}
    (unseen : m.Unseen view) (h : Twin view R f f') : Twin view R (m >>= fun _ => f) f' := by
  intro limit w w' twin
  obtain ⟨log, hides, went⟩ := unseen limit w
  rw [bind_of_done went]
  refine h limit _ w' { twin with trace := ?_ }
  rw [Trace.seenBy_append, hides]
  exact twin.trace

/-- Over another relay the run ends alike and leaves the same world but for the relay, so that the
same has happened at the same times. -/
def SameOver (m : Run ε ρ σ α) (m' : Run ε ρ' σ α) (limit : Option Time) (w : World ε ρ σ) (s : ρ') :
    Prop :=
  ∃ s', m' limit (w.over s) = ((m limit w).1, (m limit w).2.over s')

theorem Twin.sameOver {m : Run ε ρ σ α} {m' : Run ε ρ' σ α} (h : Twin some R m m')
    (limit : Option Time) {w : World ε ρ σ} {s : ρ'} (related : R w.relay s) :
    SameOver m m' limit w s := by
  obtain ⟨same, twin⟩ := h limit w (w.over s) (.of_related related)
  exact ⟨_, Prod.ext same.symm twin.eq_over⟩

end Run

end QuorumVault
