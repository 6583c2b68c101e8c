/-
What waiting for a relay comes to.

Whoever waits looks again and again, so the answers of the relay are numbered as if looking had no end.
A wait brings the first of them that is what is waited for, as soon as it is there, if that is in time;
what was answered before makes no difference, whatever it was.  If there is none in time, the wait ends
when its time is up, and in no other way.
-/
import QuorumVault.Relay.Client

namespace QuorumVault.RelayClient

open Http

variable {τ α β : Type}

/-- A look that was answered. -/
structure Look (τ α : Type) where
  time : Time
  answer : Except Fault α
  transport : τ

/-- The look that is made at some time; none if it is never answered. -/
def look (ask : τ → Time → Exchange τ α) (s : τ) (now : Time) : Option (Look τ α) :=
  match ask s now with
  | (none, _, _) => none
  | (some took, answer, s) => some ⟨now + took, answer, s⟩

/-- The looks that are made one after the other, with a pause in between; none behind one that is never
answered. -/
def looks (ask : τ → Time → Exchange τ α) (pause : Duration) (s : τ) (now : Time) :
    Nat → Option (Look τ α)
  | 0 => look ask s now
  | n + 1 => (look ask s now).bind fun l => looks ask pause l.transport (l.time + max pause 1) n

/-- The look has brought something good. -/
def Look.Brings (l : Look τ α) (good : α → β → Prop) (x : β) : Prop :=
  ∃ a, l.answer = .ok a ∧ good a x

/-- The first look that brings something good does so in time. -/
def First (looks : Nat → Option (Look τ α)) (good : α → β → Prop) (deadline : Time) (l : Look τ α)
    (x : β) : Prop :=
  ∃ n, looks n = some l ∧ l.Brings good x ∧ l.time ≤ deadline ∧
    ∀ m < n, ∀ l', looks m = some l' → ∀ x', ¬l'.Brings good x'

/-- No look brings something good in time. -/
def Never (looks : Nat → Option (Look τ α)) (good : α → β → Prop) (deadline : Time) : Prop :=
  ∀ n l, looks n = some l → l.time ≤ deadline → ∀ x, ¬l.Brings good x

variable {ask : τ → Time → Exchange τ α} {pause : Duration} {s : τ} {now deadline : Time}
  {good : α → β → Prop} {sequence : Nat → Option (Look τ α)} {l l' : Look τ α} {x x' : β} {n : Nat}

/-! ### Looking -/

theorem look_eq_some {took : Duration} {answer : Except Fault α} {s' : τ}
    (asked : ask s now = (some took, answer, s')) :
    look ask s now = some ⟨now + took, answer, s'⟩ := by
  rw [look, asked]

theorem looks_succ (seen : look ask s now = some l) (n : Nat) :
    looks ask pause s now (n + 1) = looks ask pause l.transport (l.time + max pause 1) n := by
  rw [looks, seen, Option.bind_some]

theorem looks_eq_none (unanswered : look ask s now = none) : looks ask pause s now n = none := by
  cases n with
  | zero => exact unanswered
  | succ n => rw [looks, unanswered, Option.bind_none]

theorem time_of_look (seen : look ask s now = some l) : now ≤ l.time := by
  unfold look at seen
  split at seen
  · cases seen
  · cases seen
    exact Nat.le_add_right ..

/-- Nothing is answered before it was asked. -/
theorem time_of_looks (seen : looks ask pause s now n = some l) : now ≤ l.time := by
  induction n generalizing s now with
  | zero => exact time_of_look seen
  | succ n ih =>
      rw [looks] at seen
      obtain ⟨first, seen₁, seen₂⟩ := Option.bind_eq_some_iff.1 seen
      have soon := time_of_look seen₁
      have late := ih seen₂
      lia

/-! ### The first one -/

theorem first_of_zero (seen : sequence 0 = some l) (brings : l.Brings good x)
    (inTime : l.time ≤ deadline) : First sequence good deadline l x :=
  ⟨0, seen, brings, inTime, fun _ lt => absurd lt (Nat.not_lt_zero _)⟩

/-- Behind a look that was of no use, what comes first is what comes first. -/
theorem First.of_succ (useless : ∀ l, sequence 0 = some l → ∀ x : β, ¬l.Brings good x)
    (first : First (fun n => sequence (n + 1)) good deadline l x) :
    First sequence good deadline l x := by
  obtain ⟨n, seen, brings, inTime, before⟩ := first
  refine ⟨n + 1, seen, brings, inTime, fun m lt => ?_⟩
  cases m with
  | zero => exact useless
  | succ m => exact before m (Nat.lt_of_succ_lt_succ lt)

theorem Never.of_succ (useless : ∀ l, sequence 0 = some l → ∀ x : β, ¬l.Brings good x)
    (never : Never (fun n => sequence (n + 1)) good deadline) : Never sequence good deadline := by
  intro n l seen inTime
  cases n with
  | zero => exact useless l seen
  | succ n => exact never n l seen inTime

theorem Never.not_first (never : Never sequence good deadline) :
    ¬First sequence good deadline l x := by
  rintro ⟨n, seen, brings, inTime, -⟩
  exact never n l seen inTime x brings

/-- There is only one first look. -/
theorem First.look_eq (first : First sequence good deadline l x)
    (first' : First sequence good deadline l' x') : l = l' := by
  obtain ⟨n, seen, brings, -, before⟩ := first
  obtain ⟨n', seen', brings', -, before'⟩ := first'
  rcases Nat.lt_trichotomy n n' with lt | rfl | lt
  · exact absurd brings (before' n lt l seen x)
  · exact Option.some.inj (seen.symm.trans seen')
  · exact absurd brings' (before n' lt l' seen' x')

/-! ### Waiting -/

theorem wanted_eq_some_iff {accept : α → Option β} :
    wanted accept l.answer = some x ↔ l.Brings (fun a x => accept a = some x) x := by
  unfold wanted Look.Brings
  cases l.answer <;> simp

/-- A wait comes upon the first good look as soon as that is answered, or else upon its end. -/
theorem poll_cases (ask : τ → Time → Exchange τ α) (accept : α → Option β) (pause left : Duration)
    (s : τ) (now : Time) :
    (∃ l x, First (looks ask pause s now) (fun a x => accept a = some x) (now + left) l x ∧
        poll ask accept pause left s now = (l.time, some x, l.transport)) ∨
      (Never (looks ask pause s now) (fun a x => accept a = some x) (now + left) ∧
        ∃ s', poll ask accept pause left s now = (now + left, none, s')) := by
  fun_induction poll ask accept pause left s now with
  | case1 left s now _ s' asked =>
      -- The first look is never answered, so there is none after it either.
      have unanswered : look ask s now = none := by rw [look, asked]
      refine .inr ⟨fun n l seen => ?_, s', rfl⟩
      rw [looks_eq_none unanswered] at seen
      cases seen
  | case2 left s now took answer s' asked late =>
      refine .inr ⟨fun n l seen inTime => ?_, s', rfl⟩
      have first := look_eq_some asked
      cases n with
      | zero =>
          cases first.symm.trans seen
          dsimp only at inTime
          lia
      | succ n =>
          rw [looks_succ first] at seen
          have := time_of_looks seen
          dsimp only at this
          lia
  | case3 left s now took answer s' asked soon x found =>
      refine .inl ⟨⟨now + took, answer, s'⟩, x, first_of_zero (look_eq_some asked) ?_ ?_, rfl⟩
      · exact wanted_eq_some_iff.1 found
      · dsimp only
        lia
  | case4 left s now took answer s' asked soon useless late =>
      have first := look_eq_some asked
      refine .inr ⟨fun n l seen inTime x brings => ?_, s', rfl⟩
      cases n with
      | zero =>
          cases first.symm.trans seen
          cases useless.symm.trans (wanted_eq_some_iff.2 brings)
      | succ n =>
          rw [looks_succ first] at seen
          have := time_of_looks seen
          dsimp only at this
          lia
  | case5 left s now took answer s' asked soon useless more ih =>
      have first := look_eq_some asked
      have zero : ∀ l, looks ask pause s now 0 = some l →
          ∀ x : β, ¬l.Brings (fun a x => accept a = some x) x := by
        intro l seen x brings
        cases first.symm.trans seen
        cases useless.symm.trans (wanted_eq_some_iff.2 brings)
      -- What is left of the time, counted from the next look, ends at the same moment.
      have same : now + (took + max pause 1) + (left - (took + max pause 1)) = now + left := by lia
      have next : (fun n => looks ask pause s now (n + 1)) =
          looks ask pause s' (now + (took + max pause 1)) := by
        funext n
        rw [looks_succ first, Nat.add_assoc]
      rw [same, ← next] at ih
      rcases ih with ⟨l, x, found, result⟩ | ⟨never, s'', result⟩
      · exact .inl ⟨l, x, found.of_succ zero, result⟩
      · exact .inr ⟨never.of_succ zero, s'', result⟩

/-! ### What a relay says -/

/-- The replies of the relay to a request that is made again and again, after pauses. -/
def replies (c : RelayClient τ) (request : Except Fault Request) (s : τ) (now : Time) :
    Nat → Option (Look τ Response) :=
  looks (c.exchange request .ok) c.pollInterval.pause s now

/-- The look, with something made of the reply. -/
def Look.read (meaning : Response → Except Fault α) (l : Look τ Response) : Look τ α :=
  ⟨l.time, l.answer.bind meaning, l.transport⟩

theorem look_exchange (c : RelayClient τ) (request : Except Fault Request)
    (meaning : Response → Except Fault α) (s : τ) (now : Time) :
    look (c.exchange request meaning) s now =
      (look (c.exchange request .ok) s now).map (Look.read meaning) := by
  cases request with
  | error fault => rfl
  | ok request =>
      rcases sent : c.transport.send s now request with ⟨_ | took, response, s'⟩
      · simp only [look, exchange, sent, Option.map_none]
      · simp only [look, exchange, sent, Option.map_some]
        cases response <;> rfl

theorem looks_exchange (c : RelayClient τ) (request : Except Fault Request)
    (meaning : Response → Except Fault α) (s : τ) (now : Time) (n : Nat) :
    looks (c.exchange request meaning) c.pollInterval.pause s now n =
      (c.replies request s now n).map (Look.read meaning) := by
  unfold replies
  induction n generalizing s now with
  | zero => exact look_exchange ..
  | succ n ih =>
      rw [looks, looks, look_exchange]
      cases look (c.exchange request .ok) s now with
      | none => rfl
      | some l => exact ih ..

theorem brings_read_iff {meaning : Response → Except Fault α} {accept : α → Option β}
    {good : Response → β → Prop} {l : Look τ Response}
    (means : ∀ response x, good response x ↔ ∃ a, meaning response = .ok a ∧ accept a = some x) :
    (l.read meaning).Brings (fun a x => accept a = some x) x ↔ l.Brings good x := by
  unfold Look.Brings Look.read
  cases l.answer with
  | error fault => simp [Except.bind]
  | ok response => simp [Except.bind, means]

/-- A wait comes upon the first good reply as soon as that is there, or else upon its end. -/
theorem wait_cases (c : RelayClient τ) (request : Except Fault Request)
    {meaning : Response → Except Fault α} {accept : α → Option β} {good : Response → β → Prop}
    (means : ∀ response x, good response x ↔ ∃ a, meaning response = .ok a ∧ accept a = some x)
    (left : Duration) (s : τ) (now : Time) :
    (∃ l x, First (c.replies request s now) good (now + left) l x ∧
        poll (c.exchange request meaning) accept c.pollInterval.pause left s now =
          (l.time, some x, l.transport)) ∨
      (Never (c.replies request s now) good (now + left) ∧
        ∃ s', poll (c.exchange request meaning) accept c.pollInterval.pause left s now =
          (now + left, none, s')) := by
  rcases poll_cases (c.exchange request meaning) accept c.pollInterval.pause left s now with
    ⟨l, x, ⟨n, seen, brings, inTime, before⟩, result⟩ | ⟨never, s', result⟩
  · rw [looks_exchange] at seen
    obtain ⟨reply, replied, rfl⟩ := Option.map_eq_some_iff.1 seen
    refine .inl ⟨reply, x, ⟨n, replied, (brings_read_iff means).1 brings, inTime, ?_⟩, result⟩
    intro m lt l' seen' x' brings'
    refine before m lt (l'.read meaning) ?_ x' ((brings_read_iff means).2 brings')
    rw [looks_exchange, seen', Option.map_some]
  · refine .inr ⟨fun n l seen inTime x brings => ?_, s', result⟩
    refine never n (l.read meaning) ?_ inTime x ((brings_read_iff means).2 brings)
    rw [looks_exchange, seen, Option.map_some]

/-! ### Good replies -/

/-- A successful response is a list of names. -/
def Lists (response : Response) (names : List String) : Prop :=
  response.isSuccess = true ∧ (Json.Decoder.list .string).parse response.body = .ok names

/-- It lists two members at least. -/
def HaveMet (response : Response) (names : List String) : Prop :=
  Lists response names ∧ 2 ≤ names.length

/-- A successful response is a text that is not empty. -/
def Delivers (response : Response) (body : String) : Prop :=
  response.isSuccess = true ∧ response.text = body ∧ body ≠ ""

/-- A successful response lists all of some members. -/
def AllDone (members : List String) (response : Response) (_ : Unit) : Prop :=
  ∃ names, Lists response names ∧ ∀ member ∈ members, member ∈ names

theorem parties_eq_ok_iff {path : String} {response : Response} {names : List String} :
    parties path response = .ok names ↔ Lists response names := by
  unfold parties expect content Lists
  cases response.isSuccess with
  | false => exact iff_of_false nofun nofun
  | true =>
      cases (Json.Decoder.list .string).parse response.body with
      | ok found => simp only [if_true, true_and, mapError_ok, bind, Except.bind, Except.ok.injEq]
      | error fault => exact iff_of_false nofun nofun

theorem haveMet_iff (path : String) (response : Response) (names : List String) :
    HaveMet response names ↔ ∃ a, parties path response = .ok a ∧ started a = some names := by
  simp only [parties_eq_ok_iff, HaveMet]
  constructor
  · rintro ⟨lists, two⟩
    exact ⟨names, lists, if_pos two⟩
  · rintro ⟨a, lists, found⟩
    unfold started at found
    split at found
    · next two =>
        cases found
        exact ⟨lists, two⟩
    · cases found

theorem setupMessage_of_success {session : String} {response : Response}
    (success : response.isSuccess = true) :
    setupMessage session response = .ok (if response.text = "" then none else some response.text) := by
  unfold setupMessage present
  rw [if_pos success]
  rfl

theorem setupMessage_of_failure {session : String} {response : Response} {body : String}
    (failure : ¬response.isSuccess = true) : setupMessage session response ≠ .ok (some body) := by
  unfold setupMessage present
  rw [if_neg failure]
  split <;> nofun

theorem delivers_iff (session : String) (response : Response) (body : String) :
    Delivers response body ↔ ∃ a, setupMessage session response = .ok a ∧ id a = some body := by
  simp only [id, exists_eq_right]
  unfold Delivers
  by_cases success : response.isSuccess = true
  · rw [setupMessage_of_success success]
    by_cases empty : response.text = ""
    · rw [if_pos empty]
      exact iff_of_false (fun ⟨_, same, full⟩ => full (same.symm.trans empty)) nofun
    · rw [if_neg empty, Except.ok.injEq, Option.some.injEq]
      exact ⟨fun delivers => delivers.2.1, fun same => ⟨success, same, same ▸ empty⟩⟩
  · exact iff_of_false (fun delivers => success delivers.1) (setupMessage_of_failure success)

theorem allDone_iff (path : String) (members : List String) (response : Response) (x : Unit) :
    AllDone members response x ↔ ∃ a, parties path response = .ok a ∧ allIn members a = some x := by
  simp only [parties_eq_ok_iff, AllDone, allIn]
  refine exists_congr fun names => and_congr_right fun _ => ?_
  simp [List.all_eq_true]

/-! ### What waiting comes to -/

/-- How a wait ends that is for something good. -/
structure Waits (replies : Nat → Option (Look τ Response)) (good : Response → β → Prop) (now : Time)
    (budget : Duration) (failure : Error) (outcome : Option Duration × Except Error β × τ) : Prop where
  /-- It brings the first good reply, if that is there in time, and nothing else. -/
  ok_iff : ∀ x, outcome.2.1 = .ok x ↔ ∃ l, First replies good (now + budget) l x
  /-- It fails in one way only, and only if there was no good reply in time. -/
  error_iff : ∀ e, outcome.2.1 = .error e ↔ e = failure ∧ Never replies good (now + budget)
  /-- It ends as soon as the reply is there, and the relay is not asked again. -/
  soon : ∀ l x, First replies good (now + budget) l x →
    outcome = (some (l.time - now), .ok x, l.transport)
  late : Never replies good (now + budget) → outcome.1 = some budget

/-- How a wait ends that only asks whether there was something good. -/
structure Checks (replies : Nat → Option (Look τ Response)) (good : Response → Unit → Prop)
    (now : Time) (budget : Duration) (outcome : Option Duration × Except Error Bool × τ) : Prop where
  answers : ∃ b, outcome.2.1 = .ok b
  /-- It says yes exactly if there was a good reply in time. -/
  yes_iff : outcome.2.1 = .ok true ↔
    ∃ n l, replies n = some l ∧ l.time ≤ now + budget ∧ l.Brings good ()
  /-- It says so as soon as the first one is there, and the relay is not asked again. -/
  soon : ∀ l, First replies good (now + budget) l () →
    outcome = (some (l.time - now), .ok true, l.transport)
  late : Never replies good (now + budget) → outcome.1 = some budget ∧ outcome.2.1 = .ok false

theorem First.unique {sequence : Nat → Option (Look τ Response)} {good : Response → β → Prop}
    {l l' : Look τ Response} (one : ∀ response x x', good response x → good response x' → x = x')
    (first : First sequence good deadline l x) (first' : First sequence good deadline l' x') :
    l = l' ∧ x = x' := by
  cases first.look_eq first'
  obtain ⟨_, -, ⟨a, answer, isGood⟩, -⟩ := first
  obtain ⟨_, -, ⟨a', answer', isGood'⟩, -⟩ := first'
  cases answer.symm.trans answer'
  exact ⟨rfl, one a x x' isGood isGood'⟩

theorem waits_of_cases {replies : Nat → Option (Look τ Response)} {good : Response → β → Prop}
    {budget : Duration} {failure : Error} {outcome : Option Duration × Except Error β × τ}
    (one : ∀ response x x', good response x → good response x' → x = x')
    (cases : (∃ l x, First replies good (now + budget) l x ∧
        outcome = (some (l.time - now), .ok x, l.transport)) ∨
      (Never replies good (now + budget) ∧ ∃ s', outcome = (some budget, .error failure, s'))) :
    Waits replies good now budget failure outcome := by
  rcases cases with ⟨l, x, first, rfl⟩ | ⟨never, s', rfl⟩
  · constructor
    · intro x'
      constructor
      · rintro ⟨⟩
        exact ⟨l, first⟩
      · rintro ⟨l', first'⟩
        exact congrArg _ (first.unique one first').2
    · intro e
      exact iff_of_false nofun fun ⟨_, never⟩ => never.not_first first
    · intro l' x' first'
      obtain ⟨rfl, rfl⟩ := first.unique one first'
      rfl
    · intro never
      exact absurd first never.not_first
  · constructor
    · intro x
      exact iff_of_false nofun fun ⟨l, first⟩ => never.not_first first
    · intro e
      simp [never, eq_comm]
    · intro l x first
      exact absurd first never.not_first
    · intro _
      rfl

theorem checks_of_cases {replies : Nat → Option (Look τ Response)} {good : Response → Unit → Prop}
    {budget : Duration} {outcome : Option Duration × Except Error Bool × τ}
    (cases : (∃ l x, First replies good (now + budget) l x ∧
        outcome = (some (l.time - now), .ok true, l.transport)) ∨
      (Never replies good (now + budget) ∧ ∃ s', outcome = (some budget, .ok false, s'))) :
    Checks replies good now budget outcome := by
  rcases cases with ⟨l, ⟨⟩, first, rfl⟩ | ⟨never, s', rfl⟩
  · constructor
    · exact ⟨true, rfl⟩
    · refine iff_of_true rfl ?_
      obtain ⟨n, seen, brings, inTime, -⟩ := first
      exact ⟨n, l, seen, inTime, brings⟩
    · intro l' first'
      cases first.look_eq first'
      rfl
    · intro never
      exact absurd first never.not_first
  · constructor
    · exact ⟨false, rfl⟩
    · exact iff_of_false nofun fun ⟨n, l, seen, inTime, brings⟩ => never n l seen inTime () brings
    · intro l first
      exact absurd first never.not_first
    · intro _
      exact ⟨rfl, rfl⟩

theorem HaveMet.unique {response : Response} {names names' : List String}
    (met : HaveMet response names) (met' : HaveMet response names') : names = names' :=
  Except.ok.inj (met.1.2.symm.trans met'.1.2)

theorem Delivers.unique {response : Response} {body body' : String}
    (delivers : Delivers response body) (delivers' : Delivers response body') : body = body' :=
  delivers.2.1.symm.trans delivers'.2.1

/-- Waiting for the others, for a setup message and for the others to finish each comes to the first
reply of the relay that is what is waited for, if it is there within the budget; whatever else is
answered only means to ask again. -/
theorem first_reply_told (c : RelayClient τ) (s : τ) (now : Time) (session : String) :
    (∀ budget, Waits (c.replies (c.request .get ("start/" ++ session) none none) s now) HaveMet now
      budget
      (.of .timeout ("session " ++ session ++ " did not start within " ++ budget.describe))
      (c.relay.ask s now (.start session budget))) ∧
    (∀ scope budget, Waits
      (c.replies (c.request .get ("setup-message/" ++ session) scope none) s now) Delivers now
      budget
      (.of .timeout
        ("setup message for session " ++ session ++ " not available within " ++ budget.describe))
      (c.relay.ask s now (.setup session scope budget))) ∧
    (∀ members, Checks (c.replies (c.request .get ("complete/" ++ session) none none) s now)
      (AllDone members) now (Duration.seconds 60)
      (c.relay.ask s now (.completed session members))) ∧
    (∀ response, AllDone [] response () ↔ ∃ names, Lists response names) := by
  refine ⟨fun budget => ?_, fun scope budget => ?_, fun members => ?_, fun response => ?_⟩
  · refine waits_of_cases (fun _ _ _ => HaveMet.unique) ?_
    show (∃ l x, _ ∧ c.waitForStart s now session budget = _) ∨
      _ ∧ ∃ s', c.waitForStart s now session budget = _
    unfold waitForStart
    dsimp only
    rcases c.wait_cases _ (haveMet_iff ("start/" ++ session)) budget s now with
      ⟨l, x, first, result⟩ | ⟨never, s', result⟩
    · exact .inl ⟨l, x, first, by rw [result]⟩
    · exact .inr ⟨never, s', by rw [result, Nat.add_sub_cancel_left]⟩
  · refine waits_of_cases (fun _ _ _ => Delivers.unique) ?_
    show (∃ l x, _ ∧ c.waitForSetup s now session scope budget = _) ∨
      _ ∧ ∃ s', c.waitForSetup s now session scope budget = _
    unfold waitForSetup
    dsimp only
    rcases c.wait_cases _ (delivers_iff session) budget s now with
      ⟨l, x, first, result⟩ | ⟨never, s', result⟩
    · exact .inl ⟨l, x, first, by rw [result]⟩
    · exact .inr ⟨never, s', by rw [result, Nat.add_sub_cancel_left]⟩
  · refine checks_of_cases ?_
    show (∃ l x, _ ∧ c.waitForCompletion s now session members = _) ∨
      _ ∧ ∃ s', c.waitForCompletion s now session members = _
    unfold waitForCompletion
    dsimp only
    rcases c.wait_cases _ (allDone_iff ("complete/" ++ session) members) completionWait s now with
      ⟨l, x, first, result⟩ | ⟨never, s', result⟩
    · exact .inl ⟨l, x, first, by rw [result]; rfl⟩
    · exact .inr ⟨never, s', by rw [result, Nat.add_sub_cancel_left]; rfl⟩
  · exact exists_congr fun names => and_iff_left nofun

end QuorumVault.RelayClient
