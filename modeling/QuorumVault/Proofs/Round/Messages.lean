/-
The messages of a round.

Of what a round fetches, only the first occurrence of every message of somebody else
counts, in the order of fetching; a message is known by its hash.  `firsts` picks those
messages, from nothing but the list of all that was fetched.  `handlings` is what a
round did about messages: handing them to the engine, and having them taken off the
relay.
-/
import QuorumVault.Proofs.Run.Log
import QuorumVault.Round.Basic

namespace QuorumVault

/-- The messages that an event brings. -/
def Event.batch : Event → List Envelope
  | .answered (.download ..) (.ok batch) => batch
  | _ => []

/-- All messages that were fetched, in order. -/
def fetched (log : List Event) : List Envelope :=
  log.flatMap Event.batch

/-- Something done about a message. -/
inductive Handling where
  | input (family : Family) (handle : Engine.Handle) (message : Bytes) (answer : Except Error Bool)
  | delete (session party hash : String) (scope : Option String)

/-- What an event does about a message. -/
def Event.handling? : Event → Option Handling
  | .engine family (.input handle message) answer => some (.input family handle message answer)
  | .asked (.delete session party hash scope) => some (.delete session party hash scope)
  | _ => none

/-- All that was done about messages, in order. -/
def handlings (log : List Event) : List Handling :=
  log.filterMap Event.handling?

@[simp] theorem fetched_append (log log' : List Event) :
    fetched (log ++ log') = fetched log ++ fetched log' :=
  List.flatMap_append

@[simp] theorem handlings_append (log log' : List Event) :
    handlings (log ++ log') = handlings log ++ handlings log' :=
  List.filterMap_append

namespace Round

/-! ### First occurrences -/

/-- The messages that are not the local member's and whose hash has not occurred before among such
messages. -/
def firstsFrom (party : String) (before : List Envelope) : List Envelope → List Envelope
  | [] => []
  | m :: rest =>
    if m.sender ≠ party ∧ ∀ m' ∈ before, m'.sender ≠ party → m'.hash ≠ m.hash then
      m :: firstsFrom party (before ++ [m]) rest
    else firstsFrom party (before ++ [m]) rest

/-- The first occurrences of the messages that are not the local member's. -/
def firsts (party : String) (messages : List Envelope) : List Envelope :=
  firstsFrom party [] messages

theorem firstsFrom_append (party : String) (before messages messages' : List Envelope) :
    firstsFrom party before (messages ++ messages') =
      firstsFrom party before messages ++ firstsFrom party (before ++ messages) messages' := by
  induction messages generalizing before with
  | nil => simp [firstsFrom]
  | cons m rest ih =>
      rw [List.cons_append, firstsFrom, firstsFrom, ih, List.append_assoc, List.singleton_append]
      split <;> rfl

theorem firsts_append (party : String) (messages messages' : List Envelope) :
    firsts party (messages ++ messages') =
      firsts party messages ++ firstsFrom party messages messages' :=
  firstsFrom_append party [] messages messages'

/-- Every hash that occurs has a first occurrence. -/
theorem exists_firstsFrom_iff (party hash : String) (before messages : List Envelope)
    (new : ∀ m ∈ before, m.sender ≠ party → m.hash ≠ hash) :
    (∃ m ∈ firstsFrom party before messages, m.hash = hash) ↔
      ∃ m ∈ messages, m.sender ≠ party ∧ m.hash = hash := by
  induction messages generalizing before with
  | nil => simp [firstsFrom]
  | cons m rest ih =>
      rw [firstsFrom]
      by_cases this : m.sender ≠ party ∧ m.hash = hash
      · obtain ⟨foreign, rfl⟩ := this
        rw [if_pos ⟨foreign, new⟩]
        exact ⟨fun _ => ⟨m, List.mem_cons_self, foreign, rfl⟩,
          fun _ => ⟨m, List.mem_cons_self, rfl⟩⟩
      · have still : ∀ m' ∈ before ++ [m], m'.sender ≠ party → m'.hash ≠ hash := by
          intro m' hm foreign
          rcases List.mem_append.1 hm with hm | hm
          · exact new m' hm foreign
          · obtain rfl := List.mem_singleton.1 hm
            exact fun same => this ⟨foreign, same⟩
        have other : (∃ m' ∈ m :: rest, m'.sender ≠ party ∧ m'.hash = hash) ↔
            ∃ m' ∈ rest, m'.sender ≠ party ∧ m'.hash = hash := by
          simp only [List.mem_cons, exists_eq_or_imp, this, false_or]
        rw [other, ← ih _ still]
        by_cases first : m.sender ≠ party ∧ ∀ m' ∈ before, m'.sender ≠ party → m'.hash ≠ m.hash
        · rw [if_pos first]
          have : ¬m.hash = hash := fun same => this ⟨first.1, same⟩
          simp only [List.mem_cons, exists_eq_or_imp, this, false_or]
        · rw [if_neg first]

theorem exists_firsts_iff (party hash : String) (messages : List Envelope) :
    (∃ m ∈ firsts party messages, m.hash = hash) ↔
      ∃ m ∈ messages, m.sender ≠ party ∧ m.hash = hash :=
  exists_firstsFrom_iff party hash [] messages (by simp)

/-- A message is a first occurrence if it is somebody else's and its hash is none of those of the
first occurrences before. -/
theorem firstsFrom_cons_of_new {party : String} {before rest : List Envelope} {m : Envelope}
    (foreign : m.sender ≠ party) (new : ¬∃ m' ∈ firsts party before, m'.hash = m.hash) :
    firstsFrom party before (m :: rest) = m :: firstsFrom party (before ++ [m]) rest := by
  rw [firstsFrom, if_pos]
  rw [exists_firsts_iff] at new
  exact ⟨foreign, fun m' hm foreign' same => new ⟨m', hm, foreign', same⟩⟩

theorem firstsFrom_cons_of_old {party : String} {before rest : List Envelope} {m : Envelope}
    (old : m.sender = party ∨ ∃ m' ∈ firsts party before, m'.hash = m.hash) :
    firstsFrom party before (m :: rest) = firstsFrom party (before ++ [m]) rest := by
  rw [firstsFrom, if_neg]
  rintro ⟨foreign, new⟩
  rcases old with own | known
  · exact foreign own
  · obtain ⟨m', hm, foreign', same⟩ := (exists_firsts_iff ..).1 known
    exact new m' hm foreign' same

/-- What counts is somebody else's, and its hash is not one of those before. -/
theorem of_mem_firstsFrom {party : String} {before messages : List Envelope} {m : Envelope}
    (mem : m ∈ firstsFrom party before messages) :
    m ∈ messages ∧ ∀ m' ∈ before, m'.sender ≠ party → m'.hash ≠ m.hash := by
  induction messages generalizing before with
  | nil => cases mem
  | cons first rest ih =>
      have later (mem : m ∈ firstsFrom party (before ++ [first]) rest) :
          m ∈ first :: rest ∧ ∀ m' ∈ before, m'.sender ≠ party → m'.hash ≠ m.hash := by
        obtain ⟨mem, new⟩ := ih mem
        exact ⟨List.mem_cons_of_mem _ mem, fun m' hm => new m' (List.mem_append_left _ hm)⟩
      rw [firstsFrom] at mem
      split at mem
      · next counts =>
          rcases List.mem_cons.1 mem with rfl | mem
          · exact ⟨List.mem_cons_self, counts.2⟩
          · exact later mem
      · exact later mem

theorem mem_of_mem_firsts {party : String} {messages : List Envelope} {m : Envelope}
    (mem : m ∈ firsts party messages) : m ∈ messages :=
  (of_mem_firstsFrom mem).1

theorem firstsFrom_pairwise (party : String) (before messages : List Envelope) :
    (firstsFrom party before messages).Pairwise fun m m' => m.hash ≠ m'.hash := by
  induction messages generalizing before with
  | nil => exact .nil
  | cons first rest ih =>
      rw [firstsFrom]
      split
      · next counts =>
          refine .cons (fun m mem => ?_) (ih _)
          exact (of_mem_firstsFrom mem).2 first (List.mem_append_right _ (List.mem_singleton_self _))
            counts.1
      · exact ih _

/-! ### Messages that were handed over -/

/-- A message that was handed to the engine. -/
structure Handed where
  envelope : Envelope
  message : Bytes
  answer : Except Error Bool

/-- What is done about a message that is handed to the engine: if that takes it, the relay is asked
to take it away, once. -/
def Handed.handlings (r : Round) (session : Session) (a : Handed) : List Handling :=
  .input session.family session.handle a.message a.answer ::
    match a.answer with
    | .ok _ => [.delete r.sessionId r.party a.envelope.hash r.scope]
    | .error _ => []

end Round

end QuorumVault
