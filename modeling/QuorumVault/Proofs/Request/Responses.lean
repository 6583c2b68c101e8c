/-
Responses are put in the order of a request.

The responses stand under the names of their messages, in no order that matters.  They can be put in the
order of the messages if there are as many of them as there are messages and every message has one; if
no two messages have the same name, then each response is there for exactly one message.
-/
import QuorumVault.Proofs.Dictionary
import QuorumVault.Proofs.Request.Keysign
import Mathlib.Data.List.Nodup

namespace QuorumVault.KeysignResults

variable {results results' : KeysignResults} {messages : List KeysignMessage}
  {responses : List KeysignResponse} {request : KeysignRequest} {m : KeysignMessage} {fault : Fault}

/-! ### Message by message -/

theorem pick_cons_of_found {response : KeysignResponse} {rest : List KeysignMessage}
    (found : results.get? m.hash = some response) :
    results.pick (m :: rest) = (results.pick rest).map (response :: ·) := by
  unfold pick
  rw [List.mapM_cons, found]
  cases (List.mapM _ rest : Except Fault (List KeysignResponse)) <;> rfl

theorem pick_cons_of_missing {rest : List KeysignMessage} (missing : results.get? m.hash = none) :
    results.pick (m :: rest) = .error (.missing m.hash) := by
  unfold pick
  rw [List.mapM_cons, missing]
  rfl

/-- What is picked is what stands under the names of the messages. -/
theorem pick_eq_ok_iff : results.pick messages = .ok responses ↔
    messages.map (results.get? ·.hash) = responses.map some := by
  induction messages generalizing responses with
  | nil => cases responses <;> simp [pick, pure, Except.pure]
  | cons m rest ih =>
      rw [List.map_cons]
      cases found : results.get? m.hash with
      | none =>
          rw [pick_cons_of_missing found]
          cases responses <;> simp
      | some response =>
          rw [pick_cons_of_found found]
          cases responses with
          | nil => cases results.pick rest <;> simp [Except.map]
          | cons response' responses =>
              rw [List.map_cons, List.cons.injEq, Option.some.injEq, ← ih]
              cases results.pick rest <;> simp [Except.map]

/-- The first message that has no response is the one that is missed. -/
theorem pick_eq_error_iff : results.pick messages = .error fault ↔
    ∃ before m after, messages = before ++ m :: after ∧ (∀ m' ∈ before, m'.hash ∈ results.names) ∧
      m.hash ∉ results.names ∧ fault = .missing m.hash := by
  induction messages with
  | nil => exact iff_of_false nofun (by simp)
  | cons m rest ih =>
      rw [exists_first_cons, ← ih]
      cases found : results.get? m.hash with
      | none =>
          have missing : m.hash ∉ results.names := by simp [Dictionary.mem_names_iff, found]
          simp [pick_cons_of_missing found, missing, eq_comm]
      | some response =>
          have named : m.hash ∈ results.names := Dictionary.mem_names_iff.2 ⟨response, found⟩
          rw [pick_cons_of_found found]
          cases results.pick rest <;> simp [Except.map, named]

theorem exists_pick_iff :
    (∃ responses, results.pick messages = .ok responses) ↔ ∀ m ∈ messages, m.hash ∈ results.names := by
  constructor
  · rintro ⟨responses, picked⟩ m mem
    have found : results.get? m.hash ∈ responses.map some :=
      pick_eq_ok_iff.1 picked ▸ List.mem_map_of_mem mem
    obtain ⟨response, -, same⟩ := List.mem_map.1 found
    exact Dictionary.mem_names_iff.2 ⟨response, same.symm⟩
  · intro all
    cases picked : results.pick messages with
    | ok responses => exact ⟨responses, rfl⟩
    | error fault =>
        obtain ⟨before, m, after, rfl, -, missing, -⟩ := pick_eq_error_iff.1 picked
        exact absurd (all m (by simp)) missing

/-! ### All of them -/

theorem inOrder_eq_ok_iff : results.inOrder request = .ok responses ↔
    results.size = request.messages.length ∧ results.pick request.messages = .ok responses := by
  unfold inOrder
  by_cases size : results.size = request.messages.length <;> simp [size]

theorem length_of_pick (picked : results.pick messages = .ok responses) :
    responses.length = messages.length := by
  simpa using (congrArg List.length (pick_eq_ok_iff.1 picked)).symm

theorem get?_of_pick (picked : results.pick messages = .ok responses) (i : Nat)
    (hi : i < messages.length) (hi' : i < responses.length) :
    results.get? messages[i].hash = some responses[i] := by
  have at_i := congrArg (·[i]?) (pick_eq_ok_iff.1 picked)
  simpa [hi, hi'] using at_i

/-- As many names as different ones that are wanted, with all of those among them, are no others. -/
theorem names_perm_of_distinct {hashes : List String} (distinct : hashes.Nodup)
    (size : results.size = hashes.length) (all : ∀ hash ∈ hashes, hash ∈ results.names) :
    hashes.Perm results.names :=
  (distinct.subperm all).perm_of_length_le (Dictionary.size_eq results ▸ Nat.le_of_eq size)

/-- Responses that were picked for messages of different names are all there are. -/
theorem zip_perm_of_pick (distinct : (messages.map (·.hash)).Nodup)
    (size : results.size = messages.length) (picked : results.pick messages = .ok responses) :
    ((messages.map (·.hash)).zip responses).Perm results.entries := by
  have length := length_of_pick picked
  have firsts : ((messages.map (·.hash)).zip responses).map (·.1) = messages.map (·.hash) :=
    List.map_fst_zip (by simp [length])
  have apart : ((messages.map (·.hash)).zip responses).Nodup := by
    apply List.Nodup.of_map (·.1)
    rw [firsts]
    exact distinct
  -- Different pairs, all of them entries, and as many as there are entries.
  refine (apart.subperm ?_).perm_of_length_le ?_
  · intro pair mem
    obtain ⟨i, hi, rfl⟩ := List.getElem_of_mem mem
    rw [List.length_zip, List.length_map] at hi
    rw [List.getElem_zip, List.getElem_map]
    exact Dictionary.mem_entries_iff.2 (get?_of_pick picked i (by omega) (by omega))
  · rw [List.length_zip, List.length_map, length, Nat.min_self]
    exact Nat.le_of_eq size

theorem exists_inOrder_iff : (∃ responses, results.inOrder request = .ok responses) ↔
    results.size = request.messages.length ∧ ∀ m ∈ request.messages, m.hash ∈ results.names := by
  simp only [inOrder_eq_ok_iff, exists_and_left, exists_pick_iff]

/-- For messages of different names it comes to the same whether the responses are counted and those of
the messages looked up, or the names compared. -/
theorem names_iff (distinct : (request.messages.map (·.hash)).Nodup) :
    (results.size = request.messages.length ∧ ∀ m ∈ request.messages, m.hash ∈ results.names) ↔
      ∀ name, name ∈ results.names ↔ name ∈ request.messages.map (·.hash) := by
  constructor
  · rintro ⟨size, all⟩ name
    have length : results.size = (request.messages.map (·.hash)).length := by
      rw [size, List.length_map]
    exact (names_perm_of_distinct distinct length (List.forall_mem_map.2 all)).mem_iff.symm
  · intro same
    have perm := (List.perm_ext_iff_of_nodup results.nodup distinct).2 same
    refine ⟨?_, fun m mem => (same m.hash).2 (List.mem_map_of_mem mem)⟩
    calc results.size = results.names.length := Dictionary.size_eq results
      _ = (request.messages.map (·.hash)).length := perm.length_eq
      _ = request.messages.length := List.length_map _

theorem inOrder_eq_error_iff : results.inOrder request = .error fault ↔
    (results.size ≠ request.messages.length ∧
        fault = .count request.messages.length results.size) ∨
      (results.size = request.messages.length ∧ results.pick request.messages = .error fault) := by
  unfold inOrder
  by_cases size : results.size = request.messages.length <;> simp [size, eq_comm]

/-! ### The same responses -/

theorem inOrder_congr (same : ∀ name, results.get? name = results'.get? name) :
    results.inOrder request = results'.inOrder request := by
  have size := Dictionary.size_eq_of_perm (Dictionary.perm_iff.2 same)
  unfold inOrder pick
  simp only [size, same]

/-! ### What a caller is told -/

/-- What comes of putting responses in the order of a request. -/
structure Ordered (results : KeysignResults) (request : KeysignRequest) : Prop where
  /-- It takes as many responses as there are messages, and one for every message. -/
  ok_iff : (∃ responses, results.inOrder request = .ok responses) ↔
    results.size = request.messages.length ∧ ∀ m ∈ request.messages, m.hash ∈ results.names
  /-- If the messages have different names, their names and those of the responses are the same. -/
  ok_iff_names : (request.messages.map (·.hash)).Nodup →
    ((∃ responses, results.inOrder request = .ok responses) ↔
      ∀ name, name ∈ results.names ↔ name ∈ request.messages.map (·.hash))
  each : ∀ responses, results.inOrder request = .ok responses →
    responses.length = request.messages.length ∧
      ∀ i (hi : i < request.messages.length) (hi' : i < responses.length),
        results.get? request.messages[i].hash = some responses[i]
  once : (request.messages.map (·.hash)).Nodup → ∀ responses, results.inOrder request = .ok responses →
    ((request.messages.map (·.hash)).zip responses).Perm results.entries
  /-- If there are too few or too many, their numbers are told. -/
  count_iff : ∀ expected got, results.inOrder request = .error (.count expected got) ↔
    results.size ≠ request.messages.length ∧ expected = request.messages.length ∧ got = results.size
  missing_iff : ∀ name, results.inOrder request = .error (.missing name) ↔
    results.size = request.messages.length ∧
      ∃ before m after, request.messages = before ++ m :: after ∧
        (∀ m' ∈ before, m'.hash ∈ results.names) ∧ m.hash ∉ results.names ∧ name = m.hash
  validation : ∀ fault, results.inOrder request = .error fault →
    ∃ detail, fault.error = .of .validation detail
  filled : ∀ entries, entries.Perm results.entries →
    KeysignResults.inOrder (.ofList entries) request = results.inOrder request
  same : ∀ results' : KeysignResults, (∀ name, results'.get? name = results.get? name) →
    results'.inOrder request = results.inOrder request
  rearranged : ∀ responses, results.inOrder request = .ok responses →
    ∀ place : Fin request.messages.length → Fin request.messages.length,
      ∃ responses', results.inOrder { request with
          messages := List.ofFn fun i => request.messages[place i] } = .ok responses' ∧
        responses'.length = request.messages.length ∧
        ∀ i, responses'[i.val]? = responses[(place i).val]?

/-- Responses are put in the order of a request in one way or not at all. -/
theorem responses_in_order (results : KeysignResults) (request : KeysignRequest) :
    Ordered results request where
  ok_iff := exists_inOrder_iff
  ok_iff_names distinct := exists_inOrder_iff.trans (names_iff distinct)
  each responses ordered :=
    have picked := (inOrder_eq_ok_iff.1 ordered).2
    ⟨length_of_pick picked, get?_of_pick picked⟩
  once distinct responses ordered :=
    have ⟨size, picked⟩ := inOrder_eq_ok_iff.1 ordered
    zip_perm_of_pick distinct size picked
  count_iff expected got := by
    rw [inOrder_eq_error_iff, pick_eq_error_iff]
    simp
  missing_iff name := by
    rw [inOrder_eq_error_iff, pick_eq_error_iff]
    simp
  validation fault _ := by cases fault <;> exact ⟨_, rfl⟩
  filled entries perm := by
    have distinct : (entries.map (·.1)).Nodup := (perm.map (·.1)).nodup_iff.2 results.nodup
    refine inOrder_congr (Dictionary.perm_iff.1 ?_)
    rw [Dictionary.entries_ofList distinct]
    exact perm
  same results' := inOrder_congr
  rearranged responses ordered place := by
    obtain ⟨size, picked⟩ := inOrder_eq_ok_iff.1 ordered
    have length := length_of_pick picked
    refine ⟨List.ofFn fun i => responses[place i], inOrder_eq_ok_iff.2 ⟨?_, pick_eq_ok_iff.2 ?_⟩, ?_, ?_⟩
    · rw [size, List.length_ofFn]
    · rw [List.map_ofFn, List.map_ofFn]
      exact congrArg List.ofFn (funext fun i => get?_of_pick picked _ _ _)
    · exact List.length_ofFn
    · intro i
      simp [length]

/-- Responses that came as `b`, `a` and `c` are put in the order `c`, `a` and `b`. -/
theorem responses_in_order_three :
    let response (text : String) : KeysignResponse := { KeysignResponse.blank with msg := text }
    let message (name : String) : KeysignMessage := { KeysignMessage.blank with hash := name }
    let results : KeysignResults :=
      .ofList [("b", response "b"), ("a", response "a"), ("c", response "c")]
    let request : KeysignRequest :=
      { KeysignRequest.blank with messages := [message "c", message "a", message "b"] }
    (request.messages.map (·.hash)).Nodup ∧
      results.inOrder request = .ok [response "c", response "a", response "b"] ∧
      ((request.messages.map (·.hash)).zip [response "c", response "a", response "b"]).Perm
        results.entries := by
  intro response message results request
  have distinct : (request.messages.map (·.hash)).Nodup := by decide
  have ordered : results.inOrder request = .ok [response "c", response "a", response "b"] := rfl
  exact ⟨distinct, ordered, (responses_in_order results request).once distinct _ ordered⟩

end KeysignResults

end QuorumVault
