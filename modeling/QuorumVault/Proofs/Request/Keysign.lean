/-
What is demanded of a request to sign.

All that is demanded stands in one list, in the order in which it is looked at.  A request passes if
everything is met, and else fails with the first demand that is not.  There is something to sign then,
all of it can be read, and no two of the messages have the same name or the same bytes, so that neither
signatures nor rounds can be taken for one another's.
-/
import QuorumVault.Proofs.Encoding.Hex
import QuorumVault.Request.Keysign
import Mathlib.Data.List.Nodup

namespace QuorumVault

/-- The first of a list that is bad, when all before it are good, is its head or comes behind a good
head. -/
theorem exists_first_cons {α : Type} {good bad : α → Prop} {a : α} {l : List α} :
    (∃ before x after, a :: l = before ++ x :: after ∧ (∀ y ∈ before, good y) ∧ bad x) ↔
      bad a ∨ good a ∧ ∃ before x after, l = before ++ x :: after ∧ (∀ y ∈ before, good y) ∧ bad x := by
  constructor
  · rintro ⟨before, x, after, split, fine, isBad⟩
    cases before with
    | nil =>
        cases split
        exact .inl isBad
    | cons b before =>
        cases split
        rw [List.forall_mem_cons] at fine
        exact .inr ⟨fine.1, before, x, after, rfl, fine.2, isBad⟩
  · rintro (isBad | ⟨isGood, before, x, after, rfl, fine, isBad⟩)
    · exact ⟨[], a, l, rfl, nofun, isBad⟩
    · exact ⟨a :: before, x, after, rfl, List.forall_mem_cons.2 ⟨isGood, fine⟩, isBad⟩

/-- Something that is demanded of a request. -/
structure Demand where
  met : Prop
  fault : RequestFault

namespace Demand

variable {d : Demand} {demands : List Demand} {fault : RequestFault}
  {result : Except RequestFault Unit}

/-- A field is filled in. -/
def filled (field value : String) : Demand :=
  ⟨¬Text.Blank value, .blank field⟩

/-- The first of the demands that is not met has the fault. -/
def FirstUnmet (demands : List Demand) (fault : RequestFault) : Prop :=
  ∃ before d after, demands = before ++ d :: after ∧ (∀ d' ∈ before, d'.met) ∧ ¬d.met ∧
    d.fault = fault

/-- A check makes these demands in this order. -/
structure Made (demands : List Demand) (result : Except RequestFault Unit) : Prop where
  ok_iff : result = .ok () ↔ ∀ d ∈ demands, d.met
  error_iff : ∀ fault, result = .error fault ↔ FirstUnmet demands fault

theorem firstUnmet_cons :
    FirstUnmet (d :: demands) fault ↔ ¬d.met ∧ d.fault = fault ∨ d.met ∧ FirstUnmet demands fault :=
  exists_first_cons

theorem Made.nil : Made [] (.ok ()) where
  ok_iff := iff_of_true rfl nofun
  error_iff fault := iff_of_false nofun (by simp [FirstUnmet])

/-- One thing is looked at, and then the others. -/
theorem Made.cons (unmet : ¬d.met → result = .error d.fault) (met : d.met → Made demands result) :
    Made (d :: demands) result := by
  by_cases h : d.met
  · refine ⟨?_, fun fault => ?_⟩
    · rw [(met h).ok_iff, List.forall_mem_cons]
      exact (and_iff_right h).symm
    · rw [(met h).error_iff, firstUnmet_cons]
      exact ⟨fun later => .inr ⟨h, later⟩, fun either => either.elim (absurd h ·.1) (·.2)⟩
  · rw [unmet h]
    refine ⟨?_, fun fault => ?_⟩
    · rw [List.forall_mem_cons]
      exact iff_of_false nofun fun all => h all.1
    · rw [firstUnmet_cons, Except.error.injEq]
      exact ⟨fun same => .inl ⟨h, same⟩, fun either => either.elim (·.2) (absurd ·.1 h)⟩

/-- Something is in the way or not. -/
theorem Made.ite {p : Prop} [Decidable p] (h : d.met ↔ ¬p) (rest : d.met → Made demands result) :
    Made (d :: demands) (if p then .error d.fault else result) := by
  refine .cons (fun unmet => ?_) fun met => ?_
  · exact if_pos (Decidable.of_not_not fun not => unmet (h.2 not))
  · rw [if_neg (h.1 met)]
    exact rest met

theorem Made.require {field value : String} {next : Unit → Except RequestFault Unit}
    (rest : Made demands (next ())) :
    Made (.filled field value :: demands) (RequestFault.require field value >>= next) := by
  have chosen : (RequestFault.require field value >>= next) =
      if Text.Blank value then .error (.blank field) else next () := by
    unfold RequestFault.require
    split <;> rfl
  rw [chosen]
  exact .ite (d := filled field value) Iff.rfl fun _ => rest

end Demand

/-- What is demanded of a message behind others. -/
def KeysignMessage.demands (before : List KeysignMessage) (m : KeysignMessage) : List Demand :=
  [.filled "message" m.message,
    .filled "hash" m.hash,
    ⟨∀ m' ∈ before, m'.hash ≠ m.hash, .duplicateHash m.hash⟩,
    ⟨Hex.Digits m.message, .notHex m.hash⟩,
    ⟨∀ m' ∈ before, m'.bytes ≠ m.bytes, .repeatedBody m.hash⟩]

namespace KeysignRequest

/-- What is demanded of messages, one after the other, behind others. -/
def messageDemands (before : List KeysignMessage) : List KeysignMessage → List Demand
  | [] => []
  | m :: rest => m.demands before ++ messageDemands (before ++ [m]) rest

/-- What is demanded of a request. -/
def demands (r : KeysignRequest) : List Demand :=
  [.filled "public_key" r.publicKey,
    .filled "session_id" r.sessionId,
    .filled "hex_encryption_key" r.hexEncryptionKey,
    ⟨r.messages ≠ [], .noMessages⟩] ++ messageDemands [] r.messages

/-- A request that can be signed. -/
structure Signable (r : KeysignRequest) : Prop where
  publicKey : ¬Text.Blank r.publicKey
  sessionId : ¬Text.Blank r.sessionId
  hexEncryptionKey : ¬Text.Blank r.hexEncryptionKey
  messages : r.messages ≠ []
  texts : ∀ m ∈ r.messages, ¬Text.Blank m.message
  named : ∀ m ∈ r.messages, ¬Text.Blank m.hash
  digits : ∀ m ∈ r.messages, Hex.Digits m.message
  names : (r.messages.map (·.hash)).Nodup
  bodies : (r.messages.map (·.bytes)).Nodup

variable {before messages : List KeysignMessage} {hashes : List String} {bodies : List Bytes}
  {m : KeysignMessage} {request : KeysignRequest}

/-- Messages are checked for what is demanded of them, if the names and bytes of those before them are
known. -/
theorem made_checkMessages (names : ∀ name, name ∈ hashes ↔ ∃ m ∈ before, m.hash = name)
    (read : ∀ body, body ∈ bodies ↔ ∃ m ∈ before, m.bytes = .ok body) :
    Demand.Made (messageDemands before messages) (checkMessages hashes bodies messages) := by
  induction messages generalizing before hashes bodies with
  | nil => exact .nil
  | cons m rest ih =>
      rw [checkMessages]
      refine .require (.require (.ite ?_ fun _ => ?_))
      · simp [names]
      cases opened : m.bytes with
      | error fault =>
          refine .cons (fun _ => rfl) fun digits => ?_
          obtain ⟨body, reads⟩ := Hex.exists_decode_iff.2 digits
          cases opened.symm.trans reads
      | ok body =>
          have digits : Hex.Digits m.message := Hex.exists_decode_iff.1 ⟨body, opened⟩
          refine .cons (absurd digits) fun _ => .ite ?_ fun _ => ih ?_ ?_
          · simp [read]
          · intro name
            simp [names, or_and_right, exists_or, or_comm, eq_comm]
          · intro body'
            simp [read, opened, or_and_right, exists_or, or_comm, eq_comm]

/-- A request is checked for what is demanded of it. -/
theorem made_check (request : KeysignRequest) : Demand.Made request.demands request.check := by
  rw [check]
  refine .require (.require (.require (.ite Iff.rfl fun _ => ?_)))
  exact made_checkMessages (by simp) (by simp)

/-- What is demanded of messages, taken together. -/
theorem forall_messageDemands_iff : (∀ d ∈ messageDemands before messages, d.met) ↔
    (∀ m ∈ messages, ¬Text.Blank m.message ∧ ¬Text.Blank m.hash ∧ Hex.Digits m.message) ∧
      (messages.map (·.hash)).Nodup ∧ (messages.map (·.bytes)).Nodup ∧
      ∀ m ∈ messages, ∀ m' ∈ before, m'.hash ≠ m.hash ∧ m'.bytes ≠ m.bytes := by
  induction messages generalizing before with
  | nil => simp [messageDemands]
  | cons m rest ih =>
      simp only [messageDemands, KeysignMessage.demands, Demand.filled, List.forall_mem_append, ih,
        List.forall_mem_cons, List.map_cons, List.nodup_cons, List.mem_map, not_exists, not_and]
      grind

theorem forall_demands_iff : (∀ d ∈ request.demands, d.met) ↔ request.Signable := by
  simp only [demands, List.forall_mem_append, List.forall_mem_cons, forall_messageDemands_iff,
    Demand.filled]
  constructor
  · rintro ⟨⟨publicKey, sessionId, key, some, -⟩, each, names, bodies, -⟩
    exact ⟨publicKey, sessionId, key, some, fun m mem => (each m mem).1,
      fun m mem => (each m mem).2.1, fun m mem => (each m mem).2.2, names, bodies⟩
  · intro h
    exact ⟨⟨h.publicKey, h.sessionId, h.hexEncryptionKey, h.messages, nofun⟩,
      fun m mem => ⟨h.texts m mem, h.named m mem, h.digits m mem⟩, h.names, h.bodies, nofun⟩

/-- The requests that pass are those that can be signed. -/
theorem check_eq_ok_iff : request.check = .ok () ↔ request.Signable :=
  (made_check request).ok_iff.trans forall_demands_iff

namespace Signable

/-- All of it can be read. -/
theorem exists_bytes (h : request.Signable) (mem : m ∈ request.messages) :
    ∃ body, m.bytes = .ok body :=
  Hex.exists_decode_iff.2 (h.digits m mem)

/-- Texts that are the same but for the case of letters stand for the same bytes. -/
theorem texts_nodup (h : request.Signable) :
    (request.messages.map (·.message.toLower)).Nodup := by
  refine List.pairwise_map.2 ((List.pairwise_map.1 h.bodies).imp_of_mem ?_)
  intro m m' mem _ apart same
  exact apart ((Hex.decode_eq_decode_iff (h.digits m mem)).2 same)

end Signable

/-- The messages of a valid request have different names. -/
theorem names_nodup_of_check (h : request.check = .ok ()) :
    (request.messages.map (·.hash)).Nodup :=
  (check_eq_ok_iff.1 h).names

theorem eq_of_bytes_eq (h : request.check = .ok ()) {m m' : KeysignMessage}
    (mem : m ∈ request.messages) (mem' : m' ∈ request.messages) (same : m.bytes = m'.bytes) :
    m = m' :=
  List.inj_on_of_nodup_map (check_eq_ok_iff.1 h).bodies mem mem' same

end KeysignRequest

end QuorumVault
