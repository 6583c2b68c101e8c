/-
Delivery from one round to another.

What the engine of one member gives out for another one comes to the engine of that
other, once: whatever the relay repeats, delays or mixes up, however often the engine
names the other for one message, and also if it gives out the same bytes twice, which
count as two messages.  Two things are asked of what is not looked into here: that no
nonce comes twice, and that the hash tells the bodies of the round apart.
-/
import QuorumVault.Proofs.Rehearsal.Pair
import QuorumVault.Proofs.Round.Drained
import QuorumVault.Proofs.Round.Outbound
import Mathlib.Data.List.Nodup
import Mathlib.Tactic.Choose

namespace QuorumVault

namespace Round

variable {ε ρ σ ε' ρ' σ' : Type} {site : Site ε ρ σ} {site' : Site ε' ρ' σ'} {a b : Round}
  {session session' : Session} {first : Nat} {sent received : List Event}

/-- One member's round is fetched from by another one's: the relay serves the other nothing but what
was left for it, however often and in whatever order.  The nonces of the messages are different, and
so are the hashes of their bodies. -/
structure Served (site : Site ε ρ σ) (a b : Round) (first : Nat) (sent received : List Event) :
    Prop where
  apart : a.party ≠ b.party
  key : b.hexEncryptionKey = a.hexEncryptionKey
  serves : ∀ m ∈ fetched received, (∃ number, Uploads sent number m) ∧ m.recipients = [b.party]
  fresh : ∀ i j, i < (emitted sent).length → j < (emitted sent).length →
    site.nonce (first + i) = site.nonce (first + j) → i = j
  unlike : ∀ i j m m', Uploads sent i m → Uploads sent j m' →
    Blake3.hash (Utf8.encode m.body) = Blake3.hash (Utf8.encode m'.body) → m.body = m'.body

/-- The messages that were delivered, and those that are left, by their numbers. -/
structure Delivers (a b : Round) (session session' : Session) (sent received : List Event)
    (applied left : List Nat) : Prop where
  nodup : (applied ++ left).Nodup
  /-- The other's engine was handed what the one's engine gave out, and nothing else. -/
  inputs_eq : (inputs received).map some = applied.map fun number => (emitted sent)[number]?
  named : ∀ number ∈ applied ++ left, Names a session sent number b.party
  mem_iff : ∀ number, number ∈ applied ++ left ↔ ∃ m ∈ fetched received, Uploads sent number m
  /-- No message is left once every deletion is answered, unless the engine wants no more. -/
  left_eq_nil : ¬Unanswered received → ¬Sated session' received → left = []
  once : ¬Unanswered received → ¬Sated session' received →
    ∀ number m, Uploads sent number m → m ∈ fetched received → applied.count number = 1

namespace Posted

variable {number number' : Nat} {m m' : Envelope}

theorem decode_eq (h : Posted site a session first sent number m) :
    ∃ message, (emitted sent)[number]? = some message ∧
      Sealing.decode a.hexEncryptionKey m.body = .ok message := by
  obtain ⟨message, given, sealed⟩ := h.sealed
  exact ⟨message, given, Sealing.decode_eq_ok_of_encode sealed⟩

/-- All envelopes of a message have the same body, so the same hash. -/
theorem hash_eq_of_number_eq (h : Posted site a session first sent number m)
    (h' : Posted site a session first sent number m') : m.hash = m'.hash := by
  obtain ⟨message, given, sealed⟩ := h.sealed
  obtain ⟨message', given', sealed'⟩ := h'.sealed
  obtain rfl : message = message' := Option.some.inj (given.symm.trans given')
  have body : m.body = m'.body := Except.ok.inj (sealed.symm.trans sealed')
  rw [h.hash_eq, h'.hash_eq, body]

/-- Envelopes with the same hash are of the same message. -/
theorem number_eq_of_hash_eq (served : Served site a b first sent received)
    (uploads : Uploads sent number m) (uploads' : Uploads sent number' m')
    (h : Posted site a session first sent number m)
    (h' : Posted site a session first sent number' m') (same : m.hash = m'.hash) :
    number = number' := by
  obtain ⟨message, given, sealed⟩ := h.sealed
  obtain ⟨message', given', sealed'⟩ := h'.sealed
  obtain ⟨bound, -⟩ := List.getElem?_eq_some_iff.1 given
  obtain ⟨bound', -⟩ := List.getElem?_eq_some_iff.1 given'
  have hashes : Blake3.hash (Utf8.encode m.body) = Blake3.hash (Utf8.encode m'.body) := by
    have texts : Envelope.contentHash m.body = Envelope.contentHash m'.body := by
      rw [← h.hash_eq, ← h'.hash_eq, same]
    have bytes := congrArg Hex.decode texts
    unfold Envelope.contentHash at bytes
    rw [Hex.decode_encode, Hex.decode_encode] at bytes
    exact Except.ok.inj bytes
  have body : m.body = m'.body := served.unlike number number' m m' uploads uploads' hashes
  rw [body] at sealed
  exact served.fresh number number' bound bound' (Sealing.nonce_eq_of_encode sealed sealed')

end Posted

/-- What counts of that which was fetched is a list of different messages: those of which an envelope was
fetched. -/
theorem firsts_numbers {number : Envelope → Nat} (served : Served site a b first sent received)
    (posted : ∀ n m, Uploads sent n m → Posted site a session first sent n m)
    (numbered : ∀ m ∈ fetched received, Uploads sent (number m) m) :
    ((firsts b.party (fetched received)).map number).Nodup ∧
      ∀ n, n ∈ (firsts b.party (fetched received)).map number ↔
        ∃ m ∈ fetched received, Uploads sent n m := by
  constructor
  · refine List.pairwise_map.2 ((firstsFrom_pairwise b.party [] _).imp_of_mem ?_)
    intro m m' mem mem' unlike same
    have uploads := numbered m (mem_of_mem_firsts mem)
    have uploads' := numbered m' (mem_of_mem_firsts mem')
    rw [← same] at uploads'
    exact unlike ((posted _ m uploads).hash_eq_of_number_eq (posted _ m' uploads'))
  · intro n
    constructor
    · intro among
      obtain ⟨m, mem, rfl⟩ := List.mem_map.1 among
      exact ⟨m, mem_of_mem_firsts mem, numbered m (mem_of_mem_firsts mem)⟩
    · rintro ⟨m, mem, uploads⟩
      have foreign : m.sender ≠ b.party := by
        rw [(posted n m uploads).sender_eq]
        exact served.apart
      obtain ⟨m', mem', same⟩ := (exists_firsts_iff b.party m.hash _).2 ⟨m, mem, foreign, rfl⟩
      have uploads' := numbered m' (mem_of_mem_firsts mem')
      obtain rfl : number m' = n := Posted.number_eq_of_hash_eq served uploads' uploads
        (posted _ m' uploads') (posted n m uploads) same
      exact List.mem_map_of_mem mem'

/-- Whatever the relay does with the envelopes of one member's round, another member's round hands to its
engine messages that the one's engine gave out and for which it has named the other, each at most once;
and once the other has worked through what it has fetched, each of them exactly once. -/
theorem run_delivers_once {limit limit' : Option Time} {w : World ε ρ σ} {w' : World ε' ρ' σ'}
    (sends : w.Since (a.run site session limit w).2 sent)
    (receives : w'.Since (b.run site' session' limit' w').2 received)
    (served : Served site a b w.sealings sent received) :
    ∃ applied left, Delivers a b session session' sent received applied left := by
  obtain ⟨log, sends', posted⟩ := run_posts site a session limit w
  cases sends.unique sends'
  obtain ⟨log', handed, rest, receives', split, opened, given, reasons⟩ :=
    run_drains site' b session' limit' w'
  cases receives.unique receives'
  choose! number numbered using fun m mem => (served.serves m mem).1
  obtain ⟨nodup, mem_iff⟩ := firsts_numbers served posted numbered
  rw [split, List.map_append] at nodup mem_iff
  have counted {m : Envelope} (mem : m ∈ handed.map (·.envelope) ++ rest) : m ∈ fetched received :=
    mem_of_mem_firsts (split ▸ mem)
  let applied := (handed.map (·.envelope)).map number
  have left_eq_nil (answered : ¬Unanswered received) (wanting : ¬Sated session' received) :
      rest.map number = [] := by
    rcases reasons with none | owes | sated | ⟨m, mem, fault, unopened⟩
    · rw [none, List.map_nil]
    · exact absurd owes answered
    · exact absurd sated wanting
    · obtain ⟨message, -, opens⟩ := (posted _ m (numbered m mem)).decode_eq
      rw [served.key, opens] at unopened
      cases unopened
  refine ⟨applied, rest.map number, nodup, ?_, ?_, mem_iff, left_eq_nil, ?_⟩
  · rw [given, List.map_map, List.map_map, List.map_map]
    refine List.map_congr_left fun h mem => ?_
    have fetched := counted (List.mem_append_left rest (List.mem_map_of_mem mem))
    obtain ⟨message, out, opens⟩ := (posted _ _ (numbered _ fetched)).decode_eq
    have same : message = h.message := by
      have opens' := opened h mem
      rw [served.key, opens] at opens'
      exact Except.ok.inj opens'
    exact (out.trans (congrArg some same)).symm
  · intro n mem
    obtain ⟨m, mem, uploads⟩ := (mem_iff n).1 mem
    obtain ⟨who, recipients, names⟩ := (posted n m uploads).addressed
    have addressed := (served.serves m mem).2
    rw [recipients] at addressed
    cases addressed
    exact names
  · intro answered wanting n m uploads mem
    have none := left_eq_nil answered wanting
    have among := (mem_iff n).2 ⟨m, mem, uploads⟩
    rw [none, List.append_nil] at among nodup
    exact List.count_eq_one_of_mem nodup among

end Round

/-- The relay of a pair serves what the device has left there. -/
theorem Pair.served (p : Pair) : Round.Served (p.site 1) (p.round "device") (p.round "server") 0
    p.sent p.received where
  apart := by simp [Pair.round]
  key := rfl
  serves := by
    have first : Uploads p.sent 0 (p.envelope 0) :=
      ⟨none, (p.sent).take 2, (p.sent).drop 3, rfl, rfl⟩
    have second : Uploads p.sent 0 (p.envelope 1) :=
      ⟨none, (p.sent).take 5, (p.sent).drop 6, rfl, rfl⟩
    have all : ∀ m ∈ p.batch, (∃ number, Uploads p.sent number m) ∧ m.recipients = ["server"] := by
      simp only [Pair.batch, List.forall_mem_cons, List.not_mem_nil, false_implies, implies_true,
        and_true]
      exact ⟨⟨⟨0, second⟩, rfl⟩, ⟨⟨0, first⟩, rfl⟩, ⟨⟨0, second⟩, rfl⟩⟩
    exact all
  fresh i j hi hj _ := by
    have one : (emitted p.sent).length = 1 := rfl
    omega
  unlike i j m m' uploads uploads' _ := by
    have body {number : Nat} {m : Envelope} (uploads : Uploads p.sent number m) :
        m.body = p.body := by
      obtain ⟨scope, before, after, split, -⟩ := uploads
      have mem : .asked (.upload m scope) ∈ p.sent := split ▸ by simp
      simp [Pair.sent, Pair.posting] at mem
      rcases mem with ⟨rfl, -⟩ | ⟨rfl, -⟩ <;> rfl
    rw [body uploads, body uploads']

/-- What the device's engine gives out once and the relay serves three times is left for the server. -/
theorem Round.run_delivers_once_pair :
    let p : Pair := ⟨⟨List.replicate 32 0, rfl⟩, fun number => Vector.replicate 12 (.ofNat number)⟩
    Round.Served (p.site 1) (p.round "device") (p.round "server") 0 p.sent p.received ∧
    ∃ applied left, Round.Delivers (p.round "device") (p.round "server") Pair.session Pair.session
      p.sent p.received applied left := by
  intro p
  exact ⟨p.served, Round.run_delivers_once p.device_sends p.server_receives p.served⟩

end QuorumVault
