/-
Whose messages a round passes.

Whatever a round asks of the relay bears its session, its scope and the local member's
name, and whatever it hands to the engine it has opened from an envelope that was served
for just these.  So rounds that share a session are kept apart by their scopes.
-/
import QuorumVault.Proofs.Round.Results

namespace QuorumVault

/-- The call is made in a round: it bears the session, the scope and the member's name. -/
def Relay.Call.BelongsTo (session party : String) (scope : Option String) : Relay.Call → Prop
  | .setup s sc _ => s = session ∧ sc = scope
  | .upload m sc => m.sessionId = session ∧ m.sender = party ∧ sc = scope
  | .download s p sc => s = session ∧ p = party ∧ sc = scope
  | .delete s p _ sc => s = session ∧ p = party ∧ sc = scope
  | .register .. | .start .. | .complete .. | .completed .. => False

/-- If the relay is asked or answers, it is about a call like this. -/
def Event.Calls (P : Relay.Call → Prop) : Event → Prop
  | .asked c | .answered c _ => P c
  | .engine .. | .query .. | .storing _ | .stored .. | .noted _ | .queued .. | .attempt .. => True

/-- The engine is handed a message. -/
def Event.Inputs (message : Bytes) : Event → Prop
  | .engine _ (.input _ m) _ => m = message
  | .engine .. | .query .. | .asked _ | .answered .. | .storing _ | .stored .. | .noted _ | .queued ..
  | .attempt .. => False

/-- A session is opened with a setup message, or was to be. -/
def Event.OpensWith (setup : Bytes) : Event → Prop
  | .engine _ (.openKeygen s _) _ | .engine _ (.openSign s ..) _ => s = setup
  | .engine .. | .query .. | .asked _ | .answered .. | .storing _ | .stored .. | .noted _ | .queued ..
  | .attempt .. => False

namespace Round

variable {ε ρ σ : Type} {site : Site ε ρ σ} {r : Round} {deadline : Time}
  {log log' before before' : List Event} {e : Event}

/-- The call is one of the round's. -/
abbrev Owns (r : Round) (c : Relay.Call) : Prop :=
  c.BelongsTo r.sessionId r.party r.scope

/-- The call that fetches the setup message. -/
abbrev setupCall (r : Round) : Relay.Call :=
  .setup r.sessionId r.scope r.setupTimeout

/-- The relay has served an envelope for the round. -/
def Serves (r : Round) (log : List Event) (m : Envelope) : Prop :=
  ∃ batch, .answered (downloadCall r) (.ok batch) ∈ log ∧ m ∈ batch

/-- The relay has served a setup message for the round. -/
def SetUp (r : Round) (log : List Event) (setup : Bytes) : Prop :=
  ∃ body, .answered r.setupCall (.ok body) ∈ log ∧
    Sealing.decode r.hexEncryptionKey body = .ok setup

/-- What happens belongs to the round and to what it was served before. -/
structure OwnsAt (r : Round) (before : List Event) (e : Event) : Prop where
  call : e.Calls r.Owns
  /-- What the engine is handed was opened from an envelope that was served. -/
  input : ∀ message, e.Inputs message →
    ∃ m, r.Serves before m ∧ Sealing.decode r.hexEncryptionKey m.body = .ok message
  /-- What a session is opened with was opened from a setup message that was served. -/
  setup : ∀ setup, e.OpensWith setup → r.SetUp before setup

/-- The round keeps to itself. -/
def Apart (r : Round) (log : List Event) : Prop :=
  ∀ before e after, log = before ++ e :: after → r.OwnsAt before e

theorem Serves.mono {m : Envelope} (h : r.Serves before m) (le : before ⊆ before') :
    r.Serves before' m := by
  obtain ⟨batch, served, mem⟩ := h
  exact ⟨batch, le served, mem⟩

theorem SetUp.mono {setup : Bytes} (h : r.SetUp before setup) (le : before ⊆ before') :
    r.SetUp before' setup := by
  obtain ⟨body, served, opened⟩ := h
  exact ⟨body, le served, opened⟩

theorem OwnsAt.mono (h : r.OwnsAt before e) (le : before ⊆ before') : r.OwnsAt before' e where
  call := h.call
  input message inputs := by
    obtain ⟨m, served, opened⟩ := h.input message inputs
    exact ⟨m, served.mono le, opened⟩
  setup setup opens := (h.setup setup opens).mono le

/-- What is neither handed to the engine nor opens a session only has to be the round's. -/
theorem OwnsAt.of_idle (call : e.Calls r.Owns) (input : ∀ message, ¬e.Inputs message)
    (setup : ∀ setup, ¬e.OpensWith setup) : r.OwnsAt before e where
  call := call
  input message inputs := absurd inputs (input message)
  setup s opens := absurd opens (setup s)

theorem Apart.nil (r : Round) : r.Apart [] := by
  intro before e after split
  simp at split

theorem Apart.append (h : r.Apart log) (own : ∀ e ∈ log', r.OwnsAt log e) :
    r.Apart (log ++ log') := by
  intro before e after split
  rcases split_append split with ⟨rest, first, -⟩ | ⟨rest, first, second⟩
  · exact h before e rest first
  · have mem : e ∈ log' := by
      rw [second]
      simp
    rw [first]
    exact (own e mem).mono (List.subset_append_left _ _)

theorem Apart.trans (h : r.Apart log) (h' : r.Apart log') : r.Apart (log ++ log') := by
  intro before e after split
  rcases split_append split with ⟨rest, first, -⟩ | ⟨rest, first, second⟩
  · exact h before e rest first
  · rw [first]
    exact (h' rest e after second).mono (List.subset_append_right _ _)

/-! ### The invariant -/

/-- An envelope is the round's. -/
def Signed (r : Round) (m : Envelope) : Prop :=
  m.sessionId = r.sessionId ∧ m.sender = r.party

/-- The envelope that the sender waits for is the round's. -/
def Sender.Signed (r : Round) : Sender → Prop
  | .uploading _ _ _ envelope _ _ => r.Signed envelope
  | .asking | .pausing _ | .lingering _ | .left _ => True

/-- So is the one that is on its way in the sender's turn. -/
def Sending.Signed (r : Round) : Sending → Prop
  | .uploading _ _ _ envelope _ => r.Signed envelope
  | .idle | .delivering .. => True

/-- What is left of a batch while the receiver waits was served. -/
def Receiver.Served (r : Round) (log : List Event) : Receiver → Prop
  | .deleting _ rest _ _ _ => ∀ m ∈ rest, r.Serves log m
  | .starting | .asking | .downloading .. | .pausing _ | .left _ => True

/-- So was what is at hand in its turn. -/
def Receiving.Served (r : Round) (log : List Event) : Receiving → Prop
  | .applying rest | .clearing _ rest _ _ => ∀ m ∈ rest, r.Serves log m
  | .idle | .fetching _ | .finishing => True

/-- The round keeps to itself, and so will what the pumps are about to do. -/
structure Addressing (r : Round) (p : Pumps) (log : List Event) : Prop where
  apart : r.Apart log
  messenger : p.messenger.sessionId = r.sessionId
  sender : p.sender.Signed r
  receiver : p.receiver.Served r log

theorem Receiver.Served.append {receiver : Receiver} (h : receiver.Served r log)
    (log' : List Event) : receiver.Served r (log ++ log') := by
  cases receiver with
  | deleting => exact fun m mem => (h m mem).mono (List.subset_append_left _ _)
  | starting | asking | downloading | pausing | left => trivial

theorem Addressing.serve {p : Pumps} (h : Addressing r p log) (now later : Time) (pump : Pump) :
    Addressing r (p.serve now later pump) log where
  apart := h.apart
  messenger := by
    unfold Pumps.serve Pumps.wake
    split <;> exact h.messenger
  sender := by simpa using h.sender
  receiver := by simpa using h.receiver

theorem SenderMove.own {s s' : SenderAt ε ρ σ} (h : Addressing r s.pumps log)
    (doing : s.doing.Signed r) (move : SenderMove site r s log' s') :
    ∀ e ∈ log', r.OwnsAt log e := by
  have idle : (∀ e ∈ log', e.Calls r.Owns) ∧
      ∀ e ∈ log', (∀ message, ¬e.Inputs message) ∧ ∀ setup, ¬e.OpensWith setup := by
    cases move with
    | outputFails | lingers | quits | pauses | unsealable | seals | receiverFails | skips =>
        simp [Event.Calls, Event.Inputs, Event.OpensWith]
    | uploads =>
        simpa [Event.Calls, Event.Inputs, Event.OpensWith, Relay.Call.BelongsTo, Messenger.envelope]
          using h.messenger
    | uploaded =>
        have signed : r.Signed _ := doing
        simp [Event.Calls, Event.Inputs, Event.OpensWith, Relay.Call.BelongsTo, signed.1, signed.2]
    | delivered | uploadWaits | uploadResumes | leaves => simp
  intro e mem
  exact .of_idle (idle.1 e mem) (idle.2 e mem).1 (idle.2 e mem).2

/-- Sending, the round keeps to itself. -/
theorem SenderMove.addressing {s s' : SenderAt ε ρ σ} (h : Addressing r s.pumps log)
    (doing : s.doing.Signed r) (move : SenderMove site r s log' s') :
    Addressing r s'.pumps (log ++ log') ∧ s'.doing.Signed r := by
  have apart : r.Apart (log ++ log') := h.apart.append (move.own h doing)
  have receiver : s'.pumps.receiver.Served r (log ++ log') := by
    obtain ⟨-, same, -, -⟩ := move.frame
    rw [same]
    exact h.receiver.append log'
  cases move with
  | outputFails | quits | unsealable | receiverFails | lingers | delivered | leaves =>
      exact ⟨⟨apart, h.messenger, trivial, receiver⟩, trivial⟩
  | pauses =>
      refine ⟨⟨apart, ?_, ?_, receiver⟩, trivial⟩
      · unfold Pumps.senderPauses
        split <;> exact h.messenger
      · unfold Pumps.senderPauses
        split <;> trivial
  | seals | skips | uploaded => exact ⟨⟨apart, h.messenger, h.sender, receiver⟩, trivial⟩
  | uploads => exact ⟨⟨apart, h.messenger, h.sender, receiver⟩, h.messenger, rfl⟩
  | uploadWaits => exact ⟨⟨apart, h.messenger, doing, receiver⟩, trivial⟩
  | uploadResumes waits =>
      have signed := h.sender
      rw [waits] at signed
      exact ⟨⟨apart, h.messenger, h.sender, receiver⟩, signed⟩

theorem ReceiverMove.own {s s' : ReceiverAt ε ρ σ} (doing : s.doing.Served r log)
    (move : ReceiverMove site r deadline s log' s') : ∀ e ∈ log', r.OwnsAt log e := by
  have inputs {m : Envelope} {family : Family} {handle : Engine.Handle} {message : Bytes}
      (answer : Except Error Bool) (served : r.Serves log m)
      (opened : Sealing.decode r.hexEncryptionKey m.body = .ok message) :
      r.OwnsAt log (.engine family (.input handle message) answer) := by
    refine ⟨trivial, ?_, nofun⟩
    rintro _ rfl
    exact ⟨m, served, opened⟩
  have calls {c : Relay.Call} (own : r.Owns c) :
      r.OwnsAt log (.asked c) ∧ ∀ answer, r.OwnsAt log (.answered c answer) :=
    ⟨⟨own, nofun, nofun⟩, fun _ => ⟨own, nofun, nofun⟩⟩
  have finish (family : Family) (handle : Engine.Handle) (answer : Except Error Bytes) :
      r.OwnsAt log (.engine family (.finish handle) answer) := ⟨trivial, nofun, nofun⟩
  have download : r.Owns (downloadCall r) := ⟨rfl, rfl, rfl⟩
  have delete (hash : String) : r.Owns (deleteCall r hash) := ⟨rfl, rfl, rfl⟩
  cases move with
  | asks => simpa using (calls download).1
  | fetchFails | fetched => simpa using (calls download).2 _
  | goesOn | hasAll => simpa using (calls (delete _)).2 _
  | finishes => simpa using finish _ _ _
  | refused new opened => simpa using inputs _ (doing _ List.mem_cons_self) opened
  | applies new opened =>
      simpa using ⟨inputs _ (doing _ List.mem_cons_self) opened, (calls (delete _)).1⟩
  | begins | aborts | fetchWaits | fetchResumes | pauses | passesOver | unreadable | clearWaits
  | clearResumes | finishedTwice | timesOut => simp

theorem ReceiverMove.addressing {s s' : ReceiverAt ε ρ σ} (h : Addressing r s.pumps log)
    (doing : s.doing.Served r log) (move : ReceiverMove site r deadline s log' s') :
    Addressing r s'.pumps (log ++ log') ∧ s'.doing.Served r (log ++ log') := by
  have apart : r.Apart (log ++ log') := h.apart.append (move.own doing)
  obtain ⟨sender, messenger, -, -⟩ := move.frame
  have signed : s'.pumps.sender.Signed r := by
    rw [sender]
    exact h.sender
  have session : s'.pumps.messenger.sessionId = r.sessionId := by
    rw [messenger]
    exact h.messenger
  have same : s.pumps.receiver.Served r (log ++ log') := h.receiver.append log'
  have still {rest : List Envelope} (served : ∀ m ∈ rest, r.Serves log m) :
      ∀ m ∈ rest, r.Serves (log ++ log') m :=
    fun m mem => (served m mem).mono (List.subset_append_left _ _)
  cases move with
  | begins | asks => exact ⟨⟨apart, session, signed, same⟩, trivial⟩
  | aborts | fetchWaits | fetchFails | unreadable | refused | finishedTwice | finishes | timesOut =>
      exact ⟨⟨apart, session, signed, trivial⟩, trivial⟩
  | fetchResumes => exact ⟨⟨apart, session, signed, same⟩, trivial⟩
  | @fetched _ _ batch =>
      refine ⟨⟨apart, session, signed, same⟩, ?_⟩
      intro m mem
      exact ⟨batch, by simp, mem⟩
  | pauses =>
      refine ⟨⟨apart, session, signed, ?_⟩, trivial⟩
      unfold Pumps.receiverPauses
      split <;> trivial
  | passesOver =>
      refine ⟨⟨apart, session, signed, same⟩, still ?_⟩
      exact fun m mem => doing m (List.mem_cons_of_mem _ mem)
  | applies =>
      refine ⟨⟨apart, session, signed, same⟩, still ?_⟩
      exact fun m mem => doing m (List.mem_cons_of_mem _ mem)
  | clearWaits => exact ⟨⟨apart, session, signed, still doing⟩, trivial⟩
  | clearResumes waits =>
      refine ⟨⟨apart, session, signed, same⟩, ?_⟩
      rw [waits] at same
      exact same
  | goesOn => exact ⟨⟨apart, session, signed, same⟩, still doing⟩
  | hasAll => exact ⟨⟨apart, session, signed, same⟩, trivial⟩

theorem run_apart (site : Site ε ρ σ) (r : Round) (session : Session) :
    (r.run site session).Logs fun _ log => r.Apart log := by
  intro limit w
  have start : Addressing r (r.start session) [] := ⟨.nil r, rfl, trivial, trivial⟩
  obtain ⟨log, p, since, addressing, -⟩ := run_invariant site r session limit w
    (I := fun s log => Addressing r s.pumps log)
    (S := fun s log => Addressing r s.pumps log ∧ s.doing.Signed r)
    (R := fun s log => Addressing r s.pumps log ∧ s.doing.Served r log)
    start
    (fun _ h => h)
    (fun now later pump h => h.serve now later pump)
    (fun h => ⟨h, trivial⟩)
    (fun h => h.1)
    (fun h move => move.addressing h.1 h.2)
    (fun h => ⟨h, trivial⟩)
    (fun h => h.1)
    (fun h move => move.addressing h.1 h.2)
  exact ⟨log, since, addressing.apart⟩

end Round

end QuorumVault
