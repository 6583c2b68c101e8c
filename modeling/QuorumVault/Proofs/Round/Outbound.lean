/-
What the sender leaves on the relay.

Everything the sender does about a message of the engine stands in the log between that
message and the next one, so a message is known by its number.  Each is sealed with a
nonce of its own, the one of its number, and every envelope that is left on the relay
under that number carries this sealed message, to a member whom the engine has named
for it.
-/
import QuorumVault.Proofs.Round.Steps

namespace QuorumVault

/-! ### Messages by their numbers -/

/-- The messages that the engine gave out, in order. -/
def emitted (log : List Event) : List Bytes :=
  log.filterMap fun
    | .engine _ (.output _) (.ok (some message)) => some message
    | _ => none

@[simp] theorem emitted_nil : emitted [] = [] := rfl

@[simp] theorem emitted_append (log log' : List Event) :
    emitted (log ++ log') = emitted log ++ emitted log' :=
  List.filterMap_append

/-- The event happens after the message of some number was given out and before the next one. -/
def During (log : List Event) (number : Nat) (e : Event) : Prop :=
  ∃ before after, log = before ++ e :: after ∧ (emitted before).length = number + 1

/-- An envelope is left on the relay for the message of some number. -/
def Uploads (log : List Event) (number : Nat) (m : Envelope) : Prop :=
  ∃ scope, During log number (.asked (.upload m scope))

/-- The engine names a member for a place of the committee, for the message of some number. -/
def Names (r : Round) (session : Session) (log : List Event) (number : Nat) (who : String) : Prop :=
  ∃ message place, (emitted log)[number]? = some message ∧ place < r.committee.length ∧
    During log number
      (.engine session.family (.receiver session.handle message place) (.ok (some who)))

theorem getElem?_emitted_append {log : List Event} {number : Nat} {message : Bytes}
    (h : (emitted log)[number]? = some message) (log' : List Event) :
    (emitted (log ++ log'))[number]? = some message := by
  obtain ⟨bound, -⟩ := List.getElem?_eq_some_iff.1 h
  rw [emitted_append, List.getElem?_append_left bound, h]

theorem During.append {log : List Event} {number : Nat} {e : Event} (h : During log number e)
    (log' : List Event) : During (log ++ log') number e := by
  obtain ⟨before, after, rfl, count⟩ := h
  exact ⟨before, after ++ log', by simp, count⟩

/-- What happens behind a log belongs to the message given out last. -/
theorem during_append {log log' before after : List Event} {number : Nat} {e : Event}
    (count : (emitted log).length = number + 1) (split : log' = before ++ e :: after)
    (silent : emitted before = []) : During (log ++ log') number e := by
  refine ⟨log ++ before, after, by simp [split], ?_⟩
  rw [emitted_append, silent, List.append_nil, count]

theorem Uploads.of_append {log log' : List Event} {number : Nat} {m : Envelope}
    (h : Uploads (log ++ log') number m) :
    Uploads log number m ∨ ∃ scope before after, log' = before ++ .asked (.upload m scope) :: after ∧
      (emitted log).length + (emitted before).length = number + 1 := by
  obtain ⟨scope, before, after, split, count⟩ := h
  rcases split_append split with ⟨a, ha, -⟩ | ⟨c, rfl, hc⟩
  · exact .inl ⟨scope, before, a, ha, count⟩
  · exact .inr ⟨scope, c, after, hc, by rw [← List.length_append, ← emitted_append, count]⟩

theorem Names.append {r : Round} {session : Session} {log : List Event} {number : Nat} {who : String}
    (h : Names r session log number who) (log' : List Event) :
    Names r session (log ++ log') number who := by
  obtain ⟨message, place, given, bound, during⟩ := h
  exact ⟨message, place, getElem?_emitted_append given log', bound, during.append log'⟩

namespace Round

variable {ε ρ σ : Type} {site : Site ε ρ σ} {r : Round} {session : Session} {first : Nat}
  {deadline : Time} {log log' : List Event}

/-! ### The invariant -/

/-- The envelope carries the message of some number, sealed with the nonce of that number, to a member
whom the engine has named for it. -/
structure Posted (site : Site ε ρ σ) (r : Round) (session : Session) (first : Nat) (log : List Event)
    (number : Nat) (m : Envelope) : Prop where
  sealed : ∃ message, (emitted log)[number]? = some message ∧
    Sealing.encode r.hexEncryptionKey (site.nonce (first + number)) message = .ok m.body
  hash_eq : m.hash = Envelope.contentHash m.body
  sender_eq : m.sender = r.party
  addressed : ∃ who, m.recipients = [who] ∧ Names r session log number who

theorem Posted.append {number : Nat} {m : Envelope} (h : Posted site r session first log number m)
    (log' : List Event) : Posted site r session first (log ++ log') number m where
  sealed := by
    obtain ⟨message, given, sealed⟩ := h.sealed
    exact ⟨message, getElem?_emitted_append given log', sealed⟩
  hash_eq := h.hash_eq
  sender_eq := h.sender_eq
  addressed := by
    obtain ⟨who, recipients, names⟩ := h.addressed
    exact ⟨who, recipients, names.append log'⟩

/-- The sender has the message given out last in hand, and some places of the committee to go. -/
def Carrying (site : Site ε ρ σ) (r : Round) (first : Nat) (log : List Event) (message : Bytes)
    (body : String) (places : List Nat) : Prop :=
  ∃ number, (emitted log).length = number + 1 ∧ (emitted log)[number]? = some message ∧
    Sealing.encode r.hexEncryptionKey (site.nonce (first + number)) message = .ok body ∧
    ∀ place ∈ places, place < r.committee.length

/-- What the sender is doing tells which message it has in hand. -/
def Sender.Carries (site : Site ε ρ σ) (r : Round) (first : Nat) (log : List Event) : Sender → Prop
  | .uploading message body rest _ _ _ => Carrying site r first log message body rest
  | .asking | .pausing _ | .lingering _ | .left _ => True

/-- So does where it stands in its turn. -/
def Sending.Carries (site : Site ε ρ σ) (r : Round) (first : Nat) (log : List Event) (p : Pumps) :
    Sending → Prop
  | .idle => p.sender.Carries site r first log
  | .delivering message body places => Carrying site r first log message body places
  | .uploading message body places _ _ => Carrying site r first log message body places

/-- The sender is gone. -/
def Pumps.senderLeft (p : Pumps) : Bool :=
  match p.sender with
  | .left _ => true
  | _ => false

/-- The sender is still there. -/
def Sending.active (p : Pumps) : Sending → Bool
  | .idle => !p.senderLeft
  | .delivering .. | .uploading .. => true

/-- Whatever is on the relay was posted for its message, and the next message will be sealed with the
nonce of its number. -/
structure Sends (site : Site ε ρ σ) (r : Round) (session : Session) (first : Nat) (doing : Sending)
    (p : Pumps) (sealings : Nat) (log : List Event) : Prop where
  family_eq : p.session.family = session.family
  handle_eq : p.session.handle = session.handle
  posted : ∀ number m, Uploads log number m → Posted site r session first log number m
  carries : doing.Carries site r first log p
  counts : doing.active p = true → sealings = first + (emitted log).length

/-! ### Moves -/

theorem Carrying.quiet {message : Bytes} {body : String} {places : List Nat}
    (h : Carrying site r first log message body places) (silent : emitted log' = []) :
    Carrying site r first (log ++ log') message body places := by
  unfold Carrying
  rwa [emitted_append, silent, List.append_nil]

theorem Sending.Carries.quiet {doing : Sending} {p : Pumps} (h : doing.Carries site r first log p)
    (silent : emitted log' = []) : doing.Carries site r first (log ++ log') p := by
  cases doing with
  | idle =>
      unfold Sending.Carries at h ⊢
      cases hs : p.sender with
      | uploading =>
          rw [hs] at h
          exact Carrying.quiet h silent
      | asking | pausing | lingering | left => trivial
  | delivering | uploading => exact Carrying.quiet h silent

/-- Where nothing is left on the relay, nothing has to be known. -/
theorem posted_quiet
    (posted : ∀ number m, Uploads log number m → Posted site r session first log number m)
    (none : ∀ m scope, .asked (.upload m scope) ∉ log') :
    ∀ number m, Uploads (log ++ log') number m →
      Posted site r session first (log ++ log') number m := by
  intro number m uploads
  rcases uploads.of_append with uploads | ⟨scope, before, after, rfl, -⟩
  · exact (posted number m uploads).append log'
  · exact absurd (List.mem_append_right _ List.mem_cons_self) (none m scope)

/-- An event that is neither a message of the engine nor an envelope for the relay. -/
def Event.isIdle : Event → Bool
  | .engine _ (.output _) (.ok (some _)) => false
  | .asked (.upload ..) => false
  | _ => true

theorem quiet_of_idle (idle : ∀ e ∈ log, Event.isIdle e = true) :
    emitted log = [] ∧ ∀ m scope, .asked (.upload m scope) ∉ log := by
  refine ⟨List.filterMap_eq_nil_iff.2 fun e mem => ?_, fun m scope mem => ?_⟩
  · have quiet := idle e mem
    unfold Event.isIdle at quiet
    split at quiet
    · cases quiet
    · cases quiet
    · next other _ =>
        split
        · exact absurd rfl (other _ _ _)
        · rfl
  · cases idle _ mem

/-- What is neither a message nor an envelope leaves everything as it is. -/
theorem Sends.idle {doing doing' : Sending} {p p' : Pumps} {sealings sealings' : Nat}
    (h : Sends site r session first doing p sealings log)
    (idle : ∀ e ∈ log', Event.isIdle e = true)
    (same : p'.session.family = p.session.family ∧ p'.session.handle = p.session.handle)
    (carries : doing'.Carries site r first (log ++ log') p')
    (counts : doing'.active p' = true → doing.active p = true ∧ sealings' = sealings) :
    Sends site r session first doing' p' sealings' (log ++ log') where
  family_eq := same.1.trans h.family_eq
  handle_eq := same.2.trans h.handle_eq
  posted := posted_quiet h.posted (quiet_of_idle idle).2
  carries := carries
  counts there := by
    obtain ⟨before, unsealed⟩ := counts there
    rw [emitted_append, (quiet_of_idle idle).1, List.append_nil, unsealed, h.counts before]

theorem Pumps.active_of_asksOutput {p : Pumps} (asks : p.asksOutput = true) :
    Sending.idle.active p = true := by
  unfold Pumps.asksOutput at asks
  unfold Sending.active Pumps.senderLeft
  cases hs : p.sender <;> simp_all

theorem Carrying.tail {message : Bytes} {body : String} {place : Nat} {places : List Nat}
    (h : Carrying site r first log message body (place :: places)) :
    Carrying site r first log message body places := by
  obtain ⟨number, count, given, sealed, bound⟩ := h
  exact ⟨number, count, given, sealed, fun place mem => bound place (List.mem_cons_of_mem _ mem)⟩

/-- The envelope with the message in hand, for the member whom the engine has just named, is posted. -/
theorem posted_uploads {family : Family} {handle : Engine.Handle} {message : Bytes} {body : String}
    {place : Nat} {places : List Nat} {recipient : String} {scope : Option String}
    (posted : ∀ number m, Uploads log number m → Posted site r session first log number m)
    (family_eq : family = session.family) (handle_eq : handle = session.handle)
    (carries : Carrying site r first log message body (place :: places)) (messenger : Messenger)
    (events : log' = [.engine family (.receiver handle message place) (.ok (some recipient)),
      .asked (.upload (messenger.envelope r.party recipient body) scope)]) :
    ∀ number m, Uploads (log ++ log') number m →
      Posted site r session first (log ++ log') number m := by
  intro number m uploads
  rcases uploads.of_append with uploads | ⟨scope', before, after, split, index⟩
  · exact (posted number m uploads).append log'
  obtain ⟨current, count, given, sealed, bound⟩ := carries
  obtain ⟨rfl, rfl⟩ : before = [.engine family (.receiver handle message place) (.ok (some recipient))] ∧
      m = messenger.envelope r.party recipient body := by
    rw [events] at split
    match before with
    | [] => cases split
    | [_] =>
        cases split
        exact ⟨rfl, rfl⟩
    | _ :: _ :: _ => simp at split
  obtain rfl : current = number := by
    have silent : (emitted [Event.engine family (.receiver handle message place)
      (.ok (some recipient))]).length = 0 := rfl
    omega
  have named : log' = [] ++ .engine family (.receiver handle message place) (.ok (some recipient)) ::
      [.asked (.upload (messenger.envelope r.party recipient body) scope)] := events
  subst family_eq handle_eq
  refine ⟨⟨message, getElem?_emitted_append given log', sealed⟩, rfl, rfl, recipient, rfl, message,
    place, getElem?_emitted_append given log', bound place List.mem_cons_self, ?_⟩
  exact during_append count named rfl

theorem SenderMove.sends {s s' : SenderAt ε ρ σ}
    (h : Sends site r session first s.doing s.pumps s.world.sealings log)
    (move : SenderMove site r s log' s') :
    Sends site r session first s'.doing s'.pumps s'.world.sealings (log ++ log') := by
  have called {w w' : World ε ρ σ} {family : Family} {c : Engine.Call} {answer : Except Error c.Answer}
      (call : w.callEngine site family c = (answer, w')) : w'.sealings = w.sealings :=
    World.sealings_callEngine call
  cases move with
  | outputFails | receiverFails =>
      exact h.idle (by simp [Event.isIdle]) ⟨rfl, rfl⟩ trivial nofun
  | lingers asks call =>
      exact h.idle (by simp [Event.isIdle]) ⟨rfl, rfl⟩ trivial fun _ =>
        ⟨Pumps.active_of_asksOutput asks, called call⟩
  | quits asks call =>
      exact h.idle (by simp [Event.isIdle]) ⟨rfl, rfl⟩ trivial nofun
  | pauses asks call =>
      unfold Pumps.senderPauses
      split <;> exact h.idle (by simp [Event.isIdle]) ⟨rfl, rfl⟩ trivial fun _ =>
        ⟨Pumps.active_of_asksOutput asks, called call⟩
  | unsealable =>
      exact ⟨h.family_eq, h.handle_eq, posted_quiet h.posted (by simp), trivial, nofun⟩
  | @seals p w w' message body asks call sealed =>
      have before : w.sealings = first + (emitted log).length :=
        h.counts (Pumps.active_of_asksOutput asks)
      have now : w'.sealings = first + (emitted log).length := (called call).trans before
      have given : emitted [Event.engine p.session.family p.outputCall (.ok (some message))] =
          [message] := rfl
      refine ⟨h.family_eq, h.handle_eq, posted_quiet h.posted (by simp), ?_, fun _ => ?_⟩
      · refine ⟨(emitted log).length, ?_, ?_, ?_, fun place => List.mem_range.1⟩
        · rw [emitted_append, given, List.length_append, List.length_singleton]
        · rw [emitted_append, given, List.getElem?_concat_length]
        · rw [← now]
          exact sealed
      · show w'.sealings + 1 = _
        rw [emitted_append, given, List.length_append, List.length_singleton, now]
        rfl
  | delivered => exact h.idle nofun ⟨rfl, rfl⟩ trivial fun _ => ⟨rfl, rfl⟩
  | @skips _ _ _ message body _ places _ call =>
      have carries : Carrying site r first log message body places := h.carries.tail
      exact h.idle (by simp [Event.isIdle]) ⟨rfl, rfl⟩ (Carrying.quiet carries rfl) fun _ =>
        ⟨rfl, called call⟩
  | @uploads p w w₁ w' message body place places recipient took answer call somebody ask =>
      have carries : Carrying site r first log message body (place :: places) := h.carries
      have unsealed : w'.sealings = w.sealings := (World.sealings_askRelay ask).trans (called call)
      refine ⟨h.family_eq, h.handle_eq, ?_, carries.tail.quiet rfl, fun _ => ?_⟩
      · exact posted_uploads h.posted h.family_eq h.handle_eq carries p.messenger rfl
      · rw [emitted_append]
        exact unsealed.trans ((h.counts rfl).trans (by simp [emitted]))
  | uploadWaits => exact h.idle nofun ⟨rfl, rfl⟩ (h.carries.quiet rfl) fun _ => ⟨rfl, rfl⟩
  | uploadResumes hs =>
      have carries := h.carries
      unfold Sending.Carries at carries
      rw [hs] at carries
      refine h.idle nofun ⟨rfl, rfl⟩ (Carrying.quiet carries rfl) fun _ => ⟨?_, rfl⟩
      simp [Sending.active, Pumps.senderLeft, hs]
  | uploaded => exact h.idle (by simp [Event.isIdle]) ⟨rfl, rfl⟩ (h.carries.quiet rfl) fun _ => ⟨rfl, rfl⟩
  | leaves => exact h.idle nofun ⟨rfl, rfl⟩ trivial nofun

/-- The receiver gives nothing out and leaves nothing on the relay. -/
theorem ReceiverMove.idle {s s' : ReceiverAt ε ρ σ} (move : ReceiverMove site r deadline s log s') :
    (∀ e ∈ log, Event.isIdle e = true) ∧ s'.world.sealings = s.world.sealings := by
  cases move with
  | asks _ _ ask => exact ⟨by simp [Event.isIdle], World.sealings_askRelay ask⟩
  | refused _ _ call | finishes _ call =>
      exact ⟨by simp [Event.isIdle], World.sealings_callEngine call⟩
  | applies _ _ call ask =>
      exact ⟨by simp [Event.isIdle],
        (World.sealings_askRelay ask).trans (World.sealings_callEngine call)⟩
  | fetchFails | fetched | goesOn | hasAll => exact ⟨by simp [Event.isIdle], rfl⟩
  | begins | aborts | fetchWaits | fetchResumes | pauses | passesOver | unreadable | clearWaits
  | clearResumes | finishedTwice | timesOut => exact ⟨nofun, rfl⟩

theorem ReceiverMove.sends {s s' : ReceiverAt ε ρ σ}
    (h : Sends site r session first .idle s.pumps s.world.sealings log)
    (move : ReceiverMove site r deadline s log' s') :
    Sends site r session first .idle s'.pumps s'.world.sealings (log ++ log') := by
  obtain ⟨sender, -, family, handle⟩ := move.frame
  obtain ⟨idle, unsealed⟩ := move.idle
  have carries : Sending.idle.Carries site r first (log ++ log') s'.pumps := by
    have before := h.carries.quiet (quiet_of_idle idle).1
    unfold Sending.Carries at before ⊢
    rwa [sender]
  refine h.idle idle ⟨family, handle⟩ carries fun there => ⟨?_, unsealed⟩
  unfold Sending.active Pumps.senderLeft at there ⊢
  rwa [sender] at there

/-! ### Rounds -/

/-- Every envelope that a round leaves on the relay carries the message of its number, sealed with the
nonce of that number, to a member whom the engine has named for it. -/
theorem run_posts (site : Site ε ρ σ) (r : Round) (session : Session) (limit : Option Time)
    (w : World ε ρ σ) :
    ∃ log, w.Since (r.run site session limit w).2 log ∧
      ∀ number m, Uploads log number m → Posted site r session w.sealings log number m := by
  obtain ⟨log, p, since, sends, -⟩ := run_invariant site r session limit w
    (I := fun s log => Sends site r session w.sealings .idle s.pumps s.world.sealings log)
    (S := fun s log => Sends site r session w.sealings s.doing s.pumps s.world.sealings log)
    (R := fun s log => Sends site r session w.sealings .idle s.pumps s.world.sealings log)
    ⟨rfl, rfl, fun _ _ h => by obtain ⟨_, before, _, split, -⟩ := h; simp at split, trivial,
      fun _ => rfl⟩
    (fun _ h => h)
    (fun now later pump h => ⟨by simpa using h.family_eq, by simpa using h.handle_eq, h.posted,
      by simpa [Sending.Carries] using h.carries,
      fun there => h.counts (by simpa [Sending.active, Pumps.senderLeft] using there)⟩)
    id id
    (fun h move => move.sends h)
    id id
    (fun h move => move.sends h)
  exact ⟨log, since, sends.posted⟩

end Round

end QuorumVault
