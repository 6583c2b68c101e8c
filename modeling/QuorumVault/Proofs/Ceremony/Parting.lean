/-
What the relay says at the end does not matter.

A relay can be overruled in what it answers to the calls with which a member leaves.  Up
to the success of both rounds there are no such calls, so nothing changes; afterwards
the answers are logged and forgotten.  The run ends as it would have ended, and logs
the same but for these answers.
-/
import QuorumVault.Proofs.Ceremony.Creation
import QuorumVault.Proofs.Round.Sites
import QuorumVault.Proofs.Run.Alike

namespace QuorumVault

open Run

variable {ε ρ σ : Type}

/-- The relay with other answers to the calls with which a member leaves. -/
def Relay.overruled (relay : Relay ρ)
    (other : ρ → Time → (c : Relay.Call) → Except Error c.Answer) : Relay ρ where
  ask s t c :=
    ((relay.ask s t c).1, if c.parts then other s t c else (relay.ask s t c).2.1,
      (relay.ask s t c).2.2)

/-- The site whose relay has other answers to the calls with which a member leaves. -/
def Site.overruled (site : Site ε ρ σ)
    (other : ρ → Time → (c : Relay.Call) → Except Error c.Answer) : Site ε ρ σ :=
  { site with relay := site.relay.overruled other }

variable (site : Site ε ρ σ) (other : ρ → Time → (c : Relay.Call) → Except Error c.Answer)

/-! ### Calls -/

theorem World.askRelay_overruled {c : Relay.Call} (stays : c.parts = false) (w : World ε ρ σ) :
    w.askRelay (site.overruled other) c = w.askRelay site c := by
  have same : (site.overruled other).relay.ask w.relay w.now c = site.relay.ask w.relay w.now c := by
    show (_, (if c.parts then _ else _), _) = _
    rw [stays, if_neg Bool.false_ne_true]
  unfold World.askRelay
  rw [same]

theorem Run.askRelay_overruled {c : Relay.Call} (stays : c.parts = false) :
    Run.askRelay (site.overruled other) c = Run.askRelay site c := by
  funext limit w
  unfold Run.askRelay
  rw [World.askRelay_overruled site other stays]

/-! ### Rounds -/

namespace Round

variable (r : Round)

/-- A round makes no call with which a member leaves. -/
theorem run_overruled : Round.run (site.overruled other) r = Round.run site r := by
  have same : r.SameSite site (site.overruled other) := {
    engine := fun _ _ _ => rfl
    upload := fun w _ => World.askRelay_overruled site other rfl w
    download := fun w => World.askRelay_overruled site other rfl w
    delete := fun w _ => World.askRelay_overruled site other rfl w
    nonce := rfl
    receiverFirst := rfl
    patience := rfl }
  exact same.run_eq

theorem fetchSetup_overruled : r.fetchSetup (site.overruled other) = r.fetchSetup site := by
  unfold fetchSetup
  rw [Run.askRelay_overruled site other rfl]

end Round

/-! ### Creating a vault -/

namespace Keygen

variable (config : EngineConfig) (request : KeygenRequest)

theorem attempt_overruled (committee : List String) (family : Family) :
    attempt (site.overruled other) config request committee family =
      attempt site config request committee family := by
  have sessions (opening : Session.Opening) (work : Session → Run ε ρ σ Bytes) :
      Session.withSession (site.overruled other) family opening work =
        Session.withSession site family opening work := by
    cases opening <;> rfl
  have chains (raw : Bytes) :
      chainCode (site.overruled other) raw family = chainCode site raw family := by
    cases family <;> rfl
  unfold attempt
  simp only [Round.fetchSetup_overruled, Round.run_overruled, sessions, chains]
  rfl

theorem rounds_overruled :
    rounds (site.overruled other) config request = rounds site config request := by
  have attempted (committee : List String) (family : Family) :
      attempts (site.overruled other) config request committee family =
        attempts site config request committee family := by
    unfold attempts
    simp only [attempt_overruled]
  have gathers : gather (site.overruled other) config request = gather site config request := by
    have start := Run.askRelay_overruled site other
      (rfl : (Relay.Call.start request.sessionId config.timeouts.keygenSessionStart).parts = false)
    have register := Run.askRelay_overruled site other
      (rfl : (Relay.Call.register request.sessionId request.localPartyId).parts = false)
    unfold gather
    rw [start, register]
  unfold rounds
  rw [gathers]
  simp only [attempted]

/-- Answers to the calls with which a member leaves. -/
def hides : Event → Bool
  | .answered c _ => c.parts
  | _ => false

theorem leave_overruled (committee : List String) :
    Run.Alike hides (· = ·) (leave site request committee)
      (leave (site.overruled other) request committee) := by
  refine .bind (.attempt_askRelay (fun _ _ => rfl) (fun _ _ => rfl) fun _ => rfl) fun _ _ _ => ?_
  refine .bind (.attempt_askRelay (fun _ _ => rfl) (fun _ _ => rfl) fun _ => rfl) fun _ _ _ => ?_
  exact .done rfl

theorem store_overruled (m : Made) :
    Run.Alike hides (· = ·) (store site config request m)
      (store (site.overruled other) config request m) := by
  have sends (fileName content : String) : Run.Alike hides (fun _ _ => True)
      (sendBackup site config request fileName content)
      (sendBackup (site.overruled other) config request fileName content) := by
    show Run.Alike _ _ _ (sendBackup site config request fileName content)
    unfold sendBackup
    cases emailTask? site config request fileName content with
    | none => exact .done trivial
    | some task => exact .record (.inl rfl)
  have saves (fileName content : String) : Run.Alike hides (· = ·)
      (save site config request m fileName content)
      (save (site.overruled other) config request m fileName content) := by
    refine .bind (.askStorage site _) fun _ _ _ => ?_
    exact .bind (sends fileName content) fun _ _ _ => .done rfl
  refine .bind .now ?_
  rintro now _ rfl
  refine .bind (.ofExcept _) ?_
  rintro v _ rfl
  refine .bind (.nonce site) ?_
  rintro nonce _ rfl
  exact saves _ _

/-- Whatever else the relay answers at the end, the run ends the same and logs the same but for these
answers. -/
theorem createVault_overruled (limit : Option Time) (w : World ε ρ σ) :
    (createVault (site.overruled other) config request limit w).1 =
        (createVault site config request limit w).1 ∧
      ∃ log log', w.Since (createVault site config request limit w).2 log ∧
        w.Since (createVault (site.overruled other) config request limit w).2 log' ∧
        log.filter (!hides ·) = log'.filter (!hides ·) := by
  rw [createVault_eq, createVault_eq, rounds_overruled]
  obtain ⟨early, since, -⟩ := rounds_keeps site config request limit w
  have rest (m : Made) := Alike.bind (leave_overruled site other request m.committee)
    fun _ _ _ => store_overruled site other config request m
  rcases bind_cases (rounds site config request)
    (fun m => leave site request m.committee >>= fun _ => store site config request m) limit w with
    ⟨m, w₁, hm, goes⟩ | ⟨e, e', w₁, hm, ends, stops⟩
  · rw [hm] at since
    obtain ⟨log, log', later, later', same, -, ends⟩ := rest m limit w₁ w₁ (.refl w₁)
    rw [goes, bind_of_done hm]
    refine ⟨ends.eq.symm, _, _, since.trans later, since.trans later', ?_⟩
    rw [List.filter_append, List.filter_append, same]
  · rw [hm] at since
    rw [ends, bind_of_stops hm stops]
    exact ⟨rfl, early, early, since, since, rfl⟩

end Keygen

end QuorumVault
