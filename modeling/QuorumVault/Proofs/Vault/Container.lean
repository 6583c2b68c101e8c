/-
What is written about a vault is read back.

A vault that was sealed, stored and opened with the same password is the vault it was,
and the task of sending it says what it said.  Both come down to records that are read
member by member; every layer around the vault's JSON undoes itself.
-/
import QuorumVault.Email
import QuorumVault.Proofs.Clock.Moment
import QuorumVault.Proofs.Json.Decoding
import QuorumVault.Vault.Container

namespace QuorumVault

open Json.Decoder

namespace Json.Decoder

variable {α β : Type} {slots : List (Slot α)} {d : Decoder β} {set : β → α → α} {v : Json} {b : β}

theorem Reads.field (h : d.Reads v b) (name : String) : (field name d set).read.Reads v (set b) :=
  h.map set

theorem Reads.optional (h : d.Reads v b) (name : String) :
    (optional name d set).read.Reads v (set b) :=
  h.map set

theorem reads_moment (m : Moment) : moment.Reads (.string m.text) m := by
  refine reads_stringWith ?_
  rw [Moment.ofText_text]
  rfl

end Json.Decoder

theorem LibType.reads (t : LibType) : LibType.decoder.Reads (.string t.label) t := by
  cases t with
  | gg20 => exact reads_choice rfl
  | dkls => exact reads_choice rfl

theorem KeyShare.reads (k : KeyShare) : KeyShare.decoder.Reads k.toJson k := by
  refine reads_record ?_
  refine .member rfl rfl ((reads_string _).field _) ?_
  refine .member rfl rfl ((reads_string _).field _) ?_
  exact .complete rfl

/-- A vault is read as it was written. -/
theorem Vault.reads (v : Vault) : Vault.decoder.Reads v.toJson v := by
  have mark : string.option.Reads (v.resharePrefix.elim .null .string) v.resharePrefix := by
    cases v.resharePrefix with
    | none => exact reads_none string
    | some s => exact reads_some_string s
  refine reads_record ?_
  refine .member rfl rfl ((reads_string _).field _) ?_
  refine .member rfl rfl ((reads_string _).field _) ?_
  refine .member rfl rfl ((reads_string _).field _) ?_
  refine .member rfl rfl ((reads_string _).field _) ?_
  refine .member rfl rfl ((reads_list fun s _ => reads_string s).field _) ?_
  refine .member rfl rfl ((reads_string _).field _) ?_
  refine .member rfl rfl ((reads_list fun k _ => KeyShare.reads k).field _) ?_
  refine .member rfl rfl ((LibType.reads _).field _) ?_
  refine .member rfl rfl ((reads_moment _).field _) ?_
  refine .member rfl rfl (mark.optional _) ?_
  exact .complete rfl

theorem Container.reads (c : Container) (small : c.version < 2 ^ 32) :
    Container.decoder.Reads c.toJson c := by
  refine reads_record ?_
  refine .member rfl rfl ((reads_natural (by decide) small).field _) ?_
  refine .member rfl rfl ((reads_string _).field _) ?_
  refine .member rfl rfl ((reads_bool _).field _) ?_
  exact .complete rfl

theorem EmailBackupTask.reads (t : EmailBackupTask) :
    EmailBackupTask.decoder.Reads t.toJson t := by
  refine reads_record ?_
  refine .member rfl rfl ((reads_string _).field _) ?_
  refine .member rfl rfl ((reads_string _).field _) ?_
  refine .member rfl rfl ((reads_string _).field _) ?_
  refine .member rfl rfl ((reads_string _).field _) ?_
  exact .complete rfl

/-- The queue's side reads from the payload what was put into it. -/
theorem EmailBackupTask.parse_payload (t : EmailBackupTask) :
    EmailBackupTask.decoder.parse t.payload = .ok t :=
  t.reads.parse

/-! ### Opening what was sealed -/

namespace Container

/-- A container is read as it was written, whatever white space stands around it. -/
theorem ofBytes_append_text_append {c : Container} (small : c.version < 2 ^ 32)
    {before after : String} (hbefore : Text.Blank before) (hafter : Text.Blank after) :
    ofBytes (Utf8.encode (before ++ c.text ++ after)) = .ok c := by
  have whole := (c.reads small).parse
  have trimmed : Text.trim (before ++ c.text ++ after) = c.text :=
    Text.trim_append_append hbefore hafter fun _ => Base64.isBlank_of_mem_encode
  unfold ofBytes
  simp only [Utf8.decode_encode, mapError_ok, bind, Except.bind, trimmed]
  rw [text, Base64.decode_encode]
  simp only [mapError_ok, whole]

theorem ofBytes_text (c : Container) (small : c.version < 2 ^ 32) :
    ofBytes (Utf8.encode c.text) = .ok c := by
  have none : Text.Blank "" := by decide
  have bare : "" ++ c.text ++ "" = c.text := by simp
  rw [← bare, ofBytes_append_text_append small none none]

theorem version_ofVault (v : Vault) (password : String) (nonce : Sealing.Nonce) :
    (ofVault v password nonce).version < 2 ^ 32 := by
  show currentVersion < 2 ^ 32
  decide

/-- The password with which a vault was sealed opens it. -/
theorem toVault_ofVault (v : Vault) (password : String) (nonce : Sealing.Nonce) :
    (ofVault v password nonce).toVault password = .ok v := by
  have whole := v.reads.parse
  have current : ¬(ofVault v password nonce).version ≠ currentVersion := not_not_intro rfl
  unfold toVault
  rw [if_neg current]
  simp only [plaintext, ofVault, Base64.decode_encode, mapError_ok, bind, Except.bind,
    if_pos, Sealing.Key.unseal_seal, whole]

/-- A vault that was sealed and stored is opened as it was. -/
theorem openBytes_text_ofVault (v : Vault) (password : String) (nonce : Sealing.Nonce) :
    openBytes (Utf8.encode (ofVault v password nonce).text) password = .ok v := by
  unfold openBytes
  simp only [ofBytes_text _ (version_ofVault ..), bind, Except.bind, toVault_ofVault]

end Container

end QuorumVault
