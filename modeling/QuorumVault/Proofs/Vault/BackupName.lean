/-
Names of stored vaults are read back.

A key that is hexadecimal holds no dash, so the last dash of a name stands in front of
the key, whatever the plugin is called.  What is read from a name therefore gives the
name again, and no two vaults of different plugins or keys are stored under one name.
-/
import QuorumVault.Proofs.Encoding.Hex
import QuorumVault.Vault.BackupName

namespace QuorumVault.BackupName

/-! ### Taking names apart -/

theorem splitLast?_eq_none {c : Char} {cs : List Char} (none : c ∉ cs) :
    Text.splitLast? c cs = Option.none := by
  induction cs with
  | nil => rfl
  | cons d cs ih =>
      have other : d ≠ c := fun h => none (h ▸ List.mem_cons_self)
      rw [Text.splitLast?, ih fun h => none (List.mem_cons_of_mem _ h)]
      exact if_neg other

/-- The last separator is the one behind which there is none. -/
theorem splitLast?_append {c : Char} (before : List Char) {behind : List Char} (none : c ∉ behind) :
    Text.splitLast? c (before ++ c :: behind) = some (before, behind) := by
  induction before with
  | nil =>
      rw [List.nil_append, Text.splitLast?, splitLast?_eq_none none]
      exact if_pos rfl
  | cons d before ih =>
      rw [List.cons_append, Text.splitLast?, ih]

/-- Either there is no separator or there is a last one. -/
theorem notMem_or_exists_last (c : Char) (cs : List Char) :
    c ∉ cs ∨ ∃ before behind, cs = before ++ c :: behind ∧ c ∉ behind := by
  induction cs with
  | nil => exact .inl nofun
  | cons d cs ih =>
      -- A separator in the rest stands behind this character, so the last one is there if there is any.
      rcases ih with none | ⟨before, behind, rfl, last⟩
      · by_cases same : d = c
        · exact .inr ⟨[], cs, same ▸ rfl, none⟩
        · refine .inl fun mem => ?_
          rcases List.mem_cons.1 mem with here | later
          · exact same here.symm
          · exact none later
      · exact .inr ⟨d :: before, behind, rfl, last⟩

theorem stem?_append (stem : List Char) : stem? (stem ++ ending.toList) = some stem := by
  have ends : ending.toList.isSuffixOf (stem ++ ending.toList) = true := by
    rw [List.isSuffixOf_iff_suffix]
    exact List.suffix_append _ _
  unfold stem?
  rw [if_pos ends, List.length_append, Nat.add_sub_cancel, List.take_left]

theorem stem?_eq_none {cs : List Char} (other : ¬ending.toList <:+ cs) : stem? cs = none := by
  unfold stem?
  exact if_neg fun ends => other (List.isSuffixOf_iff_suffix.1 ends)

theorem toList_text (n : BackupName) :
    n.text.toList = n.pluginId.toList ++ '-' :: n.publicKey.toList ++ ending.toList :=
  String.toList_ofList

/-! ### Keys in hexadecimal -/

/-- What can be a key. -/
structure IsKey (text : String) : Prop where
  filled : text ≠ ""
  digits : Hex.Digits text

theorem isKey_iff {text : String} : isKey text = true ↔ IsKey text := by
  have read : (Hex.decode text).isOk = true ↔ Hex.Digits text := by
    rw [← Hex.exists_decode_iff]
    cases Hex.decode text with
    | ok bytes => exact iff_of_true rfl ⟨bytes, rfl⟩
    | error fault => exact iff_of_false nofun nofun
  unfold isKey
  rw [Bool.and_eq_true, decide_eq_true_eq, read]
  exact ⟨fun ⟨filled, digits⟩ => ⟨filled, digits⟩, fun key => ⟨key.filled, key.digits⟩⟩

theorem IsKey.dash_notMem {text : String} (key : IsKey text) : '-' ∉ text.toList := by
  intro dash
  have digit := key.digits.digits '-' dash
  revert digit
  decide

theorem isKey_encode {bytes : Bytes} (filled : Hex.encode bytes ≠ "") : IsKey (Hex.encode bytes) :=
  ⟨filled, Hex.exists_decode_iff.1 ⟨bytes, Hex.decode_encode bytes⟩⟩

/-! ### Reading names -/

/-- What is wrong with a text that is not the name of a stored vault. -/
inductive Malformed (name : String) : Fault → Prop
  | ending (other : ¬ending.toList <:+ name.toList) : Malformed name .ending
  | noDash {stem : List Char} (split : name.toList = stem ++ BackupName.ending.toList)
      (none : '-' ∉ stem) : Malformed name .noDash
  | notKey {n : BackupName} (split : n.text = name) (last : '-' ∉ n.publicKey.toList)
      (other : ¬IsKey n.publicKey) : Malformed name .notKey

theorem Fault.exists_detail (fault : Fault) : ∃ detail, fault.error = .of .validation detail := by
  cases fault <;> exact ⟨_, rfl⟩

/-- A text is a name, or else something is wrong with it. -/
theorem name_or_malformed (name : String) :
    (∃ n : BackupName, n.text = name ∧ IsKey n.publicKey) ∨ ∃ fault, Malformed name fault := by
  by_cases ends : ending.toList <:+ name.toList
  · obtain ⟨stem, split⟩ := ends
    rcases notMem_or_exists_last '-' stem with none | ⟨plugin, key, rfl, last⟩
    · exact .inr ⟨_, .noDash split.symm none⟩
    · let n : BackupName := ⟨String.ofList plugin, String.ofList key⟩
      have named : n.text = name := by
        rw [← String.toList_inj, toList_text, String.toList_ofList, String.toList_ofList]
        exact split
      by_cases key : IsKey n.publicKey
      · exact .inl ⟨n, named, key⟩
      · refine .inr ⟨_, .notKey named ?_ key⟩
        rw [String.toList_ofList]
        exact last
  · exact .inr ⟨_, .ending ends⟩

/-- What is made of a name whose last dash stands in front of the key. -/
theorem ofText_text_of_last {n : BackupName} (last : '-' ∉ n.publicKey.toList) :
    ofText n.text = if isKey n.publicKey then .ok n else .error .notKey := by
  unfold ofText
  rw [toList_text, stem?_append]
  dsimp only
  rw [splitLast?_append _ last]
  dsimp only
  rw [String.ofList_toList, String.ofList_toList]

/-- A name is read back if its key is one. -/
theorem ofText_text {n : BackupName} (key : IsKey n.publicKey) : ofText n.text = .ok n := by
  rw [ofText_text_of_last key.dash_notMem, if_pos (isKey_iff.2 key)]

/-- A text that is not a name is refused for what is wrong with it. -/
theorem ofText_eq_error {name : String} {fault : Fault} (malformed : Malformed name fault) :
    ofText name = .error fault := by
  cases malformed with
  | ending other =>
      unfold ofText
      rw [stem?_eq_none other]
  | noDash split none =>
      unfold ofText
      rw [split, stem?_append]
      dsimp only
      rw [splitLast?_eq_none none]
  | notKey split last other =>
      rw [← split, ofText_text_of_last last, if_neg fun key => other (isKey_iff.1 key)]

/-- What is read from a name is what it was made of. -/
theorem ofText_eq_ok_iff {name : String} {n : BackupName} :
    ofText name = .ok n ↔ IsKey n.publicKey ∧ n.text = name := by
  constructor
  · intro read
    rcases name_or_malformed name with ⟨n', rfl, key⟩ | ⟨fault, malformed⟩
    · cases (ofText_text key).symm.trans read
      exact ⟨key, rfl⟩
    · cases (ofText_eq_error malformed).symm.trans read
  · rintro ⟨key, rfl⟩
    exact ofText_text key

theorem ofText_eq_error_iff {name : String} {fault : Fault} :
    ofText name = .error fault ↔ Malformed name fault := by
  constructor
  · intro refused
    rcases name_or_malformed name with ⟨n, rfl, key⟩ | ⟨fault', malformed⟩
    · cases (ofText_text key).symm.trans refused
    · cases (ofText_eq_error malformed).symm.trans refused
      exact malformed
  · exact ofText_eq_error

/-- Reading names and making them undo each other: what can be read are the names that are made for
keys, no two of them are the same, and every other text breaks the rules. -/
theorem names_read_back :
    (∀ plugin key, IsKey key → ofText (BackupName.mk plugin key).text = .ok ⟨plugin, key⟩) ∧
    (∀ name n, ofText name = .ok n → IsKey n.publicKey ∧ n.text = name) ∧
    (∀ name, (∃ n, ofText name = .ok n) ↔ ∃ n : BackupName, IsKey n.publicKey ∧ n.text = name) ∧
    (∀ n n' : BackupName, IsKey n.publicKey → IsKey n'.publicKey → n.text = n'.text → n = n') ∧
    (∀ name, (¬∃ n : BackupName, IsKey n.publicKey ∧ n.text = name) ↔
      ∃ fault detail, ofText name = .error fault ∧ Malformed name fault ∧
        fault.error = .of .validation detail) := by
  refine ⟨fun plugin key => ofText_text (n := ⟨plugin, key⟩), fun _ _ => ofText_eq_ok_iff.1, ?_, ?_, ?_⟩
  · intro name
    simp only [ofText_eq_ok_iff]
  · intro n n' key key' same
    have read := ofText_text key
    rw [same, ofText_text key'] at read
    exact (Except.ok.inj read).symm
  · intro name
    constructor
    · intro other
      cases read : ofText name with
      | ok n => exact absurd ⟨n, ofText_eq_ok_iff.1 read⟩ other
      | error fault =>
          obtain ⟨detail, kind⟩ := fault.exists_detail
          exact ⟨fault, detail, rfl, ofText_eq_error_iff.1 read, kind⟩
    · rintro ⟨fault, -, refused, -⟩ ⟨n, key, rfl⟩
      cases (ofText_text key).symm.trans refused

/-- A plugin's name that looks like the name of a stored vault is no trouble. -/
theorem names_read_back_nested :
    IsKey "02aBcD" ∧ ofText "pay-roll-00ff.vult-02aBcD.vult" = .ok ⟨"pay-roll-00ff.vult", "02aBcD"⟩ := by
  have key : IsKey "02aBcD" := ⟨by decide, by decide⟩
  exact ⟨key, names_read_back.1 "pay-roll-00ff.vult" "02aBcD" key⟩

/-- A vault's name is read back if its key was written in hexadecimal. -/
theorem ofText_text_encode (plugin : String) {bytes : Bytes} (some : Hex.encode bytes ≠ "") :
    ofText (BackupName.mk plugin (Hex.encode bytes)).text = .ok ⟨plugin, Hex.encode bytes⟩ :=
  ofText_text (n := ⟨plugin, Hex.encode bytes⟩) (isKey_encode some)

/-- Vaults of one plugin are stored under one name only if they have one key, whatever that is. -/
theorem text_inj {plugin a b : String}
    (same : (BackupName.mk plugin a).text = (BackupName.mk plugin b).text) : a = b := by
  have chars := congrArg String.toList same
  rw [toList_text, toList_text, List.append_assoc, List.append_assoc] at chars
  have behind := List.append_cancel_left chars
  rw [List.cons_append, List.cons_append] at behind
  exact String.toList_inj.1 (List.append_cancel_right (List.cons.inj behind).2)

end QuorumVault.BackupName
