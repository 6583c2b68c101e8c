/-
What can be sealed and opened, and what it fails with.

A session key may be spelled in many ways: white space around it and the case of its letters do not count.
What one member has sealed under one spelling opens for another one under any other, and white space that
the message caught in transit does not count either.  Whether anything can be sealed or opened is up to the
key first, so under a text that spells no key everything fails in one way.  Under a key, messages that are
not base64 are told apart from all others that do not open: only for them it is no use to try again.
-/
import QuorumVault.Cipher.Sealing
import QuorumVault.Proofs.Encoding.Base64
import QuorumVault.Proofs.Encoding.Hex

namespace QuorumVault.Sealing

open Text (Blank)

variable {key : Key} {keyText text : String} {nonce nonce' : Nonce} {message message' : Bytes}
  {fault : Fault}

/-! ### Session keys -/

/-- The text is the key in hexadecimal, but for white space around it and the case of letters. -/
def Key.SpelledBy (key : Key) (text : String) : Prop :=
  (Text.trim text).toLower = Hex.encode key.bytes

instance (key : Key) (text : String) : Decidable (key.SpelledBy text) :=
  instDecidableEqString _ _

/-- A key is read from its spellings and from nothing else. -/
theorem Key.ofText_eq_ok_iff : Key.ofText keyText = .ok key ↔ key.SpelledBy keyText := by
  unfold SpelledBy
  rw [← Hex.decode_eq_ok_iff]
  unfold ofText
  cases Hex.decode (Text.trim keyText) with
  | error fault => exact iff_of_false nofun nofun
  | ok bytes =>
      obtain ⟨keyBytes, length⟩ := key
      by_cases h : bytes.length = 32
      · simp [h]
      · simp only [h, dite_false]
        refine iff_of_false nofun ?_
        rintro ⟨⟩
        exact h length

/-- What spells a key are 64 digits. -/
theorem Key.exists_spelledBy_iff : (∃ key : Key, key.SpelledBy keyText) ↔
    Hex.Digits (Text.trim keyText) ∧ (Text.trim keyText).length = 64 := by
  unfold SpelledBy
  simp only [← Hex.decode_eq_ok_iff]
  constructor
  · rintro ⟨key, read⟩
    refine ⟨Hex.exists_decode_iff.1 ⟨_, read⟩, ?_⟩
    rw [Hex.length_of_decode read, key.length_bytes]
  · rintro ⟨digits, length⟩
    obtain ⟨bytes, read⟩ := Hex.exists_decode_iff.2 digits
    rw [Hex.length_of_decode read] at length
    exact ⟨⟨bytes, by omega⟩, read⟩

/-- A text that spells no key is refused as no key. -/
theorem Key.ofText_error (failed : Key.ofText keyText = .error fault) :
    ∃ detail, fault.error = .of .crypto detail := by
  unfold ofText at failed
  split at failed
  · cases failed
    exact ⟨_, rfl⟩
  · split at failed
    · cases failed
    · cases failed
      exact ⟨_, rfl⟩

/-! ### Sealing -/

/-- Whether something can be sealed is a matter of the key alone. -/
theorem encode_eq_error_iff : encode keyText nonce message = .error fault ↔
    Key.ofText keyText = .error fault := by
  unfold encode
  cases h : Key.ofText keyText <;> simp [bind, Except.bind, pure, Except.pure]

/-- Something was sealed, so everything can be. -/
theorem encode_ne_error {body : String} (sealed : encode keyText nonce message = .ok body) :
    encode keyText nonce' message' ≠ .error fault := by
  intro failed
  rw [encode_eq_error_iff] at failed
  unfold encode at sealed
  rw [failed] at sealed
  cases sealed

theorem encode_of_spelledBy (spelled : key.SpelledBy keyText) :
    encode keyText nonce message = .ok (Base64.encode (key.seal nonce message)) := by
  unfold encode
  rw [Key.ofText_eq_ok_iff.2 spelled]
  rfl

/-! ### Opening -/

theorem exists_key_of_decode (h : decode keyText text = .ok message) :
    ∃ key, Key.ofText keyText = .ok key := by
  unfold decode at h
  cases keyed : Key.ofText keyText with
  | ok key => exact ⟨key, rfl⟩
  | error fault =>
      rw [keyed] at h
      cases h

theorem decode_of_ofText_error (failed : Key.ofText keyText = .error fault) (text : String) :
    decode keyText text = .error fault := by
  unfold decode
  rw [failed]
  rfl

/-- What is base64 is opened with the key. -/
theorem decode_of_encoded {sealed : Bytes} (spelled : key.SpelledBy keyText)
    (encoded : Text.trim text = Base64.encode sealed) : decode keyText text = key.unseal sealed := by
  unfold decode
  rw [Key.ofText_eq_ok_iff.2 spelled, encoded, Base64.decode_encode]
  rfl

/-- What is not is refused for that. -/
theorem decode_of_not_canonical (spelled : key.SpelledBy keyText)
    (other : ¬Base64.Canonical (Text.trim text).toList) :
    ∃ fault, decode keyText text = .error (.encoding fault) := by
  cases read : Base64.decode (Text.trim text) with
  | ok sealed => exact absurd (Base64.exists_decode_iff.1 ⟨sealed, read⟩) other
  | error fault =>
      refine ⟨fault, ?_⟩
      unfold decode
      rw [Key.ofText_eq_ok_iff.2 spelled, read]
      rfl

theorem exists_encoded (canonical : Base64.Canonical (Text.trim text).toList) :
    ∃ sealed, Text.trim text = Base64.encode sealed := by
  obtain ⟨sealed, read⟩ := Base64.exists_decode_iff.2 canonical
  exact ⟨sealed, Base64.decode_eq_ok_iff.1 read⟩

/-- With the right key it is the data's fault, or another key's. -/
theorem Key.unseal_error {sealed : Bytes} (failed : key.unseal sealed = .error fault) :
    ∃ detail, fault.error = .of .crypto detail := by
  unfold Key.unseal at failed
  split at failed
  · cases failed
    exact ⟨_, rfl⟩
  · split at failed
    · cases failed
    · cases failed
      exact ⟨_, rfl⟩

/-- A message in transit opens under every spelling of the key, with white space around it. -/
theorem decode_surrounded (spelled : key.SpelledBy keyText) {before after : String}
    (front : Blank before) (back : Blank after) :
    decode keyText (before ++ Base64.encode (key.seal nonce message) ++ after) = .ok message := by
  have solid : ∀ c ∈ (Base64.encode (key.seal nonce message)).toList, Text.isBlank c = false :=
    fun c => Base64.isBlank_of_mem_encode
  have trimmed := Text.trim_append_append front back solid
  rw [decode_of_encoded spelled trimmed, Key.unseal_seal]

/-- How opening a message fails under a key. -/
theorem decode_failure {err : Error} (spelled : key.SpelledBy keyText)
    (failed : (decode keyText text).mapError Fault.error = .error err) :
    ((¬Base64.Canonical (Text.trim text).toList) ∧ ∃ detail, err = .of .serialization detail) ∨
      (Base64.Canonical (Text.trim text).toList ∧ ∃ detail, err = .of .crypto detail) := by
  by_cases canonical : Base64.Canonical (Text.trim text).toList
  · obtain ⟨sealed, encoded⟩ := exists_encoded canonical
    rw [decode_of_encoded spelled encoded] at failed
    cases opened : key.unseal sealed with
    | ok message =>
        rw [opened] at failed
        cases failed
    | error fault =>
        rw [opened] at failed
        cases failed
        exact .inr ⟨canonical, Key.unseal_error opened⟩
  · obtain ⟨fault, refused⟩ := decode_of_not_canonical spelled canonical
    rw [refused] at failed
    cases failed
    exact .inl ⟨canonical, _, rfl⟩

/-! ### What sealing is worth -/

/-- What comes of messages in transit under the text of a key. -/
structure InTransit (keyText : String) : Prop where
  /-- The text spells a key if it is 64 digits, white space around them aside. -/
  key_iff : (∃ key : Key, key.SpelledBy keyText) ↔
    Hex.Digits (Text.trim keyText) ∧ (Text.trim keyText).length = 64
  /-- Then everything can be sealed, and opens under every spelling of the key and with white space
  around it. -/
  opens : ∀ key : Key, key.SpelledBy keyText → ∀ nonce message, ∃ text sealed,
    encode keyText nonce message = .ok text ∧
    Base64.decode text = .ok sealed ∧ sealed.length = message.length + 28 ∧
    ∀ other before after, key.SpelledBy other → Blank before → Blank after →
      decode other (before ++ text ++ after) = .ok message
  /-- What is malformed if it is not base64 is not so for another reason. -/
  malformed_iff : ∀ key : Key, key.SpelledBy keyText → ∀ text,
    (∃ detail, (decode keyText text).mapError Fault.error = .error (.of .serialization detail)) ↔
      ¬Base64.Canonical (Text.trim text).toList
  /-- Everything else that does not open has another key or is not what was sealed. -/
  failure : ∀ key : Key, key.SpelledBy keyText → ∀ text err,
    (decode keyText text).mapError Fault.error = .error err →
    Base64.Canonical (Text.trim text).toList → ∃ detail, err = .of .crypto detail
  /-- So it is no use to try again exactly with what is not base64. -/
  retryable_iff : ∀ key : Key, key.SpelledBy keyText → ∀ text err,
    (decode keyText text).mapError Fault.error = .error err →
    (err.retryable = false ↔ ¬Base64.Canonical (Text.trim text).toList)
  /-- If the text spells no key, sealing and opening fail in one way, whatever it is. -/
  refused : (¬∃ key : Key, key.SpelledBy keyText) → ∃ detail, ∀ nonce message text,
    (encode keyText nonce message).mapError Fault.error = .error (.of .crypto detail) ∧
    (decode keyText text).mapError Fault.error = .error (.of .crypto detail)

theorem malformed_iff (spelled : key.SpelledBy keyText) :
    (∃ detail, (decode keyText text).mapError Fault.error = .error (.of .serialization detail)) ↔
      ¬Base64.Canonical (Text.trim text).toList := by
  constructor
  · rintro ⟨detail, failed⟩
    rcases decode_failure spelled failed with ⟨other, -⟩ | ⟨-, _, kind⟩
    · exact other
    · cases kind
  · intro other
    obtain ⟨fault, refused⟩ := decode_of_not_canonical spelled other
    rw [refused]
    exact ⟨_, rfl⟩

theorem retryable_iff {err : Error} (spelled : key.SpelledBy keyText)
    (failed : (decode keyText text).mapError Fault.error = .error err) :
    err.retryable = false ↔ ¬Base64.Canonical (Text.trim text).toList := by
  rcases decode_failure spelled failed with ⟨other, detail, rfl⟩ | ⟨canonical, detail, rfl⟩
  · exact iff_of_true rfl other
  · exact iff_of_false nofun (not_not_intro canonical)

theorem refused_of_no_key (none : ¬∃ key : Key, key.SpelledBy keyText) :
    ∃ detail, ∀ nonce message text,
      (encode keyText nonce message).mapError Fault.error = .error (.of .crypto detail) ∧
      (decode keyText text).mapError Fault.error = .error (.of .crypto detail) := by
  cases read : Key.ofText keyText with
  | ok key => exact absurd ⟨key, Key.ofText_eq_ok_iff.1 read⟩ none
  | error fault =>
      obtain ⟨detail, kind⟩ := Key.ofText_error read
      refine ⟨detail, fun nonce message text => ?_⟩
      rw [encode_eq_error_iff.2 read, decode_of_ofText_error read text, ← kind]
      exact ⟨rfl, rfl⟩

/-- Messages open under every spelling of the key that they were sealed with, and what was sealed with a
password or with bytes opens with them. -/
theorem sealed_opens :
    (∀ keyText, InTransit keyText) ∧
    (∀ password nonce message,
      ((Key.ofPassword password).seal nonce message).length = message.length + 28 ∧
      (Key.ofPassword password).unseal ((Key.ofPassword password).seal nonce message) = .ok message) ∧
    (∀ bytes : Bytes, bytes.length = 32 → ∀ nonce message, ∃ sealed,
      (Key.ofBytes bytes).map (·.seal nonce message) = .ok sealed ∧
      sealed.length = message.length + 28 ∧ unsealWith bytes sealed = .ok message) := by
  refine ⟨fun keyText => ?_, fun password nonce message => ?_, fun bytes length nonce message => ?_⟩
  · constructor
    · exact Key.exists_spelledBy_iff
    · intro key spelled nonce message
      refine ⟨_, _, encode_of_spelledBy spelled, Base64.decode_encode _, Key.length_seal .., ?_⟩
      intro other before after spelled'
      exact decode_surrounded spelled'
    · intro key spelled text
      exact malformed_iff spelled
    · intro key spelled text err failed canonical
      rcases decode_failure spelled failed with ⟨other, -⟩ | ⟨-, kind⟩
      · exact absurd canonical other
      · exact kind
    · intro key spelled text err
      exact retryable_iff spelled
    · exact refused_of_no_key
  · exact ⟨Key.length_seal .., Key.unseal_seal ..⟩
  · have made : Key.ofBytes bytes = .ok ⟨bytes, length⟩ := dif_pos length
    let key : Key := ⟨bytes, length⟩
    refine ⟨key.seal nonce message, by rw [made]; rfl, Key.length_seal .., ?_⟩
    unfold unsealWith
    rw [if_neg (by rw [Key.length_seal]; unfold Gcm.nonceLength; omega), made]
    exact Key.unseal_seal ..

/-- A key in small letters and in capitals, which a line ends behind. -/
theorem sealed_opens_spellings :
    let key : Key := ⟨List.replicate 32 0xab, rfl⟩
    let small := "abababababababababababababababababababababababababababababababab"
    let capital := "ABABABABABABABABABABABABABABABABABABABABABABABABABABABABABABABAB\n"
    let nonce : Nonce := Vector.replicate 12 7
    key.SpelledBy small ∧ key.SpelledBy capital ∧ Blank "\t" ∧ Blank "\n" ∧
      ∃ text, encode small nonce [1, 2, 3] = .ok text ∧
        decode capital ("\t" ++ text ++ "\n") = .ok [1, 2, 3] := by
  intro key small capital nonce
  have spelled : key.SpelledBy small := by decide +kernel
  have spelled' : key.SpelledBy capital := by decide +kernel
  have front : Blank "\t" := by decide
  have back : Blank "\n" := by decide
  obtain ⟨text, _, made, -, -, opens⟩ := (sealed_opens.1 small).opens key spelled nonce [1, 2, 3]
  exact ⟨spelled, spelled', front, back, text, made, opens capital "\t" "\n" spelled' front back⟩

end QuorumVault.Sealing
