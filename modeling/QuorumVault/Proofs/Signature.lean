/-
Nothing of an engine's signature is lost in a response.

The parts of a response put together again are the bytes of the engine, so no two signatures make one
response, and whoever checks a response checks these bytes.  The form for transactions of an ECDSA
signature is the shortest of its kind and gives the same two numbers back.
-/
import QuorumVault.Proofs.Encoding.Der
import QuorumVault.Proofs.Encoding.Hex

namespace QuorumVault.Signature

open Der (content element pair? signed)

variable {family family' : Family} {message message' : String} {raw raw' : Bytes} {x : KeysignResponse}

/-- The first number of a signature. -/
def firstNumber (raw : Bytes) : Nat :=
  Bytes.bigEndian (raw.take 32)

/-- The second number of a signature. -/
def secondNumber (raw : Bytes) : Nat :=
  Bytes.bigEndian ((raw.drop 32).take 32)

/-- The bytes are a signature of the family. -/
def IsSignature : Family → Bytes → Prop
  | .ecdsa, raw => raw.length = 65 ∧ Secp256k1.InRange (firstNumber raw) ∧
      Secp256k1.InRange (secondNumber raw)
  | .eddsa, raw => raw.length = 64

/-- The form for transactions. -/
def form : Family → Bytes → Bytes
  | .ecdsa, raw => der (firstNumber raw) (secondNumber raw)
  | .eddsa, raw => raw

/-- The response that spells the parts of a signature. -/
def spelled (family : Family) (message : String) (raw : Bytes) : KeysignResponse where
  msg := message
  r := Hex.encode (raw.take 32)
  s := Hex.encode ((raw.drop 32).take 32)
  derSignature := Hex.encode (form family raw)
  recoveryId := Hex.encode (raw.drop 64)

/-! ### Parts -/

/-- The two numbers stand one behind the other. -/
theorem take_append_take (raw : Bytes) : raw.take 32 ++ (raw.drop 32).take 32 = raw.take 64 :=
  (List.take_add (i := 32) (j := 32)).symm

theorem parts_append (raw : Bytes) :
    raw.take 32 ++ (raw.drop 32).take 32 ++ raw.drop 64 = raw := by
  rw [take_append_take, List.take_append_drop]

theorem length_of_isSignature (is : IsSignature family raw) : raw.length = outputLength family := by
  cases family with
  | ecdsa => exact is.1
  | eddsa => exact is

/-- The first 64 bytes are read as the two numbers, if these are in range. -/
theorem ofBytes?_take_eq (length : 64 ≤ raw.length) : Secp256k1.Signature.ofBytes? (raw.take 64) =
    if h : Secp256k1.InRange (firstNumber raw) ∧ Secp256k1.InRange (secondNumber raw) then
      some ⟨firstNumber raw, secondNumber raw, h.1, h.2⟩ else none := by
  have first : (raw.take 64).take 32 = raw.take 32 := List.take_take
  have second : (raw.take 64).drop 32 = (raw.drop 32).take 32 := List.drop_take
  have whole : (raw.take 64).length = 64 := by
    rw [List.length_take]
    omega
  unfold Secp256k1.Signature.ofBytes?
  simp only [first, second, whole, true_and]
  rfl

/-! ### Responses -/

/-- A response is made of a signature, and of nothing else. -/
theorem respond_eq_ok_iff : respond family message raw = .ok x ↔
    IsSignature family raw ∧ x = spelled family message raw := by
  unfold respond
  by_cases length : raw.length = outputLength family
  · rw [if_neg (not_not_intro length)]
    cases family with
    | ecdsa =>
        have length : raw.length = 65 := length
        dsimp only
        rw [ofBytes?_take_eq (by omega)]
        by_cases inRange : Secp256k1.InRange (firstNumber raw) ∧ Secp256k1.InRange (secondNumber raw)
        · rw [dif_pos inRange]
          simp [IsSignature, length, inRange, spelled, form, eq_comm]
        · rw [dif_neg inRange]
          exact iff_of_false nofun fun is => inRange is.1.2
    | eddsa =>
        have length : raw.length = 64 := length
        have none : raw.drop 64 = [] := List.drop_eq_nil_of_le (Nat.le_of_eq length)
        simp [IsSignature, length, spelled, form, none, eq_comm]
        rfl
  · rw [if_pos length]
    exact iff_of_false nofun fun is => length (length_of_isSignature is.1)

/-- What is no signature is the engine's fault. -/
theorem OutputFault.exists_detail (fault : OutputFault) : ∃ detail, fault.error = .of .engine detail := by
  rcases fault with ⟨_ | _, n⟩ | _ <;> exact ⟨_, rfl⟩

/-! ### Checking -/

/-- Checks an ECDSA signature of a digest that is given as bytes. -/
def checkEcdsaBytes (publicKey : String) (digest signature : Bytes) : Except Fault Unit := do
  match Secp256k1.Point.ofBytes? (← hex publicKey) with
  | none => throw .ecdsaKey
  | some key =>
    match Secp256k1.Signature.ofBytes? signature with
    | none => throw .ecdsaFormat
    | some signature =>
      if Secp256k1.verify key digest signature then return () else throw .ecdsaMismatch

/-- Checks an Ed25519 signature of a message that is given as bytes. -/
def checkEddsaBytes (publicKey : String) (message signature : Bytes) : Except Fault Unit := do
  let keyBytes ← hex publicKey
  if keyBytes.length ≠ 32 then throw .eddsaKeyLength
  match Edwards25519.Point.ofBytes? keyBytes with
  | none => throw .eddsaKey
  | some key =>
    if signature.length ≠ 64 then throw .eddsaFormat
    match Edwards25519.verify keyBytes key message signature with
    | .good => return ()
    | .numberTooLarge => throw .eddsaNumber
    | .mismatch => throw .eddsaMismatch

theorem hex_encode (bytes : Bytes) : hex (Hex.encode bytes) = .ok bytes := by
  unfold hex
  rw [Hex.decode_encode]
  rfl

theorem joined_encode (bytes bytes' : Bytes) :
    joined (Hex.encode bytes) (Hex.encode bytes') = .ok (bytes ++ bytes') := by
  unfold joined
  rw [hex_encode, hex_encode]
  rfl

/-- The numbers of a response are those of the first 64 bytes. -/
theorem joined_spelled (family : Family) (message : String) (raw : Bytes) :
    joined (spelled family message raw).r (spelled family message raw).s = .ok (raw.take 64) := by
  rw [← take_append_take]
  exact joined_encode ..

theorem checkEcdsa_of_joined {r s : String} {signature : Bytes} (read : joined r s = .ok signature)
    (publicKey : String) (digest : Bytes) :
    checkEcdsa publicKey digest r s = checkEcdsaBytes publicKey digest signature := by
  unfold checkEcdsa checkEcdsaBytes
  rw [read]
  rfl

theorem checkEddsa_of_joined {r s : String} {signature : Bytes} (read : joined r s = .ok signature)
    (publicKey : String) (message : Bytes) :
    checkEddsa publicKey message r s = checkEddsaBytes publicKey message signature := by
  unfold checkEddsa checkEddsaBytes
  refine bind_congr fun keyBytes => ?_
  -- The curve is kept closed: what it computes does not matter here.
  generalize Edwards25519.Point.ofBytes? keyBytes = point
  generalize Edwards25519.verify keyBytes = verify
  rw [read]
  cases point with
  | none => rfl
  | some key => rfl

/-- Under a key that is one, an ECDSA signature is good or not, and nothing else can be wrong. -/
theorem checkEcdsaBytes_eq {publicKey : String} {bytes : Bytes} {key : Secp256k1.Point}
    {signature : Secp256k1.Signature} {signatureBytes : Bytes}
    (read : Hex.decode publicKey = .ok bytes) (isKey : Secp256k1.Point.ofBytes? bytes = some key)
    (isSignature : Secp256k1.Signature.ofBytes? signatureBytes = some signature) (digest : Bytes) :
    checkEcdsaBytes publicKey digest signatureBytes =
      if Secp256k1.verify key digest signature then .ok () else .error .ecdsaMismatch := by
  unfold checkEcdsaBytes hex
  rw [read, isSignature]
  simp only [mapError_ok, bind, Except.bind, isKey]
  rfl

/-! ### What a response holds -/

/-- The two numbers in the form for transactions: a sequence of two integers, each in as few bytes as
any that stand for it, from which the same numbers are read and no other ones. -/
structure Distinguished (bytes : Bytes) (r s : Nat) : Prop where
  sequence : ∃ first second,
    bytes = element 0x30 (element 0x02 first ++ element 0x02 second) ∧
      (signed first = r ∧ ∀ other, other ≠ [] → signed other = r → first.length ≤ other.length) ∧
      (signed second = s ∧ ∀ other, other ≠ [] → signed other = s → second.length ≤ other.length)
  read_iff : ∀ other, pair? other = some ((r : Int), (s : Int)) ↔ other = bytes

theorem distinguished_der {r s : Nat} (small : r < 2 ^ 256) (small' : s < 2 ^ 256) :
    Distinguished (der r s) r s where
  sequence := ⟨content r, content s, Der.der_eq r s,
    ⟨Der.signed_content r, fun _ => Der.length_content_le⟩,
    ⟨Der.signed_content s, fun _ => Der.length_content_le⟩⟩
  read_iff _ := Der.pair?_eq_some_iff small small'

theorem lt_of_inRange {n : Nat} (inRange : Secp256k1.InRange n) : n < 2 ^ 256 :=
  Nat.lt_trans inRange.2 (by decide)

/-- What a response says of a signature. -/
structure Holds (family : Family) (message : String) (raw : Bytes) (x : KeysignResponse) : Prop where
  message : x.msg = message
  parts : ∃ r s recovery, Hex.decode x.r = .ok r ∧ Hex.decode x.s = .ok s ∧
    Hex.decode x.recoveryId = .ok recovery ∧ r ++ s ++ recovery = raw ∧ r.length = 32 ∧ s.length = 32
  recoveryId : family = .eddsa → x.recoveryId = ""
  /-- For ECDSA the form for transactions is the distinguished one of the two numbers. -/
  ecdsaForm : family = .ecdsa → ∃ bytes, x.derSignature = Hex.encode bytes ∧
    Distinguished bytes (firstNumber raw) (secondNumber raw)
  eddsaForm : family = .eddsa → x.derSignature = Hex.encode raw
  checked : ∀ publicKey signedBytes,
    checkEcdsa publicKey signedBytes x.r x.s = checkEcdsaBytes publicKey signedBytes (raw.take 64) ∧
    checkEddsa publicKey signedBytes x.r x.s = checkEddsaBytes publicKey signedBytes (raw.take 64)
  /-- For ECDSA, under a key that is one, the signature is good or not, and nothing else is wrong. -/
  decided : family = .ecdsa → ∀ publicKey bytes key, Hex.decode publicKey = .ok bytes →
    Secp256k1.Point.ofBytes? bytes = some key → ∃ signature : Secp256k1.Signature,
      signature.r = firstNumber raw ∧ signature.s = secondNumber raw ∧ ∀ digest,
        checkEcdsa publicKey digest x.r x.s =
          if Secp256k1.verify key digest signature then .ok () else .error .ecdsaMismatch

theorem holds_spelled (is : IsSignature family raw) :
    Holds family message raw (spelled family message raw) := by
  have length := length_of_isSignature is
  have long : 64 ≤ raw.length := by
    rw [length]
    cases family <;> decide
  have read := joined_spelled family message raw
  constructor
  · rfl
  · refine ⟨_, _, _, Hex.decode_encode _, Hex.decode_encode _, Hex.decode_encode _, parts_append raw,
      ?_, ?_⟩
    · rw [List.length_take]
      omega
    · rw [List.length_take, List.length_drop]
      omega
  · rintro rfl
    have none : raw.drop 64 = [] := List.drop_eq_nil_of_le (Nat.le_of_eq length)
    show Hex.encode (raw.drop 64) = ""
    rw [none]
    rfl
  · rintro rfl
    exact ⟨_, rfl, distinguished_der (lt_of_inRange is.2.1) (lt_of_inRange is.2.2)⟩
  · rintro rfl
    rfl
  · intro publicKey signedBytes
    exact ⟨checkEcdsa_of_joined read .., checkEddsa_of_joined read ..⟩
  · rintro rfl publicKey bytes key decoded isKey
    refine ⟨⟨firstNumber raw, secondNumber raw, is.2.1, is.2.2⟩, rfl, rfl, fun digest => ?_⟩
    rw [checkEcdsa_of_joined read]
    refine checkEcdsaBytes_eq decoded isKey ?_ digest
    rw [ofBytes?_take_eq long]
    exact dif_pos is.2

/-- A response is made of what is a signature of its family; what is none is the engine's fault, for
which another attempt may help.  A response holds all of its signature, so no two make the same. -/
theorem signature_kept (family : Family) (message : String) (raw : Bytes) :
    ((∃ x, respond family message raw = .ok x) ↔ IsSignature family raw) ∧
    (∀ fault, respond family message raw = .error fault →
      (∃ detail, fault.error = .of .engine detail) ∧ fault.error.retryable = true) ∧
    (∀ x, respond family message raw = .ok x → Holds family message raw x) ∧
    (∀ x family' message' raw', respond family message raw = .ok x →
      respond family' message' raw' = .ok x → raw = raw') := by
  have holds {family message raw x} (made : respond family message raw = .ok x) :
      Holds family message raw x := by
    obtain ⟨is, rfl⟩ := respond_eq_ok_iff.1 made
    exact holds_spelled is
  refine ⟨?_, fun fault _ => ?_, fun x => holds, fun x family' message' raw' made made' => ?_⟩
  · simp only [respond_eq_ok_iff, exists_and_left, exists_eq, and_true]
  · obtain ⟨detail, kind⟩ := fault.exists_detail
    exact ⟨⟨detail, kind⟩, by rw [kind]; rfl⟩
  · obtain ⟨r, s, recovery, hr, hs, hrecovery, whole, -⟩ := (holds made).parts
    obtain ⟨r', s', recovery', hr', hs', hrecovery', whole', -⟩ := (holds made').parts
    cases hr.symm.trans hr'
    cases hs.symm.trans hs'
    cases hrecovery.symm.trans hrecovery'
    exact whole.symm.trans whole'

end QuorumVault.Signature
