/-
Reading documents back.

A decoder reads a value as something if it takes exactly the value's text, whatever may
follow a value, and gives that something.  Each way to build decoders has its lemma, so
that a document of a known shape is read back by going through its parts.  A record is
read member by member; `Fills` says what the members make of it.
-/
import QuorumVault.Json.Decoder
import QuorumVault.Proofs.Json.Taking

namespace QuorumVault.Json.Decoder

open Reader

variable {α β : Type}

/-- The value's text begins with something that is neither a blank nor the end of a list. -/
def Begins (v : Json) : Prop :=
  ∃ b bytes, Utf8.encodeChars v.chars = b :: bytes ∧ Solid b ∧ b ≠ 93

/-- The decoder reads the value's text as something. -/
structure Reads (d : Decoder α) (v : Json) (x : α) : Prop where
  begins : Begins v
  takes : ∀ rest, Behind rest → d.ofText.Takes (Utf8.encodeChars v.chars) x rest

theorem behind_nil : Behind [] := nofun

/-- A whole document is read as the value is. -/
theorem Reads.parse {d : Decoder α} {v : Json} {x : α} (h : d.Reads v x) :
    d.parse v.bytes = .ok x := by
  have whole : Takes (do let x ← d.ofText; Reader.finish; return x) (Utf8.encodeChars v.chars) x
      [] := by
    refine Takes.bind_last (h.takes [] behind_nil) ?_
    exact Takes.bind_nil finish_takes (.pure x [])
  obtain ⟨line, column, taken⟩ := whole 1 0
  rw [List.append_nil] at taken
  show ((do let x ← d.ofText; Reader.finish; return x : Reader α)
    ⟨Utf8.encodeChars v.chars, 1, 0⟩ >>= fun p => pure p.1) = _
  rw [taken]
  rfl

theorem Reads.map {d : Decoder α} {v : Json} {x : α} (h : d.Reads v x) (f : α → β) :
    (d.map f).Reads v (f x) where
  begins := h.begins
  takes rest behind := (h.takes rest behind).map f

/-! ### Simple values -/

theorem encodeChars_stringChars (s : String) : Utf8.encodeChars (stringChars s) =
    [34] ++ (Utf8.encodeChars (s.toList.flatMap Json.escape) ++ [34]) := by
  unfold stringChars
  rw [← List.singleton_append, List.append_assoc, Utf8.encodeChars_append, Utf8.encodeChars_append]
  rfl

theorem begins_string (s : String) : Begins (.string s) :=
  ⟨34, _, encodeChars_stringChars s, by decide, by decide⟩

theorem reads_stringWith {wanted : String} {meaning : String → Except Complaint α} {s : String}
    {x : α} (means : meaning s = .ok x) : (stringWith wanted meaning).Reads (.string s) x := by
  refine ⟨begins_string s, fun rest _ => ?_⟩
  rw [Json.chars, encodeChars_stringChars]
  refine Takes.bind_nil (peekBehindBlanks_takes (by decide) _) ?_
  refine Takes.bind (skip_takes 34 _) ?_
  refine Takes.bind_last (string_takes s rest) ?_
  rw [means]
  exact .pure x rest

theorem reads_string (s : String) : string.Reads (.string s) s :=
  reads_stringWith rfl

theorem reads_bool (b : Bool) : bool.Reads (.bool b) b := by
  cases b with
  | true =>
      refine ⟨⟨116, _, rfl, by decide, by decide⟩, fun rest _ => ?_⟩
      show Takes _ ([116] ++ [114, 117, 101]) true rest
      refine Takes.bind_nil (peekBehindBlanks_takes (by decide) _) ?_
      refine Takes.bind (skip_takes 116 _) ?_
      exact Takes.bind_last (word_takes _ rest) (.pure true rest)
  | false =>
      refine ⟨⟨102, _, rfl, by decide, by decide⟩, fun rest _ => ?_⟩
      show Takes _ ([102] ++ [97, 108, 115, 101]) false rest
      refine Takes.bind_nil (peekBehindBlanks_takes (by decide) _) ?_
      refine Takes.bind (skip_takes 102 _) ?_
      exact Takes.bind_last (word_takes _ rest) (.pure false rest)

theorem reads_none (d : Decoder α) : d.option.Reads .null none := by
  refine ⟨⟨110, _, rfl, by decide, by decide⟩, fun rest _ => ?_⟩
  show Takes _ ([110] ++ [117, 108, 108]) none rest
  refine Takes.bind_nil (peekBehindBlanks_takes (by decide) _) ?_
  refine Takes.bind (skip_takes 110 _) ?_
  exact Takes.bind_last (word_takes _ rest) (.pure none rest)

theorem reads_some_string (s : String) : string.option.Reads (.string s) (some s) := by
  refine ⟨begins_string s, fun rest behind => ?_⟩
  have reads := (reads_string s).takes rest behind
  rw [Json.chars, encodeChars_stringChars] at reads ⊢
  refine Takes.bind_nil (peekBehindBlanks_takes (by decide) _) ?_
  exact Takes.bind_last reads (.pure _ rest)

theorem reads_choice {choices : List (String × α)} {name : String} {x : α}
    (means : choices.lookup name = some x) : (choice choices).Reads (.string name) x := by
  refine ⟨begins_string name, fun rest _ => ?_⟩
  rw [Json.chars, encodeChars_stringChars]
  refine Takes.bind_nil (peekBehindBlanks_takes (by decide) _) ?_
  refine Takes.bind (skip_takes 34 _) ?_
  refine Takes.bind_last (string_takes name rest) ?_
  rw [choose, means]
  exact .pure x rest

/-- The text of a whole number begins with a digit. -/
theorem exists_first_digit (n : Nat) : ∃ b bytes,
    Utf8.encodeChars (Nat.toDigits 10 n) = b :: bytes ∧ Solid b ∧ b ≠ 45 ∧ b ≠ 93 ∧
      (Cursor.digit? b).isSome = true := by
  have byte : ∀ d < 10, Utf8.encodePoint (Nat.digitChar d).toNat = [UInt8.ofNat (48 + d)] ∧
      Solid (UInt8.ofNat (48 + d)) ∧ UInt8.ofNat (48 + d) ≠ 45 ∧ UInt8.ofNat (48 + d) ≠ 93 ∧
      (Cursor.digit? (UInt8.ofNat (48 + d))).isSome = true := by
    decide
  obtain ⟨d, ds, lt, digits⟩ : ∃ d ds, d < 10 ∧
      Nat.toDigits 10 n = Nat.digitChar d :: ds := by
    rcases Nat.eq_zero_or_pos n with rfl | pos
    · exact ⟨0, [], by decide, rfl⟩
    · obtain ⟨d, ds, -, lt, digits, -⟩ := exists_digits pos
      exact ⟨d, _, lt d List.mem_cons_self, digits⟩
  obtain ⟨single, solid, minus, bracket, digit⟩ := byte d lt
  refine ⟨UInt8.ofNat (48 + d), Utf8.encodeChars ds, ?_, solid, minus, bracket, digit⟩
  rw [digits, Utf8.encodeChars, List.flatMap_cons, single]
  rfl

/-- A whole number of few enough bits is read as it is. -/
theorem reads_natural {bits n : Nat} (small : bits ≤ 64) (fits : n < 2 ^ bits) :
    (natural bits).Reads (.nat n) n := by
  obtain ⟨b, bytes, text, solid, minus, bracket, digit⟩ := exists_first_digit n
  refine ⟨⟨b, bytes, text, solid, bracket⟩, fun rest behind => ?_⟩
  have large : n < 2 ^ 64 := Nat.lt_of_lt_of_le fits (Nat.pow_le_pow_right (by decide) small)
  have taken := number_takes large behind
  show Takes _ (Utf8.encodeChars (Nat.toDigits 10 n)) n rest
  rw [text] at taken ⊢
  refine Takes.bind_nil (peekBehindBlanks_takes solid _) ?_
  dsimp only
  split
  · next none => cases none
  · next same => exact absurd (Option.some.inj same) minus
  · next same =>
      obtain rfl := Option.some.inj same
      rw [if_pos digit]
      refine Takes.bind_last taken ?_
      dsimp only [ofNumber]
      rw [if_pos fits]
      exact .pure n rest

/-! ### Lists -/

/-- What stands behind an item of a list, of which others may follow. -/
def moreItems : List Json → List Char
  | [] => [']']
  | v :: rest => ',' :: itemChars (v :: rest)

theorem itemChars_cons (v : Json) (rest : List Json) :
    itemChars (v :: rest) = chars v ++ moreItems rest := by
  cases rest <;> simp [itemChars, moreItems]

theorem behind_moreItems (vs : List Json) (rest : Bytes) :
    Behind (Utf8.encodeChars (moreItems vs) ++ rest) := by
  cases vs with
  | nil => exact fun b h => .inr (.inl (Option.some.inj h).symm)
  | cons v vs => exact fun b h => .inl (Option.some.inj h).symm

/-- Every item is written in at least one byte. -/
theorem length_lt_moreItems (vs : List Json) :
    vs.length < (Utf8.encodeChars (moreItems vs)).length := by
  induction vs with
  | nil => exact Nat.zero_lt_one
  | cons v vs ih =>
      rw [moreItems, itemChars_cons, Utf8.encodeChars_cons, Utf8.encodeChars_append]
      have comma : (Utf8.encodePoint ','.toNat).length = 1 := rfl
      simp only [List.length_append, List.length_cons]
      omega

theorem closeList_takes (rest : Bytes) : closeList.Takes [93] () rest :=
  Takes.bind_nil (peekBehindBlanks_takes (by decide) _) (skip_takes 93 rest)

theorem anotherItem_takes_nil (first : Bool) (rest : Bytes) :
    (anotherItem first).Takes [] false (93 :: rest) :=
  Takes.bind_nil (peekBehindBlanks_takes (by decide) _) (.pure false _)

theorem anotherItem_takes_first {v : Json} (begins : Begins v) (rest : Bytes) :
    (anotherItem true).Takes [] true (Utf8.encodeChars v.chars ++ rest) := by
  obtain ⟨b, bytes, text, solid, bracket⟩ := begins
  rw [text, List.cons_append]
  refine Takes.bind_nil (peekBehindBlanks_takes solid _) ?_
  split
  · next none => cases none
  · next same => exact absurd (Option.some.inj same) bracket
  · exact .pure true _

theorem anotherItem_takes_next {v : Json} (begins : Begins v) (rest : Bytes) :
    (anotherItem false).Takes [44] true (Utf8.encodeChars v.chars ++ rest) := by
  obtain ⟨b, bytes, text, solid, bracket⟩ := begins
  rw [text, List.cons_append]
  refine Takes.bind_nil (peekBehindBlanks_takes (by decide) _) ?_
  refine Takes.bind_last (skip_takes 44 _) ?_
  refine Takes.bind_nil (peekBehindBlanks_takes solid _) ?_
  split
  · next none => cases none
  · next same => exact absurd (Option.some.inj same) bracket
  · exact .pure true _

variable {d : Decoder α} {write : α → Json}

/-- The items behind one of a list are read one after the other. -/
theorem items_takes_more {xs : List α} (reads : ∀ x ∈ xs, d.Reads (write x) x) {bound : Nat}
    (enough : xs.length < bound) (rest : Bytes) :
    (items d bound false).Takes (Utf8.encodeChars (moreItems (xs.map write))) xs rest := by
  induction xs generalizing bound with
  | nil =>
      obtain ⟨bound, rfl⟩ : ∃ n, bound = n + 1 := Nat.exists_eq_add_one.2 enough
      refine Takes.bind_nil (anotherItem_takes_nil false rest) ?_
      exact Takes.bind_last (closeList_takes rest) (.pure [] rest)
  | cons x xs ih =>
      obtain ⟨bound, rfl⟩ : ∃ n, bound = n + 1 :=
        Nat.exists_eq_add_one.2 (Nat.lt_of_le_of_lt (Nat.zero_le _) enough)
      have this := reads x List.mem_cons_self
      have text : Utf8.encodeChars (moreItems ((x :: xs).map write)) = [44] ++
          (Utf8.encodeChars (write x).chars ++ Utf8.encodeChars (moreItems (xs.map write))) := by
        rw [List.map_cons, moreItems, itemChars_cons, Utf8.encodeChars_cons,
          Utf8.encodeChars_append]
        rfl
      rw [text]
      refine Takes.bind (List.append_assoc .. ▸ anotherItem_takes_next this.begins _) ?_
      refine Takes.bind (this.takes _ (behind_moreItems _ rest)) ?_
      refine Takes.bind_last (ih (fun y hy => reads y (List.mem_cons_of_mem _ hy))
        (Nat.lt_of_succ_lt_succ enough)) ?_
      exact .pure _ rest

theorem reads_list {xs : List α} (reads : ∀ x ∈ xs, d.Reads (write x) x) :
    d.list.Reads (.array (xs.map write)) xs := by
  refine ⟨⟨91, _, rfl, by decide, by decide⟩, fun rest _ => ?_⟩
  show Takes _ ([91] ++ Utf8.encodeChars (itemChars (xs.map write))) xs rest
  refine Takes.bind_nil (peekBehindBlanks_takes (by decide) _) ?_
  refine Takes.bind (skip_takes 91 _) ?_
  refine Takes.bind_nil (remaining_takes _) ?_
  cases xs with
  | nil =>
      refine Takes.bind_nil (anotherItem_takes_nil true rest) ?_
      exact Takes.bind_last (closeList_takes rest) (.pure [] rest)
  | cons x xs =>
      have this := reads x List.mem_cons_self
      rw [List.map_cons, itemChars_cons, Utf8.encodeChars_append]
      refine Takes.bind_nil (List.append_assoc .. ▸ anotherItem_takes_first this.begins _) ?_
      refine Takes.bind (this.takes _ (behind_moreItems _ rest)) ?_
      refine Takes.bind_last (items_takes_more (fun y hy => reads y (List.mem_cons_of_mem _ hy))
        ?_ rest) ?_
      · have items := length_lt_moreItems (xs.map write)
        rw [List.length_map] at items
        simp only [List.length_append]
        omega
      · exact .pure _ rest

/-! ### Records -/

/-- What stands behind a member of an object, of which others may follow. -/
def moreMembers : List (String × Json) → List Char
  | [] => ['\x7d']
  | m :: rest => ',' :: memberChars (m :: rest)

theorem memberChars_cons (name : String) (v : Json) (rest : List (String × Json)) :
    memberChars ((name, v) :: rest) = stringChars name ++ (':' :: (chars v ++ moreMembers rest)) := by
  cases rest <;> simp [memberChars, moreMembers]

theorem behind_moreMembers (members : List (String × Json)) (rest : Bytes) :
    Behind (Utf8.encodeChars (moreMembers members) ++ rest) := by
  cases members with
  | nil => exact fun b h => .inr (.inr (Option.some.inj h).symm)
  | cons m members => exact fun b h => .inl (Option.some.inj h).symm

/-- Every member is written in at least one byte. -/
theorem length_lt_moreMembers (members : List (String × Json)) :
    members.length < (Utf8.encodeChars (moreMembers members)).length := by
  induction members with
  | nil => exact Nat.zero_lt_one
  | cons m members ih =>
      obtain ⟨name, v⟩ := m
      rw [moreMembers, memberChars_cons, Utf8.encodeChars_cons, Utf8.encodeChars_append,
        Utf8.encodeChars_cons, Utf8.encodeChars_append]
      have comma : (Utf8.encodePoint ','.toNat).length = 1 := rfl
      simp only [List.length_append, List.length_cons]
      omega

theorem colon_takes (rest : Bytes) : colon.Takes [58] () rest := by
  refine Takes.bind_nil (peekBehindBlanks_takes (by decide) _) ?_
  dsimp only
  rw [if_pos rfl]
  exact skip_takes 58 rest

theorem memberName_takes_nil (first : Bool) (rest : Bytes) :
    (memberName first).Takes [] none (125 :: rest) :=
  Takes.bind_nil (peekBehindBlanks_takes (by decide) _) (.pure none _)

theorem memberName_takes_first (name : String) (rest : Bytes) :
    (memberName true).Takes (Utf8.encodeChars (stringChars name)) (some name) rest := by
  rw [encodeChars_stringChars]
  refine Takes.bind_nil (peekBehindBlanks_takes (by decide) _) ?_
  refine Takes.bind (skip_takes 34 _) ?_
  exact Takes.bind_last (string_takes name rest) (.pure (some name) rest)

theorem memberName_takes_next (name : String) (rest : Bytes) :
    (memberName false).Takes ([44] ++ Utf8.encodeChars (stringChars name)) (some name) rest := by
  rw [encodeChars_stringChars]
  refine Takes.bind_nil (peekBehindBlanks_takes (by decide) _) ?_
  refine Takes.bind (skip_takes 44 _) ?_
  refine Takes.bind_nil (peekBehindBlanks_takes (by decide) _) ?_
  refine Takes.bind (skip_takes 34 _) ?_
  exact Takes.bind_last (string_takes name rest) (.pure (some name) rest)

/-- What members make of a record: each is read into its field, which was not given before, and in
the end no field is missing. -/
inductive Fills (slots : List (Slot α)) : List String → α → List (String × Json) → α → Prop
  | complete {seen x} (h : missing? slots seen = none) : Fills slots seen x [] x
  | member {seen x name v s f rest y} (found : (slots.find? fun s => s.name == name) = some s)
      (new : seen.contains name = false) (reads : s.read.Reads v f)
      (next : Fills slots (name :: seen) (f x) rest y) : Fills slots seen x ((name, v) :: rest) y

variable {slots : List (Slot α)}

/-- What follows the name of a member is read into its field. -/
theorem Fills.member_takes {seen : List String} {x y : α} {name : String} {v : Json} {bound : Nat}
    {members : List (String × Json)} {rest : Bytes} {s : Slot α} {f : α → α}
    (found : (slots.find? fun s => s.name == name) = some s) (new : seen.contains name = false)
    (reads : s.read.Reads v f)
    (next : (membersText slots bound false (name :: seen) (f x)).Takes
      (Utf8.encodeChars (moreMembers members)) y rest) :
    Takes (match slots.find? fun s => s.name == name with
      | none => do
        Reader.colon
        Reader.skipValue
        membersText slots bound false seen x
      | some s =>
        if seen.contains name then Reader.complainObject (.duplicateField name)
        else do
          Reader.colon
          let f ← s.read.ofText
          membersText slots bound false (name :: seen) (f x))
      ([58] ++ (Utf8.encodeChars v.chars ++ Utf8.encodeChars (moreMembers members))) y rest := by
  rw [found]
  dsimp only
  rw [if_neg (by simpa using new)]
  refine Takes.bind (colon_takes _) ?_
  exact Takes.bind (reads.takes _ (behind_moreMembers _ rest)) next

/-- The members behind one of an object are read one after the other. -/
theorem Fills.takes_more {seen : List String} {x y : α} {members : List (String × Json)}
    (fills : Fills slots seen x members y) {bound : Nat} (enough : members.length < bound)
    (rest : Bytes) :
    (membersText slots bound false seen x).Takes (Utf8.encodeChars (moreMembers members)) y
      rest := by
  induction fills generalizing bound with
  | complete h =>
      obtain ⟨bound, rfl⟩ : ∃ n, bound = n + 1 := Nat.exists_eq_add_one.2 enough
      refine Takes.bind_nil (memberName_takes_nil false rest) ?_
      dsimp only
      rw [h]
      exact Takes.bind_last (skip_takes 125 rest) (.pure _ rest)
  | @member seen x name v s f members y found new reads next ih =>
      obtain ⟨bound, rfl⟩ : ∃ n, bound = n + 1 :=
        Nat.exists_eq_add_one.2 (Nat.lt_of_le_of_lt (Nat.zero_le _) enough)
      have text : Utf8.encodeChars (moreMembers ((name, v) :: members)) =
          ([44] ++ Utf8.encodeChars (stringChars name)) ++
            ([58] ++ (Utf8.encodeChars v.chars ++ Utf8.encodeChars (moreMembers members))) := by
        rw [moreMembers, memberChars_cons, Utf8.encodeChars_cons, Utf8.encodeChars_append,
          Utf8.encodeChars_cons, Utf8.encodeChars_append, List.append_assoc]
        rfl
      rw [text]
      refine Takes.bind (memberName_takes_next name _) ?_
      exact member_takes found new reads (ih (Nat.lt_of_succ_lt_succ enough))

/-- A record is read member by member. -/
theorem reads_record {typeName : String} {blank y : α} {members : List (String × Json)}
    (fills : Fills slots [] blank members y) :
    (record typeName slots blank).Reads (.object members) y := by
  refine ⟨⟨123, _, rfl, by decide, by decide⟩, fun rest _ => ?_⟩
  show Takes _ ([123] ++ Utf8.encodeChars (memberChars members)) y rest
  refine Takes.bind_nil (peekBehindBlanks_takes (by decide) _) ?_
  refine Takes.bind (skip_takes 123 _) ?_
  refine Takes.bind_nil (remaining_takes _) ?_
  cases fills with
  | complete h =>
      refine Takes.bind_nil (memberName_takes_nil true rest) ?_
      dsimp only
      rw [h]
      exact Takes.bind_last (skip_takes 125 rest) (.pure _ rest)
  | @member _ _ name v s f members _ found new reads next =>
      have text : Utf8.encodeChars (memberChars ((name, v) :: members)) =
          Utf8.encodeChars (stringChars name) ++
            ([58] ++ (Utf8.encodeChars v.chars ++ Utf8.encodeChars (moreMembers members))) := by
        rw [memberChars_cons, Utf8.encodeChars_append, Utf8.encodeChars_cons,
          Utf8.encodeChars_append]
        rfl
      have enough := length_lt_moreMembers members
      rw [text]
      refine Takes.bind (memberName_takes_first name _) ?_
      refine Fills.member_takes found new reads (next.takes_more ?_ rest)
      simp only [List.length_append]
      omega

end QuorumVault.Json.Decoder
