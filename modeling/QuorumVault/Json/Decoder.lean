/-
Documents of a known shape.

A decoder describes what a document must look like and what it means.  It reads both
a value that is already there and text, where it complains about the first thing
wrong in the order of the text, whether that is the shape or the JSON itself.

A record can be written as an object or as the list of its fields in their order.
Fields that an object does not need to give have a value beforehand; members that are
no fields are skipped.
-/
import QuorumVault.Json.Value
import QuorumVault.Powers

namespace QuorumVault.Json

/-- The two ways to read a document of one shape. -/
structure Decoder (α : Type) where
  ofValue : Json → Except Fault α
  ofText : Reader α

namespace Decoder

variable {α β : Type}

/-- A fault of a document that arrived as a value. -/
def refuse (complaint : Complaint) : Except Fault α :=
  .error ⟨complaint, none⟩

def parse (d : Decoder α) (bytes : Bytes) : Except Fault α :=
  (do let x ← d.ofText; Reader.finish; return x).run' (Cursor.start bytes)

/-- The same shape with another meaning. -/
def map (f : α → β) (d : Decoder α) : Decoder β where
  ofValue v := (d.ofValue v).map f
  ofText := f <$> d.ofText

/-- A string whose meaning may be refused. -/
def stringWith (wanted : String) (meaning : String → Except Complaint α) : Decoder α where
  ofValue
    | .string s => (meaning s).mapError fun c => ⟨c, none⟩
    | v => refuse (.wrongType v.found wanted)
  ofText := do
    match ← Reader.peekBehindBlanks with
    | none => Reader.failNext .endBeforeValue
    | some 34 =>
      Reader.skip
      match meaning (← Reader.string) with
      | .ok x => return x
      | .error c => Reader.fail c
    | some _ => Reader.wrongType wanted

def string : Decoder String :=
  stringWith "a string" .ok

/-- The moment that a string spells. -/
def moment : Decoder Moment :=
  stringWith "an RFC 3339 formatted date and time string" fun s =>
    (Moment.ofText s).mapError .badMoment

def bool : Decoder Bool where
  ofValue
    | .bool b => .ok b
    | v => refuse (.wrongType v.found "a boolean")
  ofText := do
    match ← Reader.peekBehindBlanks with
    | none => Reader.failNext .endBeforeValue
    | some 116 => do Reader.skip; Reader.word [114, 117, 101]; return true
    | some 102 => do Reader.skip; Reader.word [97, 108, 115, 101]; return false
    | some _ => Reader.wrongType "a boolean"

/-- A number as a whole number of the given number of bits. -/
def ofNumber (bits : Nat) (n : Number) : Except Complaint Nat :=
  let wanted := "u" ++ toString bits
  match n with
  | .natural k => if k < 2 ^ bits then .ok k else .error (.wrongValue (.number n) wanted)
  | .negative _ => .error (.wrongValue (.number n) wanted)
  | .float _ => .error (.wrongType (.number n) wanted)

/-- A whole number of the given number of bits. -/
def natural (bits : Nat) : Decoder Nat where
  ofValue
    | .number n => (ofNumber bits n).mapError fun c => ⟨c, none⟩
    | v => refuse (.wrongType v.found ("u" ++ toString bits))
  ofText := do
    let given (n : Number) : Reader Nat :=
      match ofNumber bits n with
      | .ok k => return k
      | .error c => Reader.fail c
    match ← Reader.peekBehindBlanks with
    | none => Reader.failNext .endBeforeValue
    | some 45 => do Reader.skip; given (← Reader.number true)
    | some b =>
      if (Cursor.digit? b).isSome then do given (← Reader.number false)
      else Reader.wrongType ("u" ++ toString bits)

/-- Nothing. -/
def unit : Decoder Unit where
  ofValue
    | .null => .ok ()
    | v => refuse (.wrongType v.found "unit")
  ofText := do
    match ← Reader.peekBehindBlanks with
    | none => Reader.failNext .endBeforeValue
    | some 110 => do Reader.skip; Reader.word [117, 108, 108]
    | some _ => Reader.wrongType "unit"

/-- A document or nothing. -/
def option (d : Decoder α) : Decoder (Option α) where
  ofValue
    | .null => .ok none
    | v => (d.ofValue v).map some
  ofText := do
    match ← Reader.peekBehindBlanks with
    | some 110 => do Reader.skip; Reader.word [117, 108, 108]; return none
    | _ => return some (← d.ofText)

/-- The items of a list and its closing bracket. -/
def items (d : Decoder α) : Nat → Bool → Reader (List α)
  | 0, _ => Reader.failNext .endInList
  | bound + 1, first => do
    if ← Reader.anotherItem first then
      let x ← d.ofText
      return x :: (← items d bound false)
    else do Reader.closeList; return []

/-- A list of documents of one shape. -/
def list (d : Decoder α) : Decoder (List α) where
  ofValue
    | .array vs => vs.mapM d.ofValue
    | v => refuse (.wrongType v.found "a sequence")
  ofText := do
    match ← Reader.peekBehindBlanks with
    | none => Reader.failNext .endBeforeValue
    | some 91 => do Reader.skip; items d ((← Reader.remaining) + 1) true
    | some _ => Reader.wrongType "a sequence"

/-- An object with names of any kind and documents of one shape, in the order of the names. -/
def dictionary (d : Decoder α) (v : Json) : Except Fault (List (String × α)) :=
  match v with
  | .object members => members.mapM fun m => (d.ofValue m.2).map (m.1, ·)
  | v => refuse (.wrongType v.found "a map")

/-! ### Choices -/

/-- What a name among several stands for. -/
def choose (choices : List (String × α)) (name : String) : Except Complaint α :=
  match choices.lookup name with
  | some x => .ok x
  | none => .error (.unknownVariant name (choices.map (·.1)))

/-- One of several names, alone or as the only name of an object, with nothing behind it. -/
def choice (choices : List (String × α)) : Decoder α where
  ofValue
    | .string s => (choose choices s).mapError fun c => ⟨c, none⟩
    | .object [(name, v)] => do
      let x ← (choose choices name).mapError fun c => ⟨c, none⟩
      let _ ← unit.ofValue v
      return x
    | .object _ => refuse (.wrongValue .map "map with a single key")
    | v => refuse (.wrongType v.found "string or map")
  ofText := do
    let name : Reader α := do
      Reader.skip
      match choose choices (← Reader.string) with
      | .ok x => return x
      | .error c => Reader.fail c
    match ← Reader.peekBehindBlanks with
    | none => Reader.failNext .endBeforeValue
    | some 34 => name
    | some 123 => do
      Reader.skip
      let x ← match ← Reader.peekBehindBlanks with
        | none => Reader.failNext .endInObject
        | some 34 => name
        | some 125 => Reader.failNext .noValue
        | some _ => Reader.failNext .nameNotString
      Reader.colon
      unit.ofText
      match ← Reader.peekBehindBlanks with
      | none => Reader.fail .endInObject
      | some 125 => do Reader.skip; return x
      | some _ => Reader.fail .noValue
    | some _ => Reader.failNext .noValue

/-! ### Records -/

/-- A field of a record: how to read it into a record that lacks it. -/
structure Slot (α : Type) where
  name : String
  required : Bool
  read : Decoder (α → α)

/-- A field that must be given. -/
def field (name : String) (d : Decoder β) (set : β → α → α) : Slot α :=
  ⟨name, true, d.map set⟩

/-- A field with a value beforehand. -/
def optional (name : String) (d : Decoder β) (set : β → α → α) : Slot α :=
  ⟨name, false, d.map set⟩

/-- The first field that must be given and is not among those seen. -/
def missing? (slots : List (Slot α)) (seen : List String) : Option (Slot α) :=
  slots.find? fun s => s.required && !seen.contains s.name

/-- Reads members into a record. -/
def ofMembers (slots : List (Slot α)) : List String → α → List (String × Json) → Except Fault α
  | seen, x, [] =>
    match missing? slots seen with
    | some s => refuse (.missingField s.name)
    | none => .ok x
  | seen, x, (name, v) :: rest =>
    match slots.find? fun s => s.name == name with
    | none => ofMembers slots seen x rest
    | some s =>
      if seen.contains name then refuse (.duplicateField name)
      else do
        let f ← s.read.ofValue v
        ofMembers slots (name :: seen) (f x) rest

/-- What a list in place of a record is measured against. -/
def shapeText (typeName : String) (count : Nat) : String :=
  "struct " ++ typeName ++ " with " ++ toString count ++ " element" ++ (if count = 1 then "" else "s")

/-- Reads the items of a list into the fields of a record; `done` have been read. -/
def ofItems (typeName : String) (count : Nat) : Nat → List (Slot α) → α → List Json → Except Fault α
  | _, [], x, [] => .ok x
  | done, [], _, items => refuse (.wrongLength (done + items.length) "fewer elements in array")
  | done, s :: slots, x, [] =>
    if s.required then refuse (.wrongLength done (shapeText typeName count))
    else ofItems typeName count (done + 1) slots x []
  | done, s :: slots, x, v :: items => do
    let f ← s.read.ofValue v
    ofItems typeName count (done + 1) slots (f x) items

/-- Reads the members of an object, behind its opening brace. -/
def membersText (slots : List (Slot α)) : Nat → Bool → List String → α → Reader α
  | 0, _, _, _ => Reader.failNext .endInObject
  | bound + 1, first, seen, x => do
    match ← Reader.memberName first with
    | none =>
      match missing? slots seen with
      | some s => Reader.complainObject (.missingField s.name)
      | none => do Reader.skip; return x
    | some name =>
      match slots.find? fun s => s.name == name with
      | none => do
        Reader.colon
        Reader.skipValue
        membersText slots bound false seen x
      | some s =>
        if seen.contains name then Reader.complainObject (.duplicateField name)
        else do
          Reader.colon
          let f ← s.read.ofText
          membersText slots bound false (name :: seen) (f x)

/-- Reads the items of a list into the fields of a record, behind its opening bracket. -/
def itemsText (typeName : String) (count : Nat) : Nat → List (Slot α) → α → Reader α
  | _, [], x => do Reader.closeList; return x
  | done, s :: slots, x => do
    if ← Reader.anotherItem (done == 0) then
      let f ← s.read.ofText
      itemsText typeName count (done + 1) slots (f x)
    else if s.required then Reader.complainList (.wrongLength done (shapeText typeName count))
    else itemsText typeName count (done + 1) slots x

/-- A record: the fields in their order, and the record before any of them is read. -/
def record (typeName : String) (slots : List (Slot α)) (blank : α) : Decoder α where
  ofValue
    | .object members => ofMembers slots [] blank members
    | .array items => ofItems typeName slots.length 0 slots blank items
    | v => refuse (.wrongType v.found ("struct " ++ typeName))
  ofText := do
    match ← Reader.peekBehindBlanks with
    | none => Reader.failNext .endBeforeValue
    | some 123 => do
      Reader.skip
      membersText slots ((← Reader.remaining) + 1) true [] blank
    | some 91 => do
      Reader.skip
      itemsText typeName slots.length 0 slots blank
    | some _ => Reader.wrongType ("struct " ++ typeName)

end Decoder

end QuorumVault.Json
