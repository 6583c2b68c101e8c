/-
Reading a JSON value of any shape.

The members of an object are kept in the order of their names, and of several with
one name the last one counts; the order in which a document lists them means nothing
once it is a value.
-/
import QuorumVault.Json.Reader

namespace QuorumVault.Json

/-- Puts a member in its place, over one with the same name. -/
def putMember (name : String) (v : Json) : List (String × Json) → List (String × Json)
  | [] => [(name, v)]
  | (other, w) :: rest =>
    if name = other then (name, v) :: rest
    else if name < other then (name, v) :: (other, w) :: rest
    else (other, w) :: putMember name v rest

namespace Reader

mutual

/-- A value. -/
def value : Nat → Reader Json
  | 0 => failNext .endBeforeValue
  | bound + 1 => do
    match ← peekBehindBlanks with
    | none => failNext .endBeforeValue
    | some 110 => do skip; word [117, 108, 108]; return .null
    | some 116 => do skip; word [114, 117, 101]; return .bool true
    | some 102 => do skip; word [97, 108, 115, 101]; return .bool false
    | some 45 => do skip; return .number (← number true)
    | some 34 => do skip; return .string (← string)
    | some 91 => do skip; return .array (← items bound true)
    | some 123 => do skip; return .object (← members bound true [])
    | some b =>
      if (Cursor.digit? b).isSome then return .number (← number false) else failNext .noValue

/-- The items of a list and its closing bracket. -/
def items : Nat → Bool → Reader (List Json)
  | 0, _ => failNext .endInList
  | bound + 1, first => do
    if ← anotherItem first then
      let v ← value bound
      return v :: (← items bound false)
    else do skip; return []

/-- The members of an object and its closing brace, added to those before. -/
def members : Nat → Bool → List (String × Json) → Reader (List (String × Json))
  | 0, _, _ => failNext .endInObject
  | bound + 1, first, before => do
    match ← memberName first with
    | none => do skip; return before
    | some name => do
      colon
      let v ← value bound
      members bound false (putMember name v before)

end

def document : Reader Json := do
  let v ← value ((← remaining) + 1)
  finish
  return v

end Reader

/-- Reads a document from bytes. -/
def ofBytes (bytes : Bytes) : Except Fault Json :=
  Reader.document.run' (Cursor.start bytes)

/-- Reads a document from text. -/
def ofText (s : String) : Except Fault Json :=
  ofBytes (Utf8.encode s)

/-- The member of an object, if there is one. -/
def member? (v : Json) (name : String) : Option Json :=
  match v with
  | .object members => members.lookup name
  | _ => none

end QuorumVault.Json
