/-
Why a JSON document is refused.

A document read from text is blamed at a line and a column, one that arrives as a
value is not.  The complaints are of two kinds: the text is no JSON, or it is JSON of
the wrong shape.  The column counts the bytes of the line up to the place, so a
complaint about a missing byte points behind the last one.
-/
import QuorumVault.Clock.Moment
import QuorumVault.Json.Basic
import QuorumVault.Text.Quoted

namespace QuorumVault.Json

/-- What stands where something else is wanted. -/
inductive Found where
  | null
  | bool (b : Bool)
  | number (n : Number)
  | string (s : String)
  | sequence
  | map
deriving DecidableEq, Repr

/-- What a value is, seen from outside. -/
def found : Json → Found
  | .null => .null
  | .bool b => .bool b
  | .number n => .number n
  | .string s => .string s
  | .array _ => .sequence
  | .object _ => .map

/-- How messages name it. -/
def Found.text : Found → String
  | .null => "null"
  | .bool b => "boolean `" ++ (if b then "true" else "false") ++ "`"
  | .number (.float x) => "floating point `" ++ x.text ++ "`"
  | .number n => "integer `" ++ String.ofList n.chars ++ "`"
  | .string s => "string " ++ Text.quote s
  | .sequence => "sequence"
  | .map => "map"

/-- What is wrong with a document. -/
inductive Complaint where
  | endInList
  | endInObject
  | endInString
  | endBeforeValue
  | noColon
  | noCommaInList
  | noCommaInObject
  | unknownWord
  | noValue
  | badEscape
  | badNumber
  | hugeNumber
  | badText
  | rawControl
  | nameNotString
  | loneSurrogate
  | brokenSurrogate
  | trailingComma
  | trailingText
  | wrongType (found : Found) (wanted : String)
  | wrongValue (found : Found) (wanted : String)
  | wrongLength (length : Nat) (wanted : String)
  | missingField (name : String)
  | duplicateField (name : String)
  | unknownVariant (name : String) (allowed : List String)
  | badMoment (fault : Moment.Fault)
deriving DecidableEq, Repr

/-- Names in code quotes, the last one set off by "or". -/
def alternatives : List String → String
  | [] => ""
  | [a] => "`" ++ a ++ "`"
  | [a, b] => "`" ++ a ++ "` or `" ++ b ++ "`"
  | names => "one of " ++ String.intercalate ", " (names.map fun a => "`" ++ a ++ "`")

def Complaint.message : Complaint → String
  | .endInList => "EOF while parsing a list"
  | .endInObject => "EOF while parsing an object"
  | .endInString => "EOF while parsing a string"
  | .endBeforeValue => "EOF while parsing a value"
  | .noColon => "expected `:`"
  | .noCommaInList => "expected `,` or `]`"
  | .noCommaInObject => "expected `,` or `\x7d`"
  | .unknownWord => "expected ident"
  | .noValue => "expected value"
  | .badEscape => "invalid escape"
  | .badNumber => "invalid number"
  | .hugeNumber => "number out of range"
  | .badText => "invalid unicode code point"
  | .rawControl => "control character (\\u0000-\\u001F) found while parsing a string"
  | .nameNotString => "key must be a string"
  | .loneSurrogate => "lone leading surrogate in hex escape"
  | .brokenSurrogate => "unexpected end of hex escape"
  | .trailingComma => "trailing comma"
  | .trailingText => "trailing characters"
  | .wrongType found wanted => "invalid type: " ++ found.text ++ ", expected " ++ wanted
  | .wrongValue found wanted => "invalid value: " ++ found.text ++ ", expected " ++ wanted
  | .wrongLength n wanted => "invalid length " ++ toString n ++ ", expected " ++ wanted
  | .missingField name => "missing field `" ++ name ++ "`"
  | .duplicateField name => "duplicate field `" ++ name ++ "`"
  | .unknownVariant name allowed =>
    "unknown variant `" ++ name ++ "`, expected " ++ alternatives allowed
  | .badMoment fault => fault.message

/-- A line, from one, and a column, from zero. -/
structure Place where
  line : Nat
  column : Nat
deriving DecidableEq, Repr

/-- A complaint and, for a document read from text, where it arose. -/
structure Fault where
  complaint : Complaint
  /-- Where; none for a document that arrived as a value. -/
  place : Option Place
deriving DecidableEq, Repr

def Fault.message (f : Fault) : String :=
  match f.place with
  | none => f.complaint.message
  | some p =>
    f.complaint.message ++ " at line " ++ toString p.line ++ " column " ++ toString p.column

end QuorumVault.Json
