/-
JSON values and their text.

A value is written without blanks, the members of an object in the order in which
they are listed.  In strings the quote, the backslash and the control characters are
escaped, with the short forms where JSON has them; everything else stands for itself.
-/
import QuorumVault.Json.Binary64
import QuorumVault.Text.Utf8

namespace QuorumVault

/-- A number as JSON tells them apart. -/
inductive Json.Number where
  | natural (n : Nat)
  | negative (n : Nat)
  /-- A number with a fraction, an exponent or too many digits. -/
  | float (x : Binary64)
deriving DecidableEq, Repr

/-- A JSON value. -/
inductive Json where
  | null
  | bool (b : Bool)
  | number (n : Json.Number)
  | string (s : String)
  | array (items : List Json)
  | object (members : List (String × Json))
deriving Repr

namespace Json

/-- One character inside a string. -/
def escape (c : Char) : List Char :=
  if c = '"' then ['\\', '"']
  else if c = '\\' then ['\\', '\\']
  else if c = '\n' then ['\\', 'n']
  else if c = '\r' then ['\\', 'r']
  else if c = '\t' then ['\\', 't']
  else if c = '\x08' then ['\\', 'b']
  else if c = '\x0c' then ['\\', 'f']
  else if c.toNat < 32 then
    ['\\', 'u', '0', '0', Nat.digitChar (c.toNat / 16), Nat.digitChar (c.toNat % 16)]
  else [c]

def stringChars (s : String) : List Char :=
  '"' :: s.toList.flatMap escape ++ ['"']

def Number.chars : Number → List Char
  | .natural n => Nat.toDigits 10 n
  | .negative n => '-' :: Nat.toDigits 10 n
  | .float x => x.text.toList

mutual

/-- The characters of a value. -/
def chars : Json → List Char
  | .null => ['n', 'u', 'l', 'l']
  | .bool true => ['t', 'r', 'u', 'e']
  | .bool false => ['f', 'a', 'l', 's', 'e']
  | .number n => n.chars
  | .string s => stringChars s
  | .array items => '[' :: itemChars items
  | .object members => '\x7b' :: memberChars members

/-- The items of a list and its closing bracket. -/
def itemChars : List Json → List Char
  | [] => [']']
  | [v] => chars v ++ [']']
  | v :: rest => chars v ++ ',' :: itemChars rest

/-- The members of an object and its closing brace. -/
def memberChars : List (String × Json) → List Char
  | [] => ['\x7d']
  | [(name, v)] => stringChars name ++ ':' :: chars v ++ ['\x7d']
  | (name, v) :: rest => stringChars name ++ ':' :: chars v ++ ',' :: memberChars rest

end

/-- The text of a value. -/
def text (v : Json) : String :=
  String.ofList v.chars

/-- The bytes of a value's text. -/
def bytes (v : Json) : Bytes :=
  Utf8.encodeChars v.chars

/-- A list of strings. -/
def strings (names : List String) : Json :=
  .array (names.map .string)

/-- A whole number without a sign. -/
def nat (n : Nat) : Json :=
  .number (.natural n)

end Json

end QuorumVault
