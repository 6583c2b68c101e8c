/-
Quoted text.

Messages that list names put each name in double quotes, so that a blank or odd name
can be seen.  Inside the quotes a quote and a backslash get a backslash, the common
control characters their short forms, and every character without a shape of its own
is written as `\u` with its code in braces.  A single character is quoted the same
way between apostrophes, where the apostrophe is escaped and the double quote is not.
-/
import QuorumVault.Text.Shapeless

namespace QuorumVault.Text

/-- The digits of a number in base sixteen, without leading zeros. -/
def hexDigits (n : Nat) : List Char :=
  Nat.toDigits 16 n

namespace Quoted

/-- One character as it stands between the given quotation marks. -/
def escape (mark c : Char) : List Char :=
  if c = '\x00' then ['\\', '0']
  else if c = '\t' then ['\\', 't']
  else if c = '\n' then ['\\', 'n']
  else if c = '\r' then ['\\', 'r']
  else if c = '\\' then ['\\', '\\']
  else if c = mark then ['\\', mark]
  else if Shapeless.holds c then ['\\', 'u', '\x7b'] ++ hexDigits c.toNat ++ ['\x7d']
  else [c]

end Quoted

/-- A text between double quotes. -/
def quote (s : String) : String :=
  String.ofList ('"' :: s.toList.flatMap (Quoted.escape '"') ++ ['"'])

def quoteChar (c : Char) : String :=
  String.ofList ('\'' :: Quoted.escape '\'' c ++ ['\''])

/-- A list of quoted texts in brackets. -/
def quoteList (names : List String) : String :=
  "[" ++ String.intercalate ", " (names.map quote) ++ "]"

end QuorumVault.Text
