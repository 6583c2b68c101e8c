/-
Tables of code points.

What is true of one character is mostly true of a run of them, so a table of many
thousands is a list of runs.  It is written as a text, all numbers in hexadecimal: `41`
is one code point, `41-5A` a run of them, and `100~12E` every second one from the first
to the last.  Behind a colon stands the value of a run, one number or several with a
plus between them.  Blanks and line ends separate the runs.
-/
import QuorumVault.Text.Parts

namespace QuorumVault.Text

/-- A run of code points. -/
structure CodeRun where
  first : Nat
  last : Nat
  stride : Nat
  value : List Nat
deriving DecidableEq, Repr

namespace CodeRun

/-- The value of a digit, capitals only. -/
def digitValue (c : Char) : Nat :=
  if c.isDigit then c.toNat - 48 else c.toNat - 55

/-- The number that digits spell. -/
def number (digits : List Char) : Nat :=
  digits.foldl (fun n c => 16 * n + digitValue c) 0

def ofChars (cs : List Char) : CodeRun :=
  let (range, value) := cs.span (· != ':')
  let values := if value.isEmpty then [] else (parts (· == '+') (value.drop 1)).map number
  match range.span Char.isAlphanum with
  | (first, '-' :: last) => ⟨number first, number last, 1, values⟩
  | (first, '~' :: last) => ⟨number first, number last, 2, values⟩
  | (first, _) => ⟨number first, number first, 1, values⟩

/-- Whether a code point is in the run. -/
def contains (r : CodeRun) (n : Nat) : Bool :=
  r.first ≤ n && n ≤ r.last && (n - r.first) % r.stride == 0

end CodeRun

/-- A table of code points. -/
abbrev CodeTable := List CodeRun

namespace CodeTable

def ofText (text : String) : CodeTable :=
  ((parts Char.isWhitespace text.toList).filter (!·.isEmpty)).map CodeRun.ofChars

/-- Whether a code point is in the table. -/
def contains (t : CodeTable) (n : Nat) : Bool :=
  t.any (·.contains n)

/-- What the table says of a code point. -/
def value? (t : CodeTable) (n : Nat) : Option (List Nat) :=
  (t.find? (·.contains n)).map (·.value)

/-- What the table says of a code point, if each code point of a run has a value as far from that
of the first as itself is. -/
def shifted? (t : CodeTable) (n : Nat) : Option (List Nat) :=
  (t.find? (·.contains n)).map fun r => r.value.map (· + (n - r.first))

end CodeTable

end QuorumVault.Text
