/-
Labels in letters, digits and hyphens.

The label of a domain name can be in any script, but what is sent around is in ASCII.
The characters of ASCII in it are written first and a hyphen behind them, if there are
any; then numbers tell what goes in between.  The characters are put in by their codes,
equal ones from left to right, and each number says how many places there were between
one and the next: every character put in has one more place to be at than the one
before, and all of these places count once for each code in between.

Numbers are written in base 36, the lowest digit first.  A digit below the threshold of
its place ends the number, so numbers need nothing between them; the thresholds follow
the numbers written so far by way of a bias.
-/
import QuorumVault.Powers
import QuorumVault.Text.Parts

namespace QuorumVault.Punycode

/-- What a digit stands for: letters come before figures. -/
def digitValue? (c : Char) : Option Nat :=
  let n := c.toNat
  if 97 ≤ n ∧ n ≤ 122 then some (n - 97)
  else if 48 ≤ n ∧ n ≤ 57 then some (n - 22)
  else none

/-- The digit of a number below 36. -/
def digit (n : Nat) : Char :=
  Char.ofNat (if n < 26 then 97 + n else 22 + n)

/-- The least digit at a place that does not end the number. Places are counted in steps of 36. -/
def threshold (place bias : Nat) : Nat :=
  max 1 (min 26 (place - bias))

theorem threshold_pos (place bias : Nat) : 0 < threshold place bias := by
  simp only [threshold]; omega

/-- Divides by 35 until 455 is not exceeded; the second part grows by 36 each time. -/
def shrink (n steps : Nat) : Nat × Nat :=
  if 455 < n then shrink (n / 35) (steps + 36) else (n, steps)
termination_by n

/-- The bias behind a number, after which there are `count` characters. -/
def adapt (number count : Nat) (first : Bool) : Nat :=
  let n := if first then number / 700 else number / 2
  let (n, steps) := shrink (n + n / count) 0
  steps + 36 * n / (n + 38)

/-- The bias in front of the first number. -/
def firstBias : Nat := 72

/-! ### Reading -/

/-- A label into which characters are being put. -/
structure Reading where
  chars : List Char
  code : Nat
  index : Nat
  bias : Nat

/-- Puts in the character that is a number of places away from the last one. -/
def Reading.insert? (r : Reading) (number : Nat) : Option Reading :=
  let count := r.chars.length + 1
  let code := r.code + (r.index + number) / count
  let index := (r.index + number) % count
  if code.isValidChar then
    some ⟨r.chars.insertIdx index (Char.ofNat code), code, index + 1,
      adapt number count (r.index == 0)⟩
  else none

/-- Reads numbers and puts in their characters; `number` is what the digits of the current one
have come to, `weight` and `place` are those of the next digit. Numbers have 32 bits. -/
def readNumbers (r : Reading) (number weight place : Nat) : List Char → Option (List Char)
  | [] => if place = 36 then some r.chars else none
  | c :: cs =>
    match digitValue? c with
    | none => none
    | some d =>
      let number := number + d * weight
      let rest := 36 - threshold place r.bias
      if 2 ^ 32 ≤ r.index + number then none
      else if d < threshold place r.bias then
        match r.insert? number with
        | none => none
        | some r => readNumbers r 0 1 36 cs
      else if 2 ^ 32 ≤ weight * rest then none
      else readNumbers r number (weight * rest) (place + 36) cs

def decode? (cs : List Char) : Option (List Char) :=
  let (plain, numbers) := match Text.splitLast? '-' cs with
    | some (c :: plain, numbers) => (c :: plain, numbers)
    | _ => ([], cs)
  if plain.all fun c => c.toNat < 128 then readNumbers ⟨plain, 128, 0, firstBias⟩ 0 1 36 numbers
  else none

/-! ### Writing -/

/-- The digits of a number from a place on. -/
def digits (bias place n : Nat) : List Char :=
  let t := threshold place bias
  if n < t then [digit n]
  else digit (t + (n - t) % (36 - t)) :: digits bias (place + 36) ((n - t) / (36 - t))
termination_by n
decreasing_by
  have pos := threshold_pos place bias
  exact Nat.lt_of_le_of_lt (Nat.div_le_self _ _) (by omega)

/-- A label being written. -/
structure Writing where
  digits : List Char
  number : Nat
  bias : Nat
  count : Nat

/-- Passes a character of the label while those of a code are written; `plain` is how many are
of ASCII. -/
def Writing.pass (plain code : Nat) (w : Writing) (c : Char) : Writing :=
  if c.toNat < code then { w with number := w.number + 1 }
  else if c.toNat = code then
    ⟨w.digits ++ Punycode.digits w.bias 36 w.number, 0,
      adapt w.number (w.count + 1) (w.count == plain), w.count + 1⟩
  else w

/-- Writes the characters of the codes, which increase; `next` is the code behind the one written
last. -/
def writeCodes (cs : List Char) (plain : Nat) (w : Writing) (next : Nat) : List Nat → List Char
  | [] => w.digits
  | code :: codes =>
    let start := { w with number := w.number + (code - next) * (w.count + 1) }
    let behind := cs.foldl (Writing.pass plain code) start
    writeCodes cs plain { behind with number := behind.number + 1 } (code + 1) codes

def encode (cs : List Char) : List Char :=
  let plain := cs.filter fun c => c.toNat < 128
  let codes := ((cs.map Char.toNat).filter (128 ≤ ·)).mergeSort.eraseReps
  (if plain.isEmpty then [] else plain ++ ['-'])
    ++ writeCodes cs plain.length ⟨[], 0, firstBias, plain.length⟩ 128 codes

end QuorumVault.Punycode
