/-
Numbers with a fraction or an exponent.

Such a number is held as the double-precision value nearest to it.  Only messages
ever show one, so all that is needed is to read it and to write it again, and both
are done in exact whole-number arithmetic.

A value is a mantissa of at most 53 bits times a power of two.  `round` takes the
value nearest to a fraction of whole numbers, and of two equally near ones the one
with the even mantissa.  Writing takes the fewest digits that still read back as the
same value: on the grid of numbers with that many digits the two neighbours of the
value are tried, and the nearer of those that round to it is taken.
-/
import QuorumVault.Powers

namespace QuorumVault

/-- A double-precision number: its magnitude is `mantissa * 2 ^ exponent`. -/
structure Binary64 where
  negative : Bool
  mantissa : Nat
  exponent : Int
deriving DecidableEq, Repr

namespace Binary64

/-- The least power of two. -/
def minExponent : Int := -1074

/-- The greatest power of two. -/
def maxExponent : Int := 971

/-- The fraction `num / den` times a power of two, as a fraction. -/
def scale (num den : Nat) (power : Int) : Nat × Nat :=
  if 0 ≤ power then (num * 2 ^ power.toNat, den) else (num, den * 2 ^ (-power).toNat)

/-- The whole number nearest to a fraction, the even one of two. -/
def nearest (num den : Nat) : Nat :=
  let q := num / den
  let r := num % den
  if 2 * r < den then q else if den < 2 * r then q + 1 else q + q % 2

/-- The power of two at which the fraction has a mantissa of 53 bits, if it can. -/
def exponentFor (num den : Nat) : Int :=
  let guess : Int := (num.log2 : Int) - den.log2 - 52
  let (n, d) := scale num den (-guess)
  max minExponent (if n < d * 2 ^ 52 then guess - 1 else guess)

/-- The magnitude nearest to a fraction, or none if that is too large. -/
def round (num den : Nat) : Option (Nat × Int) :=
  if num = 0 then some (0, 0)
  else
    let e := exponentFor num den
    let (n, d) := scale num den (-e)
    let m := nearest n d
    let (m, e) := if m = 2 ^ 53 then (2 ^ 52, e + 1) else (m, e)
    if maxExponent < e then none else some (m, e)

/-- A magnitude as a fraction. -/
def ratio (m : Nat × Int) : Nat × Nat :=
  scale m.1 1 m.2

/-- The magnitude nearest to a power of ten. -/
def tenTo (k : Nat) : Nat × Int :=
  (round (10 ^ k) 1).getD (0, 0)

/-- A magnitude times or divided by the magnitude nearest to a power of ten, rounded again. -/
def shift (m : Nat × Int) (divide : Bool) (k : Nat) : Option (Nat × Int) :=
  let (n, d) := ratio m
  let (tn, td) := ratio (tenTo k)
  if divide then round (n * td) (d * tn) else round (n * tn) (d * td)

/-- The magnitude of `significand * 10 ^ exponent`, reached by steps of at most 308 powers of ten
each of which rounds; none if it is too large. -/
def shiftFar : Nat → (Nat × Int) → Int → Option (Nat × Int)
  | steps, m, exponent =>
    if exponent.natAbs ≤ 308 then shift m (decide (exponent < 0)) exponent.natAbs
    else if m.1 = 0 then some m
    else if 0 ≤ exponent then none
    else
      match steps, shift m true 308 with
      | steps + 1, some m => shiftFar steps m (exponent + 308)
      | _, _ => some (0, 0)

/-- The value of a significand and a power of ten. -/
def ofDecimal (negative : Bool) (significand : Nat) (exponent : Int) : Option Binary64 := do
  let m ← round significand 1
  let m ← shiftFar 4 m exponent
  return ⟨negative, m.1, m.2⟩

/-! ### Writing -/

/-- Whether a fraction of whole numbers rounds to the magnitude. -/
def roundsTo (m : Nat × Int) (num den : Nat) : Bool :=
  round num den = some m

/-- How many digits a positive number has. -/
def digitCount (n : Nat) : Nat :=
  (Nat.toDigits 10 n).length

/-- The position of the first digit of a positive fraction: the least `p` with the fraction below
`10 ^ p`. -/
def magnitude (num den : Nat) : Int :=
  let guess : Int := (digitCount num : Int) - digitCount den
  -- The guess is off by at most one.
  let below (p : Int) : Bool :=
    if 0 ≤ p then num < den * 10 ^ p.toNat else num * 10 ^ (-p).toNat < den
  if below guess then guess else guess + 1

/-- A number on a decimal grid: a significand and its power of ten. -/
abbrev Decimal := Nat × Int

/-- A decimal number as a fraction. -/
def Decimal.ratio (x : Decimal) : Nat × Nat :=
  if 0 ≤ x.2 then (x.1 * 10 ^ x.2.toNat, 1) else (x.1, 10 ^ (-x.2).toNat)

/-- The neighbour of the magnitude with at most `digits` digits that rounds to it, the nearer one
of two, and the even one of two equally near ones. -/
def onGrid? (m : Nat × Int) (digits : Nat) : Option Decimal :=
  let (num, den) := ratio m
  let power : Int := magnitude num den - digits
  let (n, d) :=
    if 0 ≤ power then (num, den * 10 ^ power.toNat) else (num * 10 ^ (-power).toNat, den)
  let low : Decimal := (n / d, power)
  let high : Decimal := (n / d + 1, power)
  let hits (x : Decimal) : Bool := roundsTo m (Decimal.ratio x).1 (Decimal.ratio x).2
  match hits low, hits high with
  | true, true => some (if nearest n d = n / d then low else high)
  | true, false => some low
  | false, true => some high
  | false, false => none

/-- Drops zeros at the end of a significand. -/
def dropZeros : Nat → Decimal → Decimal
  | 0, x => x
  | fuel + 1, (n, e) => if n ≠ 0 ∧ n % 10 = 0 then dropZeros fuel (n / 10, e + 1) else (n, e)

/-- The shortest decimal number that reads back as the magnitude. -/
def shortest (m : Nat × Int) : Decimal :=
  match (List.range 17).findSome? fun k => onGrid? m (k + 1) with
  | some x => dropZeros 17 x
  | none => (0, 0)

/-- A power of ten: its sign and its digits. -/
def powerText (power : Int) : List Char :=
  (if power < 0 then '-' else '+') :: Nat.toDigits 10 power.natAbs

/-- The magnitude in digits: written out between 0.00001 and 10^16, with an exponent otherwise. -/
def magnitudeText (x : Decimal) : List Char :=
  let digits := Nat.toDigits 10 x.1
  let n : Int := digits.length
  let point := n + x.2
  if 0 ≤ x.2 ∧ point ≤ 16 then digits ++ List.replicate x.2.toNat '0' ++ ['.', '0']
  else if 0 < point ∧ point ≤ 16 then digits.take point.toNat ++ '.' :: digits.drop point.toNat
  else if -5 < point ∧ point ≤ 0 then '0' :: '.' :: List.replicate (-point).toNat '0' ++ digits
  else
    match digits with
    | [d] => d :: 'e' :: powerText (point - 1)
    | d :: rest => d :: '.' :: rest ++ 'e' :: powerText (point - 1)
    | [] => []

def text (x : Binary64) : String :=
  let digits :=
    if x.mantissa = 0 then ['0', '.', '0'] else magnitudeText (shortest (x.mantissa, x.exponent))
  String.ofList (if x.negative then '-' :: digits else digits)

end Binary64

end QuorumVault
