/-
Composed text.

The same text can be spelled with accents on their letters or behind them, and with
accents on one letter in any order.  `compose` gives all spellings of a text the same
form: every letter is taken apart, the marks behind it are put in the order of their
classes, and then letter and marks are joined again as far as they go.  A mark cannot
join its letter over another one of its own class or of a higher one.

The syllables of Korean are put together by rule instead of by table: from a leading
consonant, a vowel and perhaps a consonant behind it.
-/
import QuorumVault.Text.Accent

namespace QuorumVault.Text

namespace Hangul

/-- The first of the leading consonants. -/
def leading : Nat := 0x1100

/-- The first of the vowels. -/
def vowel : Nat := 0x1161

/-- The code point in front of the consonants behind the vowel. -/
def trailing : Nat := 0x11A7

/-- The first of the syllables. -/
def syllable : Nat := 0xAC00

/-- How many syllables there are. -/
def count : Nat := 19 * 21 * 28

/-- The two parts of a syllable: a consonant at the end and what is before it, or a leading
consonant and a vowel. -/
def split? (c : Char) : Option (Char × Char) :=
  let n := c.toNat
  if syllable ≤ n ∧ n < syllable + count then
    let k := n - syllable
    if k % 28 = 0 then
      some (Char.ofNat (leading + k / 588), Char.ofNat (vowel + k % 588 / 28))
    else some (Char.ofNat (n - k % 28), Char.ofNat (trailing + k % 28))
  else none

/-- The syllable of two parts. -/
def pair? (a b : Char) : Option Char :=
  let m := a.toNat
  let n := b.toNat
  if leading ≤ m ∧ m < leading + 19 ∧ vowel ≤ n ∧ n < vowel + 21 then
    some (Char.ofNat (syllable + (m - leading) * 588 + (n - vowel) * 28))
  else if syllable ≤ m ∧ m < syllable + count ∧ (m - syllable) % 28 = 0
      ∧ trailing < n ∧ n < trailing + 28 then
    some (Char.ofNat (m + (n - trailing)))
  else none

end Hangul

namespace Composed

open Accent

/-- The two characters that a character stands for. -/
def split? (c : Char) : Option (Char × Char) :=
  match pairs.value? c.toNat with
  | some [a, b] => some (Char.ofNat a, Char.ofNat b)
  | _ => Hangul.split? c

/-- The character that stands for two. -/
def pair? (a b : Char) : Option Char :=
  match pairs.find? fun r => r.value = [a.toNat, b.toNat] with
  | some r => some (Char.ofNat r.first)
  | none => Hangul.pair? a b

/-- Takes a character apart. No character takes more than two steps, since what is split off is
never taken apart itself. -/
def decompose (c : Char) : List Char :=
  match split? c with
  | none => [c]
  | some (a, b) =>
    match split? a with
    | none => [a, b]
    | some (x, y) => [x, y, b]

/-- Puts a character in front of others, behind those marks that have to be before it. -/
def place (c : Char) : List Char → List Char
  | [] => [c]
  | d :: ds =>
    if 0 < classOf d ∧ classOf d < classOf c then d :: place c ds else c :: d :: ds

/-- Puts the marks behind each character in the order of their classes. -/
def order : List Char → List Char
  | [] => []
  | c :: cs => place c (order cs)

/-- Joins what follows to a character; `marks` are those behind it that could not be joined, the
last of them first. -/
def joinTo (base : Char) (marks : List Char) : List Char → List Char
  | [] => base :: marks.reverse
  | c :: cs =>
    let joined := if marks.head?.all fun m => classOf m < classOf c then pair? base c else none
    match joined with
    | some d => joinTo d marks cs
    | none =>
      if classOf c = 0 then base :: marks.reverse ++ joinTo c [] cs
      else joinTo base (c :: marks) cs

/-- Joins marks to the characters before them; those in front of everything stay. -/
def join : List Char → List Char
  | [] => []
  | c :: cs => if classOf c = 0 then joinTo c [] cs else c :: join cs

end Composed

/-- The one form of all spellings of a text. -/
def compose (cs : List Char) : List Char :=
  Composed.join (Composed.order (cs.flatMap Composed.decompose))

end QuorumVault.Text
