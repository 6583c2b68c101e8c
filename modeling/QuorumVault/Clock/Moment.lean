/-
Dates and times of day.

A vault records when it was created, in coordinated universal time.  Such a moment
is written as year, month and day, a `T`, hour, minute and second, the fraction of
the second with no, three, six or nine digits, whichever is exact, and a `Z`.

Reading is more generous than writing.  Numbers need not have all their digits, white
space may stand before each number and around the marks between them, a year that
bears a sign may be of any length, the `T` may be small or a space, and in place of
`Z` there may be an offset from universal time in hours and minutes, which is taken
off.  Second 60 is a leap second and stays one.

The text is judged from left to right, and each number as soon as it is read: a day
that no month has is out of range even if the rest is no date at all.  Whether the
month has the day is only known at the end.
-/
import QuorumVault.Powers
import QuorumVault.Text.Blank

namespace QuorumVault

/-- Whether a year has a 29 February. -/
def isLeapYear (year : Int) : Bool :=
  year % 4 = 0 && (year % 100 ≠ 0 || year % 400 = 0)

/-- How many days a month has. -/
def daysInMonth (year : Int) (month : Nat) : Nat :=
  if month = 2 then (if isLeapYear year then 29 else 28)
  else if month = 4 ∨ month = 6 ∨ month = 9 ∨ month = 11 then 30
  else 31

/-- The first year of the calendar. -/
def minYear : Int := -262143

/-- The last year of the calendar. -/
def maxYear : Int := 262142

/-- A day of the calendar. -/
structure Day where
  /-- The year, zero and below for the years before the first. -/
  year : Int
  month : Nat
  day : Nat
deriving DecidableEq, Repr

namespace Day

def Valid (d : Day) : Prop :=
  minYear ≤ d.year ∧ d.year ≤ maxYear ∧ 1 ≤ d.month ∧ d.month ≤ 12 ∧ 1 ≤ d.day
    ∧ d.day ≤ daysInMonth d.year d.month

instance (d : Day) : Decidable d.Valid :=
  inferInstanceAs (Decidable (_ ∧ _))

def next (d : Day) : Day :=
  if d.day < daysInMonth d.year d.month then { d with day := d.day + 1 }
  else if d.month < 12 then ⟨d.year, d.month + 1, 1⟩
  else ⟨d.year + 1, 1, 1⟩

def previous (d : Day) : Day :=
  if 1 < d.day then { d with day := d.day - 1 }
  else if 1 < d.month then ⟨d.year, d.month - 1, daysInMonth d.year (d.month - 1)⟩
  else ⟨d.year - 1, 12, 31⟩

end Day

/-- A moment in coordinated universal time. -/
structure Moment where
  date : Day
  minute : Nat
  /-- The second of the minute; 60 is a leap second. -/
  second : Nat
  nanosecond : Nat
  date_valid : date.Valid
  minute_lt : minute < 1440
  /-- A minute has 60 seconds and at most one leap second. -/
  second_le : second ≤ 60
  nanosecond_lt : nanosecond < 1000000000
deriving DecidableEq, Repr

namespace Moment

/-- Noon of the first day of the year 2000, a moment like any other. -/
instance : Inhabited Moment :=
  ⟨⟨⟨2000, 1, 1⟩, 720, 0, 0, by decide, by decide, by decide, by decide⟩⟩

/-! ### Writing -/

/-- The last `width` decimal digits of a number. -/
def lastDigits : Nat → Nat → List Char
  | 0, _ => []
  | width + 1, n => lastDigits width (n / 10) ++ [Char.ofNat (48 + n % 10)]

/-- A year: four digits, or a sign and at least four outside the years 0 to 9999. -/
def yearText (year : Int) : List Char :=
  let digits := Nat.toDigits 10 year.natAbs
  let padded := List.replicate (4 - digits.length) '0' ++ digits
  if year < 0 then '-' :: padded else if 9999 < year then '+' :: padded else padded

/-- The fraction of a second, with as many groups of three digits as it needs. -/
def fractionText (nanosecond : Nat) : List Char :=
  if nanosecond = 0 then []
  else if nanosecond % 1000000 = 0 then '.' :: lastDigits 3 (nanosecond / 1000000)
  else if nanosecond % 1000 = 0 then '.' :: lastDigits 6 (nanosecond / 1000)
  else '.' :: lastDigits 9 nanosecond

/-- The characters of a moment. -/
def textChars (m : Moment) : List Char :=
  yearText m.date.year ++ '-' :: lastDigits 2 m.date.month ++ '-' :: lastDigits 2 m.date.day
    ++ 'T' :: lastDigits 2 (m.minute / 60) ++ ':' :: lastDigits 2 (m.minute % 60)
    ++ ':' :: lastDigits 2 m.second ++ fractionText m.nanosecond ++ ['Z']

def text (m : Moment) : String :=
  String.ofList m.textChars

/-! ### Reading -/

/-- Why a text is no moment. -/
inductive Fault where
  | invalid
  | outOfRange
  | tooShort
  | tooLong
  | impossible
deriving DecidableEq, Repr

def Fault.message : Fault → String
  | .invalid => "input contains invalid characters"
  | .outOfRange => "input is out of range"
  | .tooShort => "premature end of input"
  | .tooLong => "trailing input"
  | .impossible => "no possible date and time matching input"

/-- The value of a decimal digit. -/
def digit? (c : Char) : Option Nat :=
  if 48 ≤ c.toNat ∧ c.toNat ≤ 57 then some (c.toNat - 48) else none

/-- Up to `width` further digits behind the number `n`, which may not outgrow 63 bits. -/
def moreDigits : Nat → Nat → List Char → Except Fault (Nat × List Char)
  | 0, n, cs => .ok (n, cs)
  | _ + 1, n, [] => .ok (n, [])
  | width + 1, n, c :: cs =>
    match digit? c with
    | none => .ok (n, c :: cs)
    | some d =>
      if 2 ^ 63 ≤ 10 * n + d then .error .outOfRange else moreDigits width (10 * n + d) cs

/-- A number of at least one and at most `width` digits. -/
def number (width : Nat) : List Char → Except Fault (Nat × List Char)
  | [] => .error .tooShort
  | c :: cs =>
    match digit? c with
    | none => .error .invalid
    | some d => moreDigits (width - 1) d cs

/-- A number within bounds, after white space. -/
def field (width low high : Nat) (cs : List Char) : Except Fault (Nat × List Char) := do
  let (n, rest) ← number width (Text.dropBlank cs)
  if low ≤ n ∧ n ≤ high then return (n, rest) else throw .outOfRange

/-- A year: four digits at most, or a sign and any number of them. -/
def year (cs : List Char) : Except Fault (Int × List Char) := do
  let cs := Text.dropBlank cs
  let (n, rest) ← match cs with
    | '-' :: digits => (number digits.length digits).map fun r => (-(r.1 : Int), r.2)
    | '+' :: digits => (number digits.length digits).map fun r => ((r.1 : Int), r.2)
    | _ => (number 4 cs).map fun r => ((r.1 : Int), r.2)
  if -(2 ^ 31) ≤ n ∧ n < 2 ^ 31 then return (n, rest) else throw .outOfRange

/-- A mark between two numbers, after white space. -/
def mark (c : Char) (cs : List Char) : Except Fault (List Char) :=
  match Text.dropBlank cs with
  | [] => .error .tooShort
  | d :: rest => if d = c then .ok rest else .error .invalid

/-- The fraction of a second in nanoseconds; digits behind the ninth are dropped. -/
def fraction : List Char → Except Fault (Nat × List Char)
  | '.' :: cs => do
    let (n, rest) ← number 9 cs
    let digits := cs.length - rest.length
    return (n * 10 ^ (9 - digits), rest.dropWhile fun c => (digit? c).isSome)
  | cs => .ok (0, cs)

/-- What separates the date from the time of day. -/
def separator : List Char → Except Fault (List Char)
  | [] => .error .tooShort
  | c :: rest => if c = 't' ∨ c = 'T' ∨ c = ' ' then .ok rest else .error .invalid

/-- Two digits of an offset. -/
def twoDigits : List Char → Except Fault (Nat × Nat × List Char)
  | a :: b :: rest =>
    match digit? a, digit? b with
    | some m, some n => .ok (m, n, rest)
    | _, _ => .error .invalid
  | a :: [] => if 128 ≤ a.toNat then .error .invalid else .error .tooShort
  | [] => .error .tooShort

/-- Hours and minutes of an offset, in minutes; a colon or white space may stand between them. -/
def offsetMinutes (cs : List Char) : Except Fault (Nat × List Char) := do
  let (h₁, h₂, rest) ← twoDigits cs
  let (m₁, m₂, rest) ← twoDigits (rest.dropWhile fun c => c == ':' || Text.isBlank c)
  if 5 < m₁ then throw .outOfRange
  return ((10 * h₁ + h₂) * 60 + (10 * m₁ + m₂), rest)

/-- The offset from universal time in minutes. -/
def offset : List Char → Except Fault (Int × List Char)
  | [] => .error .tooShort
  | c :: rest =>
    if c = 'Z' ∨ c = 'z' then .ok (0, rest)
    else if c = '+' then (offsetMinutes rest).map fun r => ((r.1 : Int), r.2)
    else if c = '-' ∨ c = '\u2212' then (offsetMinutes rest).map fun r => (-(r.1 : Int), r.2)
    else .error .invalid

/-- The offset, which may also be spelt out as the name of universal time. -/
def zone (cs : List Char) : Except Fault (Int × List Char) :=
  match Text.dropBlank cs with
  | a :: b :: c :: rest =>
    if a.toUpper = 'U' ∧ b.toUpper = 'T' ∧ c.toUpper = 'C' then .ok (0, rest)
    else offset (a :: b :: c :: rest)
  | short => offset short

/-- A moment from a local day and time and the offset to take off it. -/
def ofLocal (date : Day) (minute second nanosecond : Nat) (offset : Int) : Except Fault Moment :=
  if ¬ date.Valid then .error .outOfRange
  else if ¬ (-1440 < offset ∧ offset < 1440) then .error .outOfRange
  else
    let utc := (minute : Int) - offset
    let (date, minute) :=
      if utc < 0 then (date.previous, (utc + 1440).toNat)
      else if 1440 ≤ utc then (date.next, (utc - 1440).toNat)
      else (date, utc.toNat)
    if h : date.Valid ∧ minute < 1440 ∧ second ≤ 60 ∧ nanosecond < 1000000000 then
      .ok ⟨date, minute, second, nanosecond, h.1, h.2.1, h.2.2.1, h.2.2.2⟩
    else .error .impossible

/-- Reads a moment from characters. -/
def ofChars (cs : List Char) : Except Fault Moment := do
  let (year, cs) ← year cs
  let cs ← mark '-' cs
  let (month, cs) ← field 2 1 12 cs
  let cs ← mark '-' cs
  let (day, cs) ← field 2 1 31 cs
  let cs ← separator cs
  let (hour, cs) ← field 2 0 23 cs
  let cs ← mark ':' cs
  let (minute, cs) ← field 2 0 59 cs
  let cs ← mark ':' cs
  let (second, cs) ← field 2 0 60 cs
  let (nanosecond, cs) ← fraction cs
  let (offset, cs) ← zone cs
  if Text.dropBlank cs ≠ [] then throw .tooLong
  ofLocal ⟨year, month, day⟩ (60 * hour + minute) second nanosecond offset

def ofText (s : String) : Except Fault Moment :=
  ofChars s.toList

end Moment

end QuorumVault
