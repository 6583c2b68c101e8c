/-
The host in an address.

A host is a name or a number.  A number in brackets has 128 bits, in up to eight groups
of four hexadecimal digits; groups of nothing but zeros may be left out at one place,
and the last two groups may be written as a number of 32 bits.  A name whose last label
is a number has to be a number of 32 bits as a whole: up to four parts, of which the
last stands for all the bytes that are left, each in decimal, octal behind a zero or
hexadecimal behind `0x`.
-/
import QuorumVault.Powers
import QuorumVault.Url.DomainName
import QuorumVault.Url.Percent

namespace QuorumVault

/-- A host. -/
inductive Host where
  | name (ascii : List Char)
  | short (number : Nat)
  /-- A number of 128 bits, in eight groups. -/
  | long (groups : List Nat)
deriving DecidableEq, Repr

namespace Host

/-- Why something is no host. -/
inductive Fault where
  | empty
  | short
  | long
  | name
deriving DecidableEq, Repr

def Fault.message : Fault → String
  | .empty => "empty host"
  | .short => "invalid IPv4 address"
  | .long => "invalid IPv6 address"
  | .name => "invalid international domain name"

/-! ### Numbers -/

/-- The number that digits of a base spell; none if there is something else among them. -/
def digits? (base : Nat) (cs : List Char) : Option Nat :=
  cs.foldl (fun n c => do
    let d ← if c.toNat < 128 then Hex.digitValue (UInt8.ofNat c.toNat) else none
    if d < base then return base * (← n) + d else none) (some 0)

/-- A part of a number of 32 bits: its base is in front of it. -/
def part? : List Char → Option Nat
  | [] => none
  | ['0'] => some 0
  | '0' :: c :: rest =>
    if c = 'x' ∨ c = 'X' then digits? 16 rest else digits? 8 (c :: rest)
  | cs => digits? 10 cs

/-- The parts of a name; nothing behind the last full stop is no part. -/
def shortParts (cs : List Char) : List (List Char) :=
  match (Text.parts (· == '.') cs).reverse with
  | [] :: before => before.reverse
  | parts => parts.reverse

/-- Whether the last part of a name is a number, or looks like one. -/
def endsInNumber (cs : List Char) : Bool :=
  match (shortParts cs).getLast? with
  | some last => !last.isEmpty && (last.all Char.isDigit || (part? last).isSome)
  | none => false

/-- The number of 32 bits of some parts, `value` being that of those before: all parts but the last
are a byte. -/
def shortOf? (value : Nat) (room : Nat) : List Nat → Option Nat
  | [] => none
  | [last] => if last < 256 ^ room then some (value * 256 ^ room + last) else none
  | n :: rest => if n < 256 ∧ 1 < room then shortOf? (value * 256 + n) (room - 1) rest else none

/-- Reads a number of 32 bits. -/
def short? (cs : List Char) : Option Nat :=
  ((shortParts cs).mapM part?).bind (shortOf? 0 4)

/-- A byte in decimal, as it stands in a number of 128 bits: no zero in front of other digits. -/
def byte? (cs : List Char) : Option Nat :=
  if cs.isEmpty || (1 < cs.length && cs.head? == some '0') then none
  else (digits? 10 cs).filter (· < 256)

def group? (cs : List Char) : Option Nat :=
  if cs.isEmpty || 4 < cs.length then none else digits? 16 cs

/-- The two groups of a number of 32 bits. -/
def twoGroups? (cs : List Char) : Option (List Nat) :=
  match (Text.parts (· == '.') cs).mapM byte? with
  | some [a, b, c, d] => some [256 * a + b, 256 * c + d]
  | _ => none

/-- Reads groups, of which the last one may be a number of 32 bits. -/
def groups? (cs : List Char) : Option (List Nat) := do
  let parts := Text.parts (· == ':') cs
  let last := parts.getLastD []
  let front ← parts.dropLast.mapM group?
  let back ← if last.contains '.' then twoGroups? last else (group? last).map ([·])
  return front ++ back

/-- What is before and behind the first two colons in a row. -/
def splitGap? : List Char → Option (List Char × List Char)
  | ':' :: ':' :: rest => some ([], rest)
  | c :: rest => (splitGap? rest).map fun (before, behind) => (c :: before, behind)
  | [] => none

/-- Reads a number of 128 bits. -/
def long? (cs : List Char) : Option (List Nat) :=
  match splitGap? cs with
  | none => (groups? cs).filter (·.length = 8)
  | some (before, behind) => do
    let front ← if before.isEmpty then some [] else (Text.parts (· == ':') before).mapM group?
    let back ← if behind.isEmpty then some [] else groups? behind
    if front.length + back.length < 8 then
      return front ++ List.replicate (8 - front.length - back.length) 0 ++ back
    else none

/-! ### Reading and writing -/

def ofChars (cs : List Char) : Except Fault Host :=
  if cs.isEmpty then .error .empty
  else if cs.head? = some '[' then
    match if cs.getLast? = some ']' then long? cs.tail.dropLast else none with
    | some groups => .ok (.long groups)
    | none => .error .long
  else
    match Utf8.decodeFrom 0 (Percent.decode (Utf8.encodeChars cs)) with
    | .error _ => .error .name
    | .ok decoded =>
      match DomainName.toAscii? decoded with
      | none => .error .name
      | some [] => .error .empty
      | some ascii =>
        if endsInNumber ascii then
          match short? ascii with
          | some n => .ok (.short n)
          | none => .error .short
        else .ok (.name ascii)

/-- The number of 32 bits in decimal, byte by byte. -/
def shortText (n : Nat) : List Char :=
  Text.joinParts '.' ([n / 2 ^ 24, n / 2 ^ 16, n / 2 ^ 8, n].map fun k => Nat.toDigits 10 (k % 256))

/-- How many groups in front are zero. -/
def zeros (groups : List Nat) : Nat :=
  (groups.takeWhile (· == 0)).length

/-- The place and the length of the longest run of zero groups, the first one of several. -/
def longestZeros : List Nat → Nat × Nat
  | [] => (0, 0)
  | g :: rest =>
    let (place, length) := longestZeros rest
    if length ≤ zeros (g :: rest) then (0, zeros (g :: rest)) else (place + 1, length)

/-- A number of 128 bits without the longest run of zero groups, if it has two or more. -/
def longText (groups : List Nat) : List Char :=
  let text (gs : List Nat) := Text.joinParts ':' (gs.map (Nat.toDigits 16))
  let (place, length) := longestZeros groups
  if length < 2 then text groups
  else text (groups.take place) ++ "::".toList ++ text (groups.drop (place + length))

/-- A host as it stands in an address. -/
def chars : Host → List Char
  | .name ascii => ascii
  | .short n => shortText n
  | .long groups => '[' :: longText groups ++ [']']

end Host

end QuorumVault
