/-
Reading JSON text byte by byte.

A reader consumes bytes from a cursor, which knows the line and the column it stands
at, and ends with a value or with a fault that names a place.  Most faults name the
place behind the byte they are about; those about something already consumed name the
place reached.

A string is read to its closing quote before anyone asks whether its bytes, with those
that escapes stand for among them, are UTF-8.  If not, the fault is named by its
distance from that quote: as far in front of it as the first byte that is in the way
is from the end of the bytes.

Loops that run to the end of the text are bounded by the number of bytes left, and
each turn of such a loop consumes at least one of them.
-/
import QuorumVault.Encoding.Hex
import QuorumVault.Json.Fault
import QuorumVault.Powers

namespace QuorumVault.Json

/-- What is left of a text, and where it begins. -/
structure Cursor where
  rest : Bytes
  line : Nat
  /-- The number of bytes of that line in front of it. -/
  column : Nat

namespace Cursor

/-- The beginning of a text. -/
def start (bytes : Bytes) : Cursor :=
  ⟨bytes, 1, 0⟩

/-- Where the cursor stands. -/
def place (c : Cursor) : Place :=
  ⟨c.line, c.column⟩

/-- The cursor behind the next byte, or where it is at the end. -/
def advance (c : Cursor) : Cursor :=
  match c.rest with
  | [] => c
  | b :: rest => if b = 10 then ⟨rest, c.line + 1, 0⟩ else ⟨rest, c.line, c.column + 1⟩

/-- Skips blanks, tabs and line ends. -/
def skipBlanks (line column : Nat) : Bytes → Cursor
  | [] => ⟨[], line, column⟩
  | b :: rest =>
    if b = 10 then skipBlanks (line + 1) 0 rest
    else if b = 32 ∨ b = 9 ∨ b = 13 then skipBlanks line (column + 1) rest
    else ⟨b :: rest, line, column⟩

/-- The value of a decimal digit. -/
def digit? (b : UInt8) : Option Nat :=
  if 48 ≤ b.toNat ∧ b.toNat ≤ 57 then some (b.toNat - 48) else none

/-- The digits in front and the cursor behind them. -/
def digits (line column : Nat) : Bytes → List Nat × Cursor
  | [] => ([], ⟨[], line, column⟩)
  | b :: rest =>
    match digit? b with
    | some d => let (ds, c) := digits line (column + 1) rest; (d :: ds, c)
    | none => ([], ⟨b :: rest, line, column⟩)

end Cursor

abbrev Reader := StateT Cursor (Except Fault)

namespace Reader

/-- Fails at the place reached. -/
def fail {α : Type} (complaint : Complaint) : Reader α :=
  fun c => .error ⟨complaint, some c.place⟩

/-- Fails behind the next byte. -/
def failNext {α : Type} (complaint : Complaint) : Reader α :=
  fun c => .error ⟨complaint, some c.advance.place⟩

/-- The next byte, left where it is. -/
def peek : Reader (Option UInt8) :=
  fun c => .ok (c.rest.head?, c)

def skip : Reader Unit :=
  fun c => .ok ((), c.advance)

def next : Reader (Option UInt8) :=
  fun c => .ok (c.rest.head?, c.advance)

/-- Consumes blanks, tabs and line ends. -/
def blanks : Reader Unit :=
  fun c => .ok ((), Cursor.skipBlanks c.line c.column c.rest)

/-- The next byte behind blanks. -/
def peekBehindBlanks : Reader (Option UInt8) := do
  blanks
  peek

/-- How many bytes are left. -/
def remaining : Reader Nat :=
  fun c => .ok (c.rest.length, c)

def digits : Reader (List Nat) :=
  fun c => .ok (Cursor.digits c.line c.column c.rest)

/-- The rest of one of the three words, whose first letter is gone. -/
def word : Bytes → Reader Unit
  | [] => pure ()
  | b :: rest => do
    match ← next with
    | none => fail .endBeforeValue
    | some d => if d = b then word rest else fail .unknownWord

/-! ### Strings -/

/-- The value of four hexadecimal digits, which are consumed even if they are none. -/
def fourDigits : Reader Nat := fun c =>
  match c.rest with
  | a :: b :: d :: e :: _ =>
    let behind := c.advance.advance.advance.advance
    match Hex.digitValue a, Hex.digitValue b, Hex.digitValue d, Hex.digitValue e with
    | some w, some x, some y, some z => .ok (((w * 16 + x) * 16 + y) * 16 + z, behind)
    | _, _, _, _ => .error ⟨.badEscape, some behind.place⟩
  | short => .error ⟨.endInString, some (short.foldl (fun d _ => d.advance) c).place⟩

/-- The byte that a short escape stands for. -/
def shortEscape (b : UInt8) : Option UInt8 :=
  if b = 34 ∨ b = 92 ∨ b = 47 then some b
  else if b = 98 then some 8
  else if b = 102 then some 12
  else if b = 110 then some 10
  else if b = 114 then some 13
  else if b = 116 then some 9
  else none

/-- The byte that must follow the first half of a surrogate pair. -/
def surrogateMark (b : UInt8) : Reader Unit := do
  match ← peek with
  | none => fail .endInString
  | some d =>
    skip
    if d = b then pure () else fail .brokenSurrogate

/-- The character of an escape by code, behind the `u`. -/
def codeEscape : Reader Char := do
  let n ← fourDigits
  if 0xDC00 ≤ n ∧ n ≤ 0xDFFF then fail .loneSurrogate
  else if n < 0xD800 ∨ 0xDBFF < n then return Char.ofNat n
  else
    surrogateMark 92
    surrogateMark 117
    let n₂ ← fourDigits
    if n₂ < 0xDC00 ∨ 0xDFFF < n₂ then fail .loneSurrogate
    else return Char.ofNat ((n - 0xD800) * 1024 + (n₂ - 0xDC00) + 0x10000)

/-- The character of an escape, behind the backslash. -/
def escape : Reader Char := do
  match ← next with
  | none => fail .endInString
  | some b =>
    if b = 117 then codeEscape
    else
      match shortEscape b with
      | some d => return Char.ofNat d.toNat
      | none => fail .badEscape

/-- The bytes in front that a string gives as they are: those up to a quote, a backslash or a
control character. -/
def plainBytes : Reader Bytes := fun c =>
  let plain := c.rest.takeWhile fun b => b ≠ 34 && b ≠ 92 && !(b.toNat < 32)
  .ok (plain, ⟨c.rest.drop plain.length, c.line, c.column + plain.length⟩)

/-- The bytes of a string up to its closing quote, which is consumed; escapes give the bytes of
their characters. -/
def stringBytes : Nat → Reader Bytes
  | 0 => fail .endInString
  | bound + 1 => do
    let plain ← plainBytes
    match ← next with
    | none => fail .endInString
    | some b =>
      if b = 34 then return plain
      else if b = 92 then do
        let c ← escape
        return plain ++ Utf8.encodePoint c.toNat ++ (← stringBytes bound)
      else fail .rawControl

/-- The text that the bytes of a string spell, whose closing quote has just been consumed. -/
def spelled (bytes : Bytes) : Reader String := fun c =>
  match Utf8.decode bytes with
  | .ok text => .ok (text, c)
  | .error fault => .error ⟨.badText, some ⟨c.line, c.column - (bytes.length - fault.index)⟩⟩

/-- A string, behind its opening quote. -/
def string : Reader String := do
  spelled (← stringBytes ((← remaining) + 1))

/-! ### Numbers -/

/-- Appends digits to a significand of 64 bits; the second part counts the digits that no longer
fit. -/
def accumulate : Nat → List Nat → Nat × Nat
  | n, [] => (n, 0)
  | n, d :: ds => if 10 * n + d < 2 ^ 64 then accumulate (10 * n + d) ds else (n, ds.length + 1)

/-- The value of a significand and a power of ten. -/
def scaled (negative : Bool) (significand : Nat) (exponent : Int) : Reader Number := do
  match Binary64.ofDecimal negative significand exponent with
  | some x => return .float x
  | none => fail .hugeNumber

/-- The exponent that digits spell, or how many of them are read until it outgrows 31 bits. -/
def exponentValue (n read : Nat) : List Nat → Nat × Option Nat
  | [] => (n, none)
  | d :: ds =>
    if 10 * n + d < 2 ^ 31 then exponentValue (10 * n + d) (read + 1) ds else (n, some (read + 1))

/-- Keeps an exponent within 32 bits. -/
def saturate (e : Int) : Int :=
  max (-(2 ^ 31)) (min (2 ^ 31 - 1) e)

/-- The exponent behind a number and the number's value. -/
def exponent (negative : Bool) (significand : Nat) (power : Int) : Reader Number := do
  skip
  let minus ← match ← peek with
    | some 43 => do skip; pure false
    | some 45 => do skip; pure true
    | _ => pure false
  let before ← get
  let ds ← digits
  match ds with
  | [] =>
    match ← next with
    | none => fail .endBeforeValue
    | some _ => fail .badNumber
  | ds =>
    match exponentValue 0 0 ds with
    | (n, none) => scaled negative significand (saturate (if minus then power - n else power + n))
    | (_, some read) =>
      if significand ≠ 0 ∧ ¬ minus then
        throw ⟨.hugeNumber, some ⟨before.line, before.column + read⟩⟩
      else return .float ⟨negative, 0, 0⟩

/-- The fraction behind a number and the number's value. -/
def fraction (negative : Bool) (significand : Nat) (power : Int) : Reader Number := do
  skip
  let ds ← digits
  if ds = [] then
    match ← peek with
    | none => failNext .endBeforeValue
    | some _ => failNext .badNumber
  else
    let (n, dropped) := accumulate significand ds
    let power : Int := power - (ds.length - dropped : Nat)
    match ← peek with
    | some 101 => exponent negative n power
    | some 69 => exponent negative n power
    | _ => scaled negative n power

/-- A number, behind its sign. -/
def number (negative : Bool) : Reader Number := do
  match ← peek with
  | none => fail .endBeforeValue
  | some b =>
    match Cursor.digit? b with
    | none => do skip; fail .badNumber
    | some first => do
      skip
      let (n, dropped) ← if first = 0 then pure (0, 0) else (accumulate first) <$> digits
      match ← peek with
      | some 46 => fraction negative n dropped
      | some 101 => exponent negative n dropped
      | some 69 => exponent negative n dropped
      | next =>
        if first = 0 ∧ (next.bind Cursor.digit?).isSome then failNext .badNumber
        else if dropped ≠ 0 then scaled negative n dropped
        else if ¬ negative then return .natural n
        else if 1 ≤ n ∧ n ≤ 2 ^ 63 then return .negative n
        else scaled true n 0

/-! ### Values of the wrong kind, and values nobody asked for -/

/-- Complains about the value that stands here. A list or an object is only looked at, anything
else is consumed. -/
def wrongType {α : Type} (wanted : String) : Reader α := do
  let complain (found : Found) : Reader α := fail (.wrongType found wanted)
  match ← peek with
  | some 110 => do skip; word [117, 108, 108]; complain .null
  | some 116 => do skip; word [114, 117, 101]; complain (.bool true)
  | some 102 => do skip; word [97, 108, 115, 101]; complain (.bool false)
  | some 45 => do skip; complain (.number (← number true))
  | some 34 => do skip; complain (.string (← string))
  | some 91 => complain .sequence
  | some 123 => complain .map
  | some b =>
    if (Cursor.digit? b).isSome then do complain (.number (← number false)) else failNext .noValue
  | none => failNext .noValue

/-- Skips a string, behind its opening quote; what it says does not matter. -/
def skipString : Nat → Reader Unit
  | 0 => fail .endInString
  | bound + 1 => do
    match ← peek with
    | none => fail .endInString
    | some b =>
      if b = 34 then skip
      else if b = 92 then do
        skip
        match ← next with
        | none => fail .endInString
        | some e =>
          if e = 117 then do
            let _ ← fourDigits
            skipString bound
          else if (shortEscape e).isSome then skipString bound
          else fail .badEscape
      else if b.toNat < 32 then fail .rawControl
      else do skip; skipString bound

/-- Skips the exponent of a number. -/
def skipExponent : Reader Unit := do
  skip
  match ← peek with
  | some 43 => skip
  | some 45 => skip
  | _ => pure ()
  if (← digits) = [] then do skip; fail .badNumber

/-- Skips a number, behind its sign; how large it is does not matter. -/
def skipNumber : Reader Unit := do
  match (← peek).bind Cursor.digit? with
  | none => do skip; fail .badNumber
  | some first =>
    skip
    let _ ← if first = 0 then pure [] else digits
    match ← peek with
    | some 46 => do
      skip
      if (← digits) = [] then failNext .badNumber
      match ← peek with
      | some 101 => skipExponent
      | some 69 => skipExponent
      | _ => pure ()
    | some 101 => skipExponent
    | some 69 => skipExponent
    | some b => if first = 0 ∧ (Cursor.digit? b).isSome then failNext .badNumber
    | none => pure ()

/-- Whether a list or an object is open. -/
inductive Frame where
  | list
  | object
deriving DecidableEq

/-- The byte that closes it. -/
def Frame.closing : Frame → UInt8
  | .list => 93
  | .object => 125

/-- What comes next while values are skipped. -/
inductive Skipping where
  | value
  /-- The first item of the innermost open list or object, or its end. -/
  | first
  /-- A comma or the end of the innermost open list or object. -/
  | more
deriving DecidableEq

/-- The name of a member and its colon, if the innermost open thing is an object. -/
def skipName : Frame → Reader Unit
  | .list => pure ()
  | .object => do
    match ← peekBehindBlanks with
    | none => failNext .endInObject
    | some b => if b = 34 then skip else failNext .nameNotString
    skipString ((← remaining) + 1)
    match ← peekBehindBlanks with
    | none => failNext .endInObject
    | some b => if b = 58 then skip else failNext .noColon

/-- Skips values until nothing is open any more. -/
def skipValues : Nat → Skipping → List Frame → Reader Unit
  | 0, _, _ => failNext .endBeforeValue
  | _ + 1, .more, [] => pure ()
  | _ + 1, .first, [] => pure ()
  | bound + 1, .value, stack => do
    match ← peekBehindBlanks with
    | none => failNext .endBeforeValue
    | some 110 => do skip; word [117, 108, 108]; skipValues bound .more stack
    | some 116 => do skip; word [114, 117, 101]; skipValues bound .more stack
    | some 102 => do skip; word [97, 108, 115, 101]; skipValues bound .more stack
    | some 45 => do skip; skipNumber; skipValues bound .more stack
    | some 34 => do skip; skipString ((← remaining) + 1); skipValues bound .more stack
    | some 91 => do skip; skipValues bound .first (.list :: stack)
    | some 123 => do skip; skipValues bound .first (.object :: stack)
    | some b =>
      if (Cursor.digit? b).isSome then do skipNumber; skipValues bound .more stack
      else failNext .noValue
  | bound + 1, state, frame :: stack => do
    match ← peekBehindBlanks with
    | none => failNext (match frame with | .list => .endInList | .object => .endInObject)
    | some b =>
      if b = frame.closing then do skip; skipValues bound .more stack
      else if state = .first then do skipName frame; skipValues bound .value (frame :: stack)
      else if b = 44 then do skip; skipName frame; skipValues bound .value (frame :: stack)
      else failNext (match frame with | .list => .noCommaInList | .object => .noCommaInObject)

/-- Skips one value of any kind. -/
def skipValue : Reader Unit := do
  skipValues (2 * (← remaining) + 2) .value []

/-! ### Lists and objects -/

/-- Whether another item follows; `first` before the first one. The comma before it is consumed, the
bracket behind the last is not. -/
def anotherItem (first : Bool) : Reader Bool := do
  match ← peekBehindBlanks with
  | none => failNext .endInList
  | some 93 => return false
  | some b =>
    if first then return true
    else if b = 44 then do
      skip
      match ← peekBehindBlanks with
      | none => failNext .endBeforeValue
      | some 93 => failNext .trailingComma
      | some _ => return true
    else failNext .noCommaInList

/-- The bracket that closes a list of which enough has been read. -/
def closeList : Reader Unit := do
  match ← peekBehindBlanks with
  | none => failNext .endInList
  | some 93 => skip
  | some 44 => do
    skip
    match ← peekBehindBlanks with
    | some 93 => failNext .trailingComma
    | _ => failNext .trailingText
  | some _ => failNext .trailingText

/-- The name of the next member, or none at the closing brace, which is left; `first` before the
first member. -/
def memberName (first : Bool) : Reader (Option String) := do
  match ← peekBehindBlanks with
  | none => failNext .endInObject
  | some 125 => return none
  | some b =>
    if first then do
      if b = 34 then do skip; return some (← string) else failNext .nameNotString
    else if b = 44 then do
      skip
      match ← peekBehindBlanks with
      | none => failNext .endBeforeValue
      | some 34 => do skip; return some (← string)
      | some 125 => failNext .trailingComma
      | some _ => failNext .nameNotString
    else failNext .noCommaInObject

/-- The colon behind a name. -/
def colon : Reader Unit := do
  match ← peekBehindBlanks with
  | none => failNext .endInObject
  | some b => if b = 58 then skip else failNext .noColon

/-- Complains about an object as a whole: behind its closing brace if that comes next. -/
def complainObject {α : Type} (complaint : Complaint) : Reader α := do
  match ← peekBehindBlanks with
  | some 125 => do skip; fail complaint
  | _ => fail complaint

/-- Complains about a list as a whole: behind its closing bracket if that comes next. -/
def complainList {α : Type} (complaint : Complaint) : Reader α := do
  match ← peekBehindBlanks with
  | some 93 => do skip; fail complaint
  | _ => fail complaint

/-- Nothing but blanks follow. -/
def finish : Reader Unit := do
  match ← peekBehindBlanks with
  | none => pure ()
  | some _ => failNext .trailingText

end Reader

end QuorumVault.Json
