/-
Addresses on the web.

An address names a scheme, a host, perhaps a port, a path, and perhaps a query and a
fragment.  It is read leniently: blanks around it, tabs and line ends do not count,
there may be any number of slashes behind the scheme, and a backslash is a slash.  What
stands in front of an `@` says who asks and is no part of what is asked.

An address is written in one way: its host in ASCII, its path without steps to the same
or the upper level, and everything that cannot stand in it by its code.
-/
import QuorumVault.Powers
import QuorumVault.Url.Host

namespace QuorumVault

/-- An address. -/
structure Url where
  scheme : List Char
  host : Host
  port : Option Nat
  path : List (List Char)
  query : Option (List Char)
  fragment : Option (List Char)
deriving DecidableEq, Repr

namespace Url

/-- Why a text is no address. -/
inductive Fault where
  | noScheme
  | otherScheme
  | host (fault : Host.Fault)
  | badPort
deriving DecidableEq, Repr

def Fault.message : Fault → String
  | .noScheme => "relative URL without a base"
  | .otherScheme => "URL scheme is not allowed"
  | .host fault => fault.message
  | .badPort => "invalid port number"

/-! ### The scheme -/

/-- The schemes of the web with their ports. -/
def schemes : List (List Char × Nat) :=
  [("http".toList, 80), ("https".toList, 443)]

/-- The scheme in small letters, and what is behind its colon. -/
def splitScheme? (cs : List Char) : Option (List Char × List Char) :=
  match cs.span fun c => c.isAlphanum || c == '+' || c == '-' || c == '.' with
  | (first :: rest, ':' :: behind) =>
    if first.isAlpha then some ((first :: rest).map Char.toLower, behind) else none
  | _ => none

/-! ### Host and port -/

/-- A slash of either kind. -/
def isSlash (c : Char) : Bool :=
  c == '/' || c == '\\'

/-- What ends the part that names user, host and port. -/
def endsAuthority (c : Char) : Bool :=
  isSlash c || c == '?' || c == '#'

/-- What is behind the last `@`, or everything. -/
def behindUser (cs : List Char) : List Char :=
  match Text.splitLast? '@' cs with
  | some (_, behind) => behind
  | none => cs

/-- The host, and what is behind it from a colon outside brackets on. -/
def splitHost (inBrackets : Bool) : List Char → List Char × List Char
  | [] => ([], [])
  | c :: cs =>
    if c == ':' && !inBrackets then ([], c :: cs)
    else
      let (host, port) := splitHost (c == '[' || inBrackets && c != ']') cs
      (c :: host, port)

/-- Reads a port from its colon on; none is none. -/
def port? (cs : List Char) : Option (Option Nat) :=
  match cs.drop 1 with
  | [] => some none
  | digits => ((Host.digits? 10 digits).filter (· < 2 ^ 16)).map some

/-! ### The path -/

/-- What a level of a path cannot hold as it is. -/
def pathReserved : List Char := " \"#<>?^\x60\x7b\x7d".toList

/-- What a query cannot hold as it is. -/
def queryReserved : List Char := " \"#<>'".toList

/-- What a fragment cannot hold as it is. -/
def fragmentReserved : List Char := " \"<>\x60".toList

/-- A level with its points written as such. -/
def points (level : List Char) : List Char :=
  match level with
  | '%' :: '2' :: e :: rest => if e = 'e' ∨ e = 'E' then '.' :: points rest else level
  | c :: rest => c :: points rest
  | [] => []

/-- A letter and a colon or a bar behind it: a drive, above which there is nothing. -/
def isDrive (level : List Char) : Bool :=
  match level with
  | [letter, sign] => letter.isAlpha && (sign == ':' || sign == '|')
  | _ => false

/-- The levels without the last one. -/
def upper (levels : List (List Char)) : List (List Char) :=
  if levels.getLast?.any isDrive then levels else levels.dropLast

/-- Takes the steps of a path, one after the other; the last step ends at a level even if it leads
to the same or the upper one. -/
def steps (levels : List (List Char)) : List (List Char) → List (List Char)
  | [] => levels
  | step :: rest =>
    let isLast := rest.isEmpty
    let above := upper levels
    if points step = ['.', '.'] then steps (if isLast then above ++ [[]] else above) rest
    else if points step = ['.'] then steps (if isLast then levels ++ [[]] else levels) rest
    else steps (levels ++ [Percent.encode pathReserved step]) rest

def pathOf (cs : List Char) : List (List Char) :=
  match cs with
  | [] => [[]]
  | c :: rest => steps [] (Text.parts isSlash (if isSlash c then rest else c :: rest))

/-! ### The whole -/

/-- What is before a character, and what is behind it, if it is there. -/
def cut (c : Char) (cs : List Char) : List Char × Option (List Char) :=
  match cs.span (· != c) with
  | (before, _ :: behind) => (before, some behind)
  | (before, []) => (before, none)

/-- The text without blanks around it, tabs and line ends. -/
def trimmed (text : String) : List Char :=
  let outside (c : Char) : Bool := c.toNat ≤ 32
  let inner := ((text.toList.dropWhile outside).reverse.dropWhile outside).reverse
  inner.filter fun c => !(c == '\t' || c == '\n' || c == '\r')

def ofText (text : String) : Except Fault Url :=
  match splitScheme? (trimmed text) with
  | none => .error .noScheme
  | some (scheme, rest) =>
    match schemes.lookup scheme with
    | none => .error .otherScheme
    | some ownPort => do
      let (authority, place) := (rest.dropWhile isSlash).span (!endsAuthority ·)
      let (host, port) := splitHost false (behindUser authority)
      let host ← (Host.ofChars host).mapError .host
      let port ← match port? port with
        | some port => .ok port
        | none => .error .badPort
      let (place, fragment) := cut '#' place
      let (path, query) := cut '?' place
      return ⟨scheme, host, port.filter (· ≠ ownPort), pathOf path,
        query.map (Percent.encode queryReserved), fragment.map (Percent.encode fragmentReserved)⟩

/-- The address in its one form. -/
def chars (u : Url) : List Char :=
  let port := match u.port with
    | some n => ':' :: Nat.toDigits 10 n
    | none => []
  let query := match u.query with
    | some cs => '?' :: cs
    | none => []
  let fragment := match u.fragment with
    | some cs => '#' :: cs
    | none => []
  u.scheme ++ "://".toList ++ u.host.chars ++ port ++ u.path.flatMap ('/' :: ·) ++ query ++ fragment

/-- The address in its one form. -/
def text (u : Url) : String :=
  String.ofList u.chars

/-! ### Requests -/

/-- How long an address can be that is asked. -/
def longest : Nat := 2 ^ 16 - 2

/-- A character that the name of a host in a request can have. -/
def isAskable (c : Char) : Bool :=
  c.isAlphanum || "-._~!$&'()*+,;=".toList.contains c

/-- Whether a request can be sent to the address: a few signs are taken in a host's name when it is
read, but are in no host's name that is asked. -/
def isRequestable (u : Url) : Bool :=
  u.host.chars.all (fun c => isAskable c || "[:]".toList.contains c) && u.chars.length ≤ longest

end Url

end QuorumVault
