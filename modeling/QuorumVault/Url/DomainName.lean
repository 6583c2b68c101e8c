/-
Domain names.

A name is typed in any script and sent around in ASCII.  On the way its characters are
replaced by their plain forms, the whole is composed, and each of its labels, the parts
between full stops, is read if it is in letters, digits and hyphens already, checked,
and written in them.

A label does not begin with a mark.  The two invisible joiners, which have letters join
or keep them from it, stand only behind a sign that takes a vowel away, or, the one that
keeps from joining, between two letters that would join.  If any label has a letter that
runs from right to left, then each label runs in one direction and looks the same
wherever it stands.  A label already in letters, digits and hyphens must be one that
would have been written that way.
-/
import QuorumVault.Text.Composed
import QuorumVault.Text.Direction
import QuorumVault.Text.Joining
import QuorumVault.Text.Mark
import QuorumVault.Url.DomainName.Mapping
import QuorumVault.Url.Punycode

namespace QuorumVault.DomainName

open Text (Direction)

/-- What a character is replaced by; none if no name can hold it. -/
def replace? (c : Char) : Option (List Char) :=
  match replacements.shifted? c.toNat with
  | some codes => some (codes.map Char.ofNat)
  | none =>
    if dropped.contains c.toNat then some []
    else if forbidden.contains c.toNat then none
    else some [c]

/-- The plain form of a text; none if it has a character that no name can hold. -/
def plainForm? (cs : List Char) : Option (List Char) :=
  (cs.mapM replace?).map fun parts => Text.compose parts.flatten

/-- A character of ASCII that no name holds: anything invisible and what has a meaning in an
address. -/
def isReserved (c : Char) : Bool :=
  c.toNat ≤ 32 || c.toNat == 127 || "%#/:<>?@[\\]^|".toList.contains c

def isAscii (c : Char) : Bool :=
  c.toNat < 128

/-! ### Joiners -/

/-- Keeps the letters around it from joining. -/
def nonJoiner : Char := '\u200C'

/-- Has the letters around it join. -/
def joiner : Char := '\u200D'

/-- Whether the first letter that is not looked through is of some kind. -/
def reaches (kind : Char → Bool) (cs : List Char) : Bool :=
  match cs.dropWhile fun c => !kind c && Text.Joining.isTransparent c with
  | [] => false
  | c :: _ => kind c

/-- Whether the joiners in a label stand where they may; `before` is what is before the rest,
the last character first. -/
def joinersFit (before : List Char) : List Char → Bool
  | [] => true
  | c :: cs =>
    (if c = joiner ∨ c = nonJoiner then
        before.head?.any fun b => Text.Accent.classOf b == Text.Accent.virama
          || c == nonJoiner && reaches Text.Joining.joinsNext before
            && reaches Text.Joining.joinsPrevious cs
      else true)
      && joinersFit (c :: before) cs

/-! ### Directions -/

/-- Whether a name with such a character has to mind the direction of its labels. -/
def turns (d : Direction) : Bool :=
  d == .right || d == .arabicFigure

/-- Whether a label runs in one direction. It begins with a letter and ends with a letter of the
same direction or a figure, marks at the end apart; from left to right it has no letters of the
other direction, from right to left neither these nor both kinds of figures. -/
def runsOneWay (label : List Char) : Bool :=
  match label.map Direction.ofChar with
  | [] => true
  | first :: rest =>
    let last := (rest.reverse.dropWhile (· == .mark)).head?.getD first
    match first with
    | .left =>
      rest.all (fun d => !turns d) && (last == .left || last == .figure)
    | .right =>
      rest.all (· != .left) && !(rest.contains .figure && rest.contains .arabicFigure)
        && (last == .right || last == .figure || last == .arabicFigure)
    | _ => false

/-! ### Labels -/

/-- What a label in letters, digits and hyphens begins with. -/
def mark : List Char := "xn--".toList

/-- The longest label that is put into letters, digits and hyphens. -/
def longestWritten : Nat := 1000

/-- The longest text behind the mark that is read. -/
def longestRead : Nat := 2000

/-- Whether a label may be in a name, directions apart. -/
def isLabel (label : List Char) : Bool :=
  !label.any isReserved && !label.head?.any Text.isMark && joinersFit [] label
    && (label.all isAscii || label.length ≤ longestWritten)

/-- Reads a label that may be in letters, digits and hyphens already. -/
def label? (cs : List Char) : Option (List Char) :=
  if mark.isPrefixOf cs then
    if longestRead < cs.length - mark.length then none
    else
      match Punycode.decode? (cs.drop mark.length) with
      | none => none
      | some label =>
        if !label.all isAscii && label.all (fun c => replace? c == some [c])
            && Text.compose label == label && !mark.isPrefixOf label && isLabel label then
          some label
        else none
  else if isLabel cs then some cs
  else none

/-- A label in ASCII. -/
def written (label : List Char) : List Char :=
  if label.all isAscii then label else mark ++ Punycode.encode label

/-- The labels of a name, whatever form it is in. -/
def labels? (name : List Char) : Option (List (List Char)) := do
  let labels ← (Text.parts (· == '.') (← plainForm? name)).mapM label?
  if labels.any (·.any fun c => turns (.ofChar c)) && !labels.all runsOneWay then none
  else some labels

/-- Whether a name is in ASCII and none of its labels has the mark, capitals apart. -/
def isPlain (small : List Char) : Bool :=
  small.all isAscii && !(Text.parts (· == '.') small).any mark.isPrefixOf

/-- A name in ASCII, whatever form it is in. One that is in ASCII already and has nothing to be read
in it only loses its capitals. -/
def toAscii? (name : List Char) : Option (List Char) :=
  let small := name.map Char.toLower
  if isPlain small then if small.any isReserved then none else some small
  else (labels? name).map fun labels => Text.joinParts '.' (labels.map written)

end QuorumVault.DomainName
