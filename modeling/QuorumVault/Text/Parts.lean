/-
Texts in parts.

Names, paths and tables are texts of parts with a separator between them: `parts` cuts at
every separator, so a text with none is one part and no text at all is one empty part.
`splitLast?` cuts at the last one only.
-/
namespace QuorumVault.Text

/-- The parts of a text between the characters that separate them. -/
def parts (separates : Char → Bool) : List Char → List (List Char)
  | [] => [[]]
  | c :: cs =>
    if separates c then [] :: parts separates cs
    else
      match parts separates cs with
      | [] => [[c]]
      | part :: rest => (c :: part) :: rest

/-- The parts put together again, with a separator between them. -/
def joinParts (separator : Char) : List (List Char) → List Char
  | [] => []
  | [part] => part
  | part :: next :: rest => part ++ separator :: joinParts separator (next :: rest)

/-- What stands before and behind the last occurrence of a character. -/
def splitLast? (c : Char) : List Char → Option (List Char × List Char)
  | [] => none
  | d :: rest =>
    match splitLast? c rest with
    | some (before, behind) => some (d :: before, behind)
    | none => if d = c then some ([], rest) else none

end QuorumVault.Text
