/-!
# Lists of characters

Paths, locations, query keys and coded tables are lists of characters with separators between
their parts.  The functions here take them apart, and lose nothing but the separators.
-/

namespace DocumentStore

namespace Chars

/-- The parts between the separators; there is one more part than there are separators. -/
def splitOn (separator : Char) : List Char → List (List Char)
  | [] => [[]]
  | c :: rest =>
    if c = separator then [] :: splitOn separator rest
    else
      match splitOn separator rest with
      | [] => [[c]]
      | head :: tail => (c :: head) :: tail

/-- The characters up to the first separator, and those after it if there is one. -/
def splitFirst (separator : Char) : List Char → List Char × Option (List Char)
  | [] => ([], none)
  | c :: rest =>
    if c = separator then ([], some rest)
    else
      let (head, tail) := splitFirst separator rest
      (c :: head, tail)

def words (chars : List Char) : List (List Char) :=
  let parts := (splitOn '\n' chars).flatMap (splitOn ' ')
  parts.filter fun part => !part.isEmpty

/-- What stands before and after the first occurrence of `mark`. -/
def splitAtFirst? (mark : List Char) : List Char → Option (List Char × List Char)
  | [] => none
  | c :: rest =>
    if mark.isPrefixOf (c :: rest) then some ([], (c :: rest).drop mark.length)
    else (splitAtFirst? mark rest).map fun (before, after) => (c :: before, after)

/-- What stands before and after the last occurrence of `mark`. -/
def splitAtLast? (mark : List Char) : List Char → Option (List Char × List Char)
  | [] => none
  | c :: rest =>
    match splitAtLast? mark rest with
    | some (before, after) => some (c :: before, after)
    | none =>
      if mark.isPrefixOf (c :: rest) then some ([], (c :: rest).drop mark.length) else none

def occursIn (part : List Char) : List Char → Bool
  | [] => part.isEmpty
  | c :: rest => part.isPrefixOf (c :: rest) || occursIn part rest

end Chars

end DocumentStore
