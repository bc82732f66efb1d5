import DocumentStore.Chars
import DocumentStore.Value.Basic

/-!
# Paths into values

A path is a text of names separated by dots; every dot separates, so names may be empty.
`Value.resolve` walks it through nested maps and gives `null` as soon as a step is missing.
-/

namespace DocumentStore

namespace Path

/-- The names between the dots; there is one more name than there are dots. -/
def segments (path : String) : List String :=
  (Chars.splitOn '.' path.toList).map String.ofList

def isComplete (path : String) : Bool :=
  (segments path).all fun name => !name.isEmpty

end Path

namespace Value

def get? (name : String) : Value → Option Value
  | map fields => Keyed.find? name fields
  | _ => none

def walk : List String → Value → Value
  | [], value => value
  | name :: rest, value =>
    match value.get? name with
    | some item => walk rest item
    | none => null

def resolve (path : String) (value : Value) : Value :=
  value.walk (Path.segments path)

end Value

end DocumentStore
