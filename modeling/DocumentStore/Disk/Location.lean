import DocumentStore.Chars

/-!
# Locations

A location is a path on disk, held as the steps between its slashes.  Steps may be empty, as
after a closing slash, or dots; what they lead to is decided by the disk.
-/

namespace DocumentStore

structure Location where
  steps : List String
deriving DecidableEq, Repr, Inhabited

namespace Location

def ofText (path : String) : Location :=
  ⟨(Chars.splitOn '/' path.toList).map String.ofList⟩

def text (location : Location) : String :=
  "/".intercalate location.steps

/-- The place that `path` names seen from `base`; a path that starts with a slash stands for
itself. -/
def join (base : Location) (path : String) : Location :=
  let relative := ofText path
  if path.toList.head? = some '/' then relative
  else if base.steps.getLast? = some "" then ⟨base.steps.dropLast ++ relative.steps⟩
  else ⟨base.steps ++ relative.steps⟩

end Location

end DocumentStore
