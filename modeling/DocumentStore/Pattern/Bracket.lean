import DocumentStore.Pattern.Escape

/-!
# Classes in brackets

A class in brackets is a union of characters, ranges, escapes, named ASCII classes and further
classes in brackets.  Unions can be combined by intersection, difference and symmetric difference,
which associate to the left.  With each set comes how deep it nests, since that is limited.
-/

namespace DocumentStore

namespace Pattern

/-- A set and how deep its description nests. -/
structure Nested where
  set : CharSet
  depth : Nat
deriving Repr

inductive SetOperator where
  | inter | difference | symmetricDifference
deriving DecidableEq, Repr

def SetOperator.apply : SetOperator → CharSet → CharSet → CharSet
  | inter => CharSet.inter
  | difference => CharSet.difference
  | symmetricDifference => CharSet.symmetricDifference

/-- The operator that stands in front, and what follows it. -/
def setOperator? : List Char → Option (SetOperator × List Char)
  | '&' :: '&' :: rest => some (.inter, rest)
  | '-' :: '-' :: rest => some (.difference, rest)
  | '~' :: '~' :: rest => some (.symmetricDifference, rest)
  | _ => none

namespace Nested

def leaf (set : CharSet) : Nested :=
  ⟨set, 0⟩

/-- The union of items; several of them are one level above the deepest. -/
def unite : List Nested → Nested
  | [] => leaf []
  | [item] => item
  | items => ⟨CharSet.unionAll (items.map set), (items.map depth).foldl max 0 + 1⟩

/-- What stands before an operator, combined with the items after it. -/
def combine (mode : Mode) (before : Option (SetOperator × Nested)) (items : List Nested) : Nested :=
  let right := unite items
  match before with
  | none => right
  | some (operator, left) =>
    ⟨operator.apply (mode.fold left.set) (mode.fold right.set), max left.depth right.depth + 1⟩

end Nested

def readAsciiClass (mode : Mode) (input : List Char) : Option (Option CharSet × List Char) :=
  match input with
  | ':' :: rest =>
    let (negated, rest) :=
      match rest with
      | '^' :: rest => (true, rest)
      | _ => (false, rest)
    match rest.dropWhile (· != ':') with
    | ':' :: ']' :: after =>
      (CharSet.asciiNamed? (String.ofList (rest.takeWhile (· != ':')))).map fun set =>
        (mode.close? negated set, after)
    | _ => none
  | _ => none

/-- Reads the start of a class after its bracket: whether it is negated, and the hyphens and the
closing bracket that stand for themselves there. -/
def readOpening (mode : Mode) (input : List Char) : Bool × List Nested × List Char :=
  let (negated, rest) :=
    match mode.skip input with
    | '^' :: rest => (true, rest)
    | rest => (false, rest)
  match mode.span (· == '-') false rest with
  | ([], ']' :: rest) => (negated, [Nested.leaf (CharSet.single ']')], rest)
  | (hyphens, rest) => (negated, hyphens.map fun c => Nested.leaf (CharSet.single c), rest)

def readSetAtom (mode : Mode) (input : List Char) : Option (Atom × List Char) :=
  match input with
  | [] => none
  | '\\' :: rest => readEscape mode rest
  | c :: rest => some (.literal c, rest)

def setChar? (mode : Mode) : Atom → Option Char
  | .literal c => if mode.unicode || c.toNat < 0x80 then some c else none
  | _ => none

/-- Reads a range, a character or an escape.  A hyphen before a bracket or a second hyphen makes no
range. -/
def readSetItem (mode : Mode) (input : List Char) : Option (CharSet × List Char) := do
  let (first, rest) ← readSetAtom mode input
  let single : Option (CharSet × List Char) :=
    match first with
    | .set set => some (set, rest)
    | _ => (setChar? mode first).map fun c => (CharSet.single c, rest)
  match mode.skip rest with
  | '-' :: after =>
    if mode.peek after = some ']' ∨ mode.peek after = some '-' then single
    else
      let (last, rest) ← readSetAtom mode (mode.skip after)
      let first ← setChar? mode first
      let last ← setChar? mode last
      if first ≤ last then return ([(first.toNat, last.toNat)], rest) else none
  | _ => single

/-- Reads a class up to its closing bracket, given what stands before the last operator and the
items read after it.  Every step takes a character, so the length of the input is fuel enough. -/
def readSet (mode : Mode) : Nat → Option (SetOperator × Nested) → List Nested → List Char →
    Option (Nested × List Char)
  | 0, _, _, _ => none
  | fuel + 1, before, items, input => do
    let input := mode.skip input
    match setOperator? input with
    | some (operator, rest) =>
      readSet mode fuel (some (operator, Nested.combine mode before items)) [] rest
    | none =>
      match input with
      | [] => none
      | ']' :: rest => return (Nested.combine mode before items, rest)
      | '[' :: rest =>
        match readAsciiClass mode rest with
        | some (set, rest) => readSet mode fuel before (Nested.leaf (← set) :: items) rest
        | none =>
          let (negated, opening, rest) := readOpening mode rest
          let (inner, rest) ← readSet mode fuel none opening rest
          let set ← mode.close? negated inner.set
          readSet mode fuel before (⟨set, inner.depth + 1⟩ :: items) rest
      | _ =>
        let (set, rest) ← readSetItem mode input
        readSet mode fuel before (Nested.leaf set :: items) rest

def readBracket (mode : Mode) (input : List Char) : Option (Nested × List Char) := do
  let (negated, opening, rest) := readOpening mode input
  let (inner, rest) ← readSet mode (rest.length + 1) none opening rest
  let set ← mode.close? negated inner.set
  return (⟨set, inner.depth + 1⟩, rest)

end Pattern

end DocumentStore
