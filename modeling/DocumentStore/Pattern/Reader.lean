import DocumentStore.Pattern.Bracket

/-!
# Reading patterns

A pattern is a choice of sequences.  `Pattern.read?` reads one from its text, or refuses it: it has
to be well-formed, may use neither look-around nor references to groups, nests at most
`maxPatternDepth` levels deep and is not greater than `Pattern.maxSize`.

Groups are read by recursion.  Flags set inside a group hold up to its end, also across its
alternatives.
-/

namespace DocumentStore

namespace Pattern

/-- How deep a pattern may nest, counting groups, repetitions, choices, sequences and classes. -/
def maxPatternDepth : Nat :=
  250

/-- A part of a sequence: its pattern, how deep it nests, and whether it may be repeated. -/
structure Part where
  pattern : Pattern
  depth : Nat
  repeatable : Bool := true
deriving Repr

namespace Part

def leaf (pattern : Pattern) : Part :=
  { pattern, depth := 0 }

def deeper (part : Part) (pattern : Pattern) : Part :=
  { pattern, depth := part.depth + 1 }

/-- Flags take a place in a sequence and match nothing by themselves. -/
def flags : Part :=
  { pattern := .empty, depth := 0, repeatable := false }

/-- Joins parts, given the last one first; several of them are one level above the deepest. -/
def join (both : Pattern → Pattern → Pattern) : List Part → Part
  | [] => leaf .empty
  | [part] => part
  | last :: before =>
    { pattern := before.foldl (fun after part => both part.pattern after) last.pattern
      depth := before.foldl (fun depth part => max depth part.depth) last.depth + 1 }

def sequence : List Part → Part :=
  join .seq

def choice (alternatives parts : List Part) : Part :=
  join .either (sequence parts :: alternatives)

def repeated (part : Part) (least : Nat) (greatest : Option Nat) : Part :=
  part.deeper (part.pattern.repeated least greatest)

end Part

def readCount (mode : Mode) (input : List Char) : Option (Nat × List Char) :=
  let (digits, rest) := mode.span Char.isDigit false (input.dropWhile Mode.isSpace)
  let n := digits.foldl (fun n c => n * 10 + (c.toNat - 48)) 0
  if digits.isEmpty ∨ Nat.pow 2 32 ≤ n then none
  else some (n, (mode.span Mode.isSpace false rest).2)

def skipLazy : List Char → List Char
  | '?' :: rest => rest
  | input => input

def readCounts (mode : Mode) (input : List Char) : Option ((Nat × Option Nat) × List Char) := do
  let (least, rest) ← readCount mode (mode.skip input)
  let (greatest, rest) ←
    match rest with
    | ',' :: rest =>
      match mode.skip rest with
      | '}' :: rest => some (none, '}' :: rest)
      | rest => (readCount mode rest).map fun (greatest, rest) => (some greatest, rest)
    | _ => some (some least, rest)
  match rest with
  | '}' :: rest =>
    if greatest.any (· < least) then none
    else return ((least, greatest), skipLazy (mode.skip rest))
  | _ => none

/-- Reads flags up to a colon or a closing parenthesis and applies them to the mode.  `seen` holds
the flags read so far, and `on` is whether the next one is set or cleared. -/
def readFlags (mode : Mode) (seen : List Flag) (on dangling : Bool) :
    List Char → Option (Mode × List Char)
  | [] => none
  | c :: rest =>
    if c = ':' ∨ c = ')' then if dangling then none else some (mode, c :: rest)
    else if c = '-' then if on then readFlags mode seen false true rest else none
    else
      match Flag.ofLetter? c with
      | none => none
      | some flag =>
        if seen.contains flag then none
        else readFlags (mode.set flag on) (flag :: seen) on false rest

/-- Characters of the names of groups; a name starts with a letter or an underscore. -/
def isGroupNameChar (c : Char) : Bool :=
  c == '_' || c == '.' || c == '[' || c == ']' || (Property.chars .alphabetic).contains c
    || (Category.charsOf Category.numbers).contains c

def isGroupName (name : List Char) : Bool :=
  match name with
  | [] => false
  | first :: rest =>
    (first == '_' || (Property.chars .alphabetic).contains first) && rest.all isGroupNameChar

inductive Opening where
  | group (mode : Mode) (name : Option (List Char))
  | flags (mode : Mode)
deriving Repr

def readGroupName (mode : Mode) (input : List Char) : Option (Opening × List Char) :=
  let name := input.takeWhile (· != '>')
  match input.dropWhile (· != '>') with
  | _ :: rest => if isGroupName name then some (.group mode (some name), rest) else none
  | [] => none

def readOpeningParenthesis (mode : Mode) (input : List Char) : Option (Opening × List Char) :=
  match mode.skip input with
  | '?' :: 'P' :: '<' :: rest => readGroupName mode rest
  | '?' :: '<' :: rest => readGroupName mode rest
  | '?' :: rest =>
    match readFlags mode [] true false rest with
    | some (changed, ':' :: after) => some (.group changed none, after)
    | some (changed, ')' :: after) =>
      if rest.head? = some ')' then none else some (.flags changed, after)
    | _ => none
  | input => some (.group mode none, input)

def readPart (mode : Mode) (c : Char) (rest : List Char) : Option (Part × List Char) :=
  match c with
  | '[' => (readBracket mode rest).map fun (nested, rest) =>
    ({ pattern := .char nested.set, depth := nested.depth }, rest)
  | '.' => mode.dot?.map fun set => (Part.leaf (.char set), rest)
  | '^' =>
    let start := if mode.multiLine then Look.lineStart mode.carriageReturns else .textStart
    some (Part.leaf (.look start), rest)
  | '$' =>
    let stop := if mode.multiLine then Look.lineEnd mode.carriageReturns else .textEnd
    some (Part.leaf (.look stop), rest)
  | '\\' => do
    match ← readEscape mode rest with
    | (.literal c, rest) => (mode.literal? c).map fun set => (Part.leaf (.char set), rest)
    | (.set set, rest) => return (Part.leaf (.char set), rest)
    | (.look condition, rest) => return (Part.leaf (.look condition), rest)
  | _ => (mode.literal? c).map fun set => (Part.leaf (.char set), rest)

/-- The names of groups with one more, which must be new. -/
def addName (name : Option (List Char)) (names : List (List Char)) : Option (List (List Char)) :=
  match name with
  | none => some names
  | some name => if names.contains name then none else some (name :: names)

def repeatLast (least : Nat) (greatest : Option Nat) : List Part → Option (List Part)
  | [] => none
  | last :: before =>
    if last.repeatable then some (last.repeated least greatest :: before) else none

/-- Reads up to a closing parenthesis or the end, given the names of groups in use, the alternatives
before the last bar and the parts after it.  Every step takes a character, so the length of the
input is fuel enough. -/
def readParts : Nat → Mode → List (List Char) → List Part → List Part → List Char →
    Option (Part × List (List Char) × List Char)
  | 0, _, _, _, _, _ => none
  | fuel + 1, mode, names, choices, parts, input => do
    match mode.skip input with
    | [] => return (Part.choice choices parts, names, [])
    | ')' :: rest => return (Part.choice choices parts, names, ')' :: rest)
    | '|' :: rest => readParts fuel mode names (Part.sequence parts :: choices) [] rest
    | '(' :: rest =>
      match ← readOpeningParenthesis mode rest with
      | (.flags changed, rest) =>
        readParts fuel changed names choices (Part.flags :: parts) rest
      | (.group inner name, rest) =>
        let names ← addName name names
        match ← readParts fuel inner names [] [] rest with
        | (part, names, ')' :: rest) =>
          readParts fuel mode names choices (part.deeper part.pattern :: parts) rest
        | _ => none
    | '?' :: rest =>
      readParts fuel mode names choices (← repeatLast 0 (some 1) parts) (skipLazy rest)
    | '*' :: rest =>
      readParts fuel mode names choices (← repeatLast 0 none parts) (skipLazy rest)
    | '+' :: rest =>
      readParts fuel mode names choices (← repeatLast 1 none parts) (skipLazy rest)
    | '{' :: rest =>
      let ((least, greatest), rest) ← readCounts mode rest
      readParts fuel mode names choices (← repeatLast least greatest parts) rest
    | c :: rest =>
      let (part, rest) ← readPart mode c rest
      readParts fuel mode names choices (part :: parts) rest

def read? (source : String) : Option Pattern := do
  let input := source.toList
  let (part, _, rest) ← readParts (input.length + 1) {} [] [] [] input
  if rest.isEmpty ∧ part.depth ≤ maxPatternDepth ∧ part.pattern.size ≤ maxSize then
    return part.pattern
  else none

end Pattern

end DocumentStore
