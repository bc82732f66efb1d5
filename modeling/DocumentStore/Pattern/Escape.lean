import DocumentStore.Pattern.Basic
import DocumentStore.Pattern.Mode
import DocumentStore.Unicode.Name

/-!
# Escapes in patterns

After a backslash stands a character that is to be taken as it is, a character by its number, a
class of characters or a condition.  Every reader takes the input after the backslash and gives
what it read with the rest of the input.
-/

namespace DocumentStore

namespace Pattern

inductive Atom where
  | literal (c : Char)
  | set (chars : CharSet)
  | look (condition : Look)
deriving DecidableEq, Repr

def hexDigit? (c : Char) : Option Nat :=
  if c.isDigit then some (c.toNat - 48)
  else if 'a' ≤ c ∧ c ≤ 'f' then some (c.toNat - 87)
  else if 'A' ≤ c ∧ c ≤ 'F' then some (c.toNat - 55)
  else none

def char? (n : Nat) : Option Char :=
  if n.isValidChar then some (Char.ofNat n) else none

/-- Reads exactly `count` hexadecimal digits, given the number before them. -/
def readHex (mode : Mode) : Nat → Nat → List Char → Option (Nat × List Char)
  | 0, n, input => some (n, input)
  | _ + 1, _, [] => none
  | count + 1, n, c :: rest => do
    let digit ← hexDigit? c
    readHex mode count (n * 16 + digit) (mode.skip rest)

def readBraced (mode : Mode) (input : List Char) : Option (List Char × List Char) :=
  match mode.span (· != '}') false input with
  | (inner, _ :: rest) => some (inner, rest)
  | (_, []) => none

def hexNumber? (digits : List Char) : Option Nat :=
  if digits.isEmpty then none
  else digits.foldlM (fun n c => (hexDigit? c).map (n * 16 + ·)) 0

/-- Reads a character by its number, after the letter that asks for `count` digits.  Two digits
without Unicode give a byte, which has to be an ASCII character. -/
def readNumbered (mode : Mode) (count : Nat) (input : List Char) : Option (Atom × List Char) :=
  match mode.skip input with
  | '{' :: rest => do
    let (digits, rest) ← readBraced mode rest
    let c ← char? (← hexNumber? digits)
    return (.literal c, rest)
  | input => do
    let (n, rest) ← readHex mode count 0 input
    if count = 2 ∧ 0x80 ≤ n ∧ !mode.unicode then none
    let c ← char? n
    return (.literal c, rest)

def namedClass? (mode : Mode) (negated : Bool) (name : List Char) : Option CharSet :=
  if !mode.unicode then none
  else
    match Chars.splitAtFirst? ['!', '='] name with
    | some (property, value) =>
      (CharSet.ofPropertyValue? property value).bind (mode.close? !negated)
    | none =>
      match (Chars.splitAtFirst? [':'] name).or (Chars.splitAtFirst? ['='] name) with
      | some (property, value) =>
        (CharSet.ofPropertyValue? property value).bind (mode.close? negated)
      | none => (CharSet.named? name).bind (mode.close? negated)

def readNamed (mode : Mode) (negated : Bool) (input : List Char) : Option (Atom × List Char) := do
  match mode.skip input with
  | [] => none
  | '\\' :: _ => none
  | '{' :: rest =>
    let (name, rest) ← readBraced mode rest
    return (.set (← namedClass? mode negated name), rest)
  | c :: rest => return (.set (← namedClass? mode negated [c]), rest)

def readShorthand (mode : Mode) (negated : Bool) (shorthand : Shorthand) (rest : List Char) :
    Option (Atom × List Char) :=
  (mode.shorthand? negated shorthand).map fun set => (.set set, rest)

def wordPlace? (name : List Char) : Option WordPlace :=
  match String.ofList name with
  | "start" => some .start
  | "end" => some .stop
  | "start-half" => some .startHalf
  | "end-half" => some .stopHalf
  | _ => none

def isWordPlaceChar (c : Char) : Bool :=
  c.isAlpha || c == '-'

/-- Reads the name in braces that may follow a word boundary.  A brace before anything that is no
name is left to be read as a repetition. -/
def readBoundary (mode : Mode) (input : List Char) : Option (Atom × List Char) :=
  match input with
  | '{' :: rest =>
    match mode.skip rest with
    | [] => none
    | c :: _ =>
      if isWordPlaceChar c then
        match mode.span isWordPlaceChar false rest with
        | (name, '}' :: rest) =>
          (wordPlace? name).map fun place => (.look (.word place mode.unicode), rest)
        | _ => none
      else some (.look (.word .boundary mode.unicode), input)
  | _ => some (.look (.word .boundary mode.unicode), input)

/-- Any ASCII character that is neither a letter nor a digit stands for itself after a backslash,
but for the angle brackets. -/
def isEscapable (c : Char) : Bool :=
  c.toNat < 0x80 && !c.isAlphanum && c != '<' && c != '>'

def readEscape (mode : Mode) (input : List Char) : Option (Atom × List Char) :=
  match input with
  | [] => none
  | c :: rest =>
    let literal (c : Char) : Option (Atom × List Char) := some (.literal c, rest)
    let look (condition : Look) : Option (Atom × List Char) := some (.look condition, rest)
    match c with
    | 'x' => readNumbered mode 2 rest
    | 'u' => readNumbered mode 4 rest
    | 'U' => readNumbered mode 8 rest
    | 'p' => readNamed mode false rest
    | 'P' => readNamed mode true rest
    | 'd' => readShorthand mode false .digit rest
    | 'D' => readShorthand mode true .digit rest
    | 's' => readShorthand mode false .space rest
    | 'S' => readShorthand mode true .space rest
    | 'w' => readShorthand mode false .word rest
    | 'W' => readShorthand mode true .word rest
    | 'a' => literal '\x07'
    | 'f' => literal '\x0c'
    | 't' => literal '\t'
    | 'n' => literal '\n'
    | 'r' => literal '\r'
    | 'v' => literal '\x0b'
    | 'A' => look .textStart
    | 'z' => look .textEnd
    | 'b' => readBoundary mode rest
    | 'B' => look (.word .inside mode.unicode)
    | '<' => look (.word .start mode.unicode)
    | '>' => look (.word .stop mode.unicode)
    | _ => if isEscapable c then literal c else none

end Pattern

end DocumentStore
