import DocumentStore.Unicode.Shorthand

/-!
# Patterns

A `Pattern` describes texts: it is built from sets of characters and from conditions on a position
by sequence, choice and repetition.  Whether a repetition is greedy does not matter here, as
patterns are only searched for and never take a text apart.

A repetition of something that takes no characters is a repetition of at most one.  `Pattern.size`
estimates the states of an automaton for the pattern, where a repetition is written out.
-/

namespace DocumentStore

inductive WordPlace where
  | boundary | inside | start | stop | startHalf | stopHalf
deriving DecidableEq, Repr

inductive Look where
  | textStart
  | textEnd
  | lineStart (carriageReturns : Bool)
  | lineEnd (carriageReturns : Bool)
  | word (place : WordPlace) (unicode : Bool)
deriving DecidableEq, Repr

inductive Pattern where
  | empty
  | char (set : CharSet)
  | look (condition : Look)
  | seq (first second : Pattern)
  | either (first second : Pattern)
  | times (inner : Pattern) (least : Nat) (greatest : Option Nat)
deriving DecidableEq, Repr

def WordPlace.holds (before after : Bool) : WordPlace → Bool
  | boundary => before != after
  | inside => before == after
  | start => !before && after
  | stop => before && !after
  | startHalf => !before
  | stopHalf => !after

/-- The condition holds between these two characters, of which either may be missing at an end of
the text.  A line end of two characters has no line end inside. -/
def Look.holds (before after : Option Char) : Look → Bool
  | textStart => before.isNone
  | textEnd => after.isNone
  | lineStart false => before.isNone || before == some '\n'
  | lineStart true =>
    before.isNone || before == some '\n' || (before == some '\r' && after != some '\n')
  | lineEnd false => after.isNone || after == some '\n'
  | lineEnd true =>
    after.isNone || after == some '\r' || (after == some '\n' && before != some '\r')
  | word place unicode =>
    let chars := if unicode then Shorthand.word.chars else Shorthand.word.asciiChars
    place.holds (before.any fun c => chars.contains c) (after.any fun c => chars.contains c)

namespace Pattern

/-- The pattern takes no characters. -/
def isConditional : Pattern → Bool
  | empty => true
  | char _ => false
  | look _ => true
  | seq first second => first.isConditional && second.isConditional
  | either first second => first.isConditional && second.isConditional
  | times inner _ greatest => inner.isConditional || greatest == some 0

def repeated (inner : Pattern) (least : Nat) (greatest : Option Nat) : Pattern :=
  if inner.isConditional then times inner (min least 1) (some (min (greatest.getD 1) 1))
  else times inner least greatest

/-- About how many states an automaton needs for a set of characters. -/
def setSize (set : CharSet) : Nat :=
  if set.isAscii then 1 else 2 * set.length

def size : Pattern → Nat
  | empty => 1
  | char set => setSize set
  | look _ => 1
  | seq first second => first.size + second.size
  | either first second => first.size + second.size + 2
  | times inner least none => max least 1 * inner.size + 1
  | times inner least (some greatest) =>
    least * inner.size + (greatest - least) * (inner.size + 1) + 1

def maxSize : Nat :=
  10 * Nat.pow 2 20 / 32

end Pattern

end DocumentStore
