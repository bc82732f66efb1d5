import DocumentStore.Pattern.Basic

/-!
# Searching for a pattern

A set of positions in a text is a natural number whose bit `n` says whether position `n` belongs
to it.  Placed on a text, a pattern becomes a `Route`, in which sets of characters and conditions
are replaced by the positions where they apply.  `Route.reach` gives all positions that can be
reached from a set of positions; a pattern occurs in the text if any can be reached at all.

A repetition without an upper limit stops growing after as many rounds as there are positions.
-/

namespace DocumentStore

/-- A pattern on a given text.  `move` passes the characters at some positions and `check` stays at
some positions; `times` goes on for a number of rounds and then for up to `extra` further ones. -/
inductive Route where
  | stay
  | move (places : Nat)
  | check (places : Nat)
  | seq (first second : Route)
  | either (first second : Route)
  | times (inner : Route) (least extra : Nat)
deriving DecidableEq, Repr

/-- The set of the positions at which the list holds `true`. -/
def positions (flags : List Bool) : Nat :=
  flags.foldr (fun flag rest => 2 * rest + flag.toNat) 0

/-- Whether a condition holds at each position, given the character before the first one. -/
def Look.flags (condition : Look) (before : Option Char) : List Char → List Bool
  | [] => [condition.holds before none]
  | c :: rest => condition.holds before (some c) :: condition.flags (some c) rest

namespace Pattern

def route (text : List Char) : Pattern → Route
  | empty => .stay
  | char set => .move (positions (text.map fun c => set.contains c))
  | look condition => .check (positions (condition.flags none text))
  | seq first second => .seq (first.route text) (second.route text)
  | either first second => .either (first.route text) (second.route text)
  | times inner least none => .times (inner.route text) least (text.length + 1)
  | times inner least (some greatest) => .times (inner.route text) least (greatest - least)

end Pattern

namespace Route

/-- Takes `count` rounds; none is left to take where nothing is reached. -/
def advance (round : Nat → Nat) : Nat → Nat → Nat
  | 0, places => places
  | count + 1, places => if places = 0 then 0 else advance round count (round places)

/-- Adds what is reached in up to `count` rounds; stops when a round adds nothing. -/
def spread (round : Nat → Nat) : Nat → Nat → Nat
  | 0, places => places
  | count + 1, places =>
    let reached := places ||| round places
    if reached = places then places else spread round count reached

/-- The positions at which the route ends when it starts at one of `places`. -/
def reach : Route → Nat → Nat
  | stay, places => places
  | move passable, places => (places &&& passable) <<< 1
  | check allowed, places => places &&& allowed
  | seq first second, places => second.reach (first.reach places)
  | either first second, places => first.reach places ||| second.reach places
  | times inner least extra, places =>
    spread inner.reach extra (advance inner.reach least places)

end Route

def Pattern.occursIn (text : String) (pattern : Pattern) : Bool :=
  let chars := text.toList
  (pattern.route chars).reach (Nat.pow 2 (chars.length + 1) - 1) != 0

end DocumentStore
