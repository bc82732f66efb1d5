import DocumentStore.Unicode.CaseFolding
import DocumentStore.Unicode.Shorthand

/-!
# Modes

Flags inside a pattern change the mode in which what follows is read.  The mode decides what sets
of characters stand for and whether blanks and comments are skipped.

Without Unicode a pattern is about bytes.  Texts are UTF-8, so whatever could match part of a
character is refused: there are only sets of ASCII characters, and these have no complement.
-/

namespace DocumentStore

structure Mode where
  ignoreCase : Bool := false
  multiLine : Bool := false
  dotAll : Bool := false
  unicode : Bool := true
  carriageReturns : Bool := false
  spaced : Bool := false
deriving DecidableEq, Repr

/-- The flags; `swapGreed` changes only which of several matches is preferred. -/
inductive Flag where
  | ignoreCase | multiLine | dotAll | swapGreed | unicode | carriageReturns | spaced
deriving DecidableEq, Repr

def Flag.ofLetter? : Char → Option Flag
  | 'i' => some ignoreCase
  | 'm' => some multiLine
  | 's' => some dotAll
  | 'U' => some swapGreed
  | 'u' => some unicode
  | 'R' => some carriageReturns
  | 'x' => some spaced
  | _ => none

namespace Mode

def set (mode : Mode) (flag : Flag) (on : Bool) : Mode :=
  match flag with
  | .ignoreCase => { mode with ignoreCase := on }
  | .multiLine => { mode with multiLine := on }
  | .dotAll => { mode with dotAll := on }
  | .swapGreed => mode
  | .unicode => { mode with unicode := on }
  | .carriageReturns => { mode with carriageReturns := on }
  | .spaced => { mode with spaced := on }

def isSpace (c : Char) : Bool :=
  Shorthand.space.chars.contains c

/-- Skips blanks, and comments up to the end of their lines. -/
def skipSpace (inComment : Bool) : List Char → List Char
  | [] => []
  | c :: rest =>
    if inComment then skipSpace (c != '\n') rest
    else if isSpace c then skipSpace false rest
    else if c = '#' then skipSpace true rest
    else c :: rest

def skip (mode : Mode) (input : List Char) : List Char :=
  if mode.spaced then skipSpace false input else input

/-- The characters in front that `keep` accepts, without what the mode skips among them, and the
rest of the input. -/
def span (mode : Mode) (keep : Char → Bool) (inComment : Bool) :
    List Char → List Char × List Char
  | [] => ([], [])
  | c :: rest =>
    if inComment then mode.span keep (c != '\n') rest
    else if mode.spaced && isSpace c then mode.span keep false rest
    else if mode.spaced && c == '#' then mode.span keep true rest
    else if keep c then
      let (kept, rest) := mode.span keep false rest
      (c :: kept, rest)
    else ([], c :: rest)

/-- The character that decides what a hyphen before `input` means.  Blanks are passed over where the
mode skips them, but of a comment only the sign at its start is, and if nothing else follows, the
first blank is taken. -/
def peek (mode : Mode) (input : List Char) : Option Char :=
  if mode.spaced then
    let input' := input.dropWhile isSpace
    let input' :=
      match input' with
      | '#' :: rest => rest.dropWhile isSpace
      | _ => input'
    input'.head?.or input.head?
  else input.head?

/-- A set with the case variants that the mode asks for. -/
def fold (mode : Mode) (set : CharSet) : CharSet :=
  if !mode.ignoreCase then set
  else if mode.unicode then set.foldCase
  else set.foldAsciiCase

/-- The set that stands inside brackets or has a name, possibly negated. -/
def close? (mode : Mode) (negated : Bool) (set : CharSet) : Option CharSet :=
  let set := mode.fold set
  if mode.unicode then some (if negated then set.complement else set)
  else if !negated && set.isAscii then some set
  else none

def shorthand? (mode : Mode) (negated : Bool) (shorthand : Shorthand) : Option CharSet :=
  if mode.unicode then
    some (if negated then shorthand.chars.complement else shorthand.chars)
  else if negated then none
  else some shorthand.asciiChars

def dot? (mode : Mode) : Option CharSet :=
  if !mode.unicode then none
  else if mode.dotAll then some CharSet.full
  else if mode.carriageReturns then some (CharSet.ofCoded "A D").complement
  else some (CharSet.ofCoded "A").complement

def literal? (mode : Mode) (c : Char) : Option CharSet :=
  if mode.unicode || !mode.ignoreCase || c.toNat < 0x80 then some (mode.fold (CharSet.single c))
  else none

end Mode

end DocumentStore
