import DocumentStore.Decimal.Layout
import DocumentStore.Value.Basic

/-!
# Writing JSON

Values are written either on one line without spaces or indented by two spaces a level.  Only
quotes, backslashes and control characters are escaped.  A number that is not finite has no JSON
form and is written as `null`.
-/

namespace DocumentStore

namespace Json

inductive Layout where
  | compact
  | indented
deriving DecidableEq, Repr

def hexDigit (n : Nat) : Char :=
  Nat.digitChar n

def escapeChar (c : Char) : List Char :=
  if c = '"' then ['\\', '"']
  else if c = '\\' then ['\\', '\\']
  else if 0x20 ≤ c.toNat then [c]
  else if c = '\x08' then ['\\', 'b']
  else if c = '\x0c' then ['\\', 'f']
  else if c = '\n' then ['\\', 'n']
  else if c = '\r' then ['\\', 'r']
  else if c = '\t' then ['\\', 't']
  else ['\\', 'u', '0', '0', hexDigit (c.toNat / 16), hexDigit (c.toNat % 16)]

def quote (s : String) : List Char :=
  '"' :: (s.toList.flatMap escapeChar ++ ['"'])

/-- What separates the members of a container that stands `level` levels deep. -/
def lineBreak : Layout → Nat → List Char
  | .compact, _ => []
  | .indented, level => '\n' :: List.replicate (2 * level) ' '

def colon : Layout → List Char
  | .compact => [':']
  | .indented => [':', ' ']

def doubleChars (x : Double) : List Char :=
  if x.isFinite then x.chars else "null".toList

mutual
def write (layout : Layout) (level : Nat) : Value → List Char
  | .null => "null".toList
  | .boolean true => "true".toList
  | .boolean false => "false".toList
  | .integer n => Decimal.integerChars n.toInt
  | .float x => doubleChars x
  | .text s => quote s
  | .list [] => ['[', ']']
  | .list (item :: rest) =>
    '[' :: (lineBreak layout (level + 1) ++ (write layout (level + 1) item
      ++ (writeItems layout (level + 1) rest ++ (lineBreak layout level ++ [']']))))
  | .map [] => ['{', '}']
  | .map ((name, item) :: rest) =>
    '{' :: (lineBreak layout (level + 1) ++ (quote name ++ (colon layout
      ++ (write layout (level + 1) item
      ++ (writeFields layout (level + 1) rest ++ (lineBreak layout level ++ ['}']))))))

def writeItems (layout : Layout) (level : Nat) : List Value → List Char
  | [] => []
  | item :: rest =>
    ',' :: (lineBreak layout level ++ (write layout level item ++ writeItems layout level rest))

/-- The fields after the first, each with the comma before it. -/
def writeFields (layout : Layout) (level : Nat) : List (String × Value) → List Char
  | [] => []
  | (name, item) :: rest =>
    ',' :: (lineBreak layout level ++ (quote name ++ (colon layout
      ++ (write layout level item ++ writeFields layout level rest))))
end

def print (layout : Layout) (value : Value) : String :=
  String.ofList (write layout 0 value)

end Json

/-- The text of a value in messages: compact JSON. -/
def Value.display (value : Value) : String :=
  Json.print .compact value

end DocumentStore
