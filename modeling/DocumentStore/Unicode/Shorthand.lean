import DocumentStore.Unicode.Property

/-!
# Shorthand classes

Classes of characters with a one-letter name in patterns, each with its ASCII form, and the ASCII
classes that are written by name inside brackets.
-/

namespace DocumentStore

inductive Shorthand where
  | digit | space | word
deriving DecidableEq, Repr

namespace Shorthand

/-- Word characters are letters, marks, decimal digits, connectors and joiners. -/
def wordChars : CharSet :=
  CharSet.unionAll [Property.chars .alphabetic, Property.chars .joinControl,
    Category.charsOf Category.marks, Category.charsOf [.decimalNumber, .connectorPunctuation]]

def chars : Shorthand → CharSet
  | digit => Category.chars .decimalNumber
  | space => Property.chars .whiteSpace
  | word => wordChars

def asciiChars : Shorthand → CharSet
  | digit => CharSet.ofCoded "30-39"
  | space => CharSet.ofCoded "9-D 20"
  | word => CharSet.ofCoded "30-39 41-5A 5F 61-7A"

end Shorthand

namespace CharSet

def asciiNamed? : String → Option CharSet
  | "alnum" => some (ofCoded "30-39 41-5A 61-7A")
  | "alpha" => some (ofCoded "41-5A 61-7A")
  | "ascii" => some ascii
  | "blank" => some (ofCoded "9 20")
  | "cntrl" => some (ofCoded "0-1F 7F")
  | "digit" => some (ofCoded "30-39")
  | "graph" => some (ofCoded "21-7E")
  | "lower" => some (ofCoded "61-7A")
  | "print" => some (ofCoded "20-7E")
  | "punct" => some (ofCoded "21-2F 3A-40 5B-60 7B-7E")
  | "space" => some (ofCoded "9-D 20")
  | "upper" => some (ofCoded "41-5A")
  | "word" => some (ofCoded "30-39 41-5A 5F 61-7A")
  | "xdigit" => some (ofCoded "30-39 41-46 61-66")
  | _ => none

end CharSet

end DocumentStore
