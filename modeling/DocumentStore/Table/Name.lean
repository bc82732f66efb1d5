/-!
# Table names

A table name has 1 to 128 characters, all of them ASCII letters, digits, underscores or hyphens.
So it is a file name everywhere, starts with no dot and contains no separator of paths.
-/

namespace DocumentStore

def maxTableName : Nat :=
  128

def isTableNameChar (c : Char) : Bool :=
  c.isAlphanum || c == '_' || c == '-'

def isTableName (name : String) : Bool :=
  let chars := name.toList
  !chars.isEmpty && chars.length ≤ maxTableName && chars.all isTableNameChar

end DocumentStore
