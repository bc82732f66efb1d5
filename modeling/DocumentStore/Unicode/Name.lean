import DocumentStore.Unicode.Property
import DocumentStore.Unicode.Script

/-!
# Names of classes of characters

Classes are looked up by names in which case, spaces, hyphens, underscores and a leading `is` do
not matter.  A single name is looked up among properties, general categories and scripts, in this
order; a name and a value ask for a general category or a script.
-/

namespace DocumentStore

namespace CharSet

/-- The characters of a name that matter, in lower case. -/
def nameLetters (chars : List Char) : List Char :=
  (chars.filter fun c => c.toNat < 0x80 && c != ' ' && c != '_' && c != '-').map Char.toLower

/-- The form in which names are looked up.  The name `isc` keeps its start, as `c` by itself is the
name of something else. -/
def normalizeName (name : List Char) : String :=
  match name with
  | i :: s :: rest =>
    if i.toLower = 'i' ∧ s.toLower = 's' then
      let letters := nameLetters rest
      if letters = ['c'] then "isc" else String.ofList letters
    else String.ofList (nameLetters name)
  | _ => String.ofList (nameLetters name)

def named? (name : List Char) : Option CharSet :=
  let name := normalizeName name
  match Property.named? name with
  | some property => some property.chars
  | none => (Category.named? name).or ((Script.named? name).map Script.chars)

def ofPropertyValue? (property value : List Char) : Option CharSet :=
  let value := normalizeName value
  match normalizeName property with
  | "generalcategory" | "gc" => Category.named? value
  | "script" | "sc" => (Script.named? value).map Script.chars
  | "scriptextensions" | "scx" => (Script.named? value).map Script.extension
  | _ => none

end CharSet

end DocumentStore
