import DocumentStore.Json.Printer
import DocumentStore.Json.Reader
import DocumentStore.Pack.Reader
import DocumentStore.Pack.Writer
import DocumentStore.Table.Basic

/-!
# Table documents

A table is stored as one document: a map of the format version, the name of the table, its counter
and its records.  `Table.encode` writes it in one of two formats and `Table.decode` reads it back.

Reading is liberal about the outer map only.  Its members may come in any order, unknown ones are
skipped, and a plain list of the four members is accepted too; MessagePack documents may name a
member by its position.  A known member must be there, and only once.
-/

namespace DocumentStore

inductive Format where
  | json
  | msgpack
deriving DecidableEq, Repr, Inhabited

def Format.extension : Format → String
  | json => "json"
  | msgpack => "msgpack"

def formatVersion : Nat :=
  1

structure Document where
  version : Nat
  table : String
  nextId : Int64
  records : List Record
deriving Inhabited

inductive Member where
  | version | table | nextId | records
deriving DecidableEq, Repr

namespace Member

def name : Member → String
  | version => "format_version"
  | table => "table"
  | nextId => "next_id"
  | records => "records"

def all : List Member :=
  [version, table, nextId, records]

def ofName? (name : String) : Option Member :=
  all.find? fun member => member.name == name

end Member

namespace Document

def toValue (document : Document) : Value :=
  .map [
    (Member.version.name, .integer (Int64.ofNat document.version)),
    (Member.table.name, .text document.table),
    (Member.nextId.name, .integer document.nextId),
    (Member.records.name, .list (document.records.map Record.toValue))]

def write (format : Format) (indented : Bool) (document : Document) : Bytes :=
  match format with
  | .json =>
    Bytes.ofText (Json.print (if indented then .indented else .compact) document.toValue)
  | .msgpack => Pack.write document.toValue

def records? (items : List Value) : Option (List Record) :=
  items.mapM fun item => item.fields?.map Record.mk

/-- The document with these members, if each is there once and of the right kind. -/
def ofMembers? (members : List (Member × Value)) : Option Document := do
  if ¬ (members.map Prod.fst).Nodup then none
  let version ← (← members.lookup .version).integer?
  let table ← (← members.lookup .table).text?
  let nextId ← (← members.lookup .nextId).integer?
  let items ← (← members.lookup .records).items?
  let records ← records? items
  if 0 ≤ version.toInt ∧ version.toInt < 0x100000000 then
    return ⟨version.toInt.toNat, table, nextId, records⟩
  else none

def ofList? (items : List Value) : Option Document :=
  if items.length = Member.all.length then ofMembers? (Member.all.zip items) else none

/-- Reads the item of a JSON field if it is a member, and skips it otherwise. -/
def readJsonMember (name : String) (input : Bytes) : Option (Option (Member × Value) × Bytes) :=
  match Member.ofName? name with
  | some member =>
    (Json.readValue (Json.maxDepth - 1) input).map fun (value, rest) =>
      (some (member, value), rest)
  | none => (Json.skipValue input.length input).map fun (_, rest) => (none, rest)

def ofJson? (input : Bytes) : Option Document :=
  match Json.skipBlanks input with
  | 0x7b :: rest => do
    let field := Json.readField Json.readText readJsonMember
    let (fields, rest) ← Json.readFields field rest.length rest
    if (Json.skipBlanks rest).isEmpty then ofMembers? (fields.filterMap Prod.snd) else none
  | _ => do
    let items ← (← Json.read? Json.maxDepth input).items?
    ofList? items

def readPackKey (input : Bytes) : Option (Option Member × Bytes) := do
  match ← Pack.readHead input with
  | (.text size, rest) | (.binary size, rest) =>
    let (bytes, rest) ← Bytes.take? size rest
    return ((Bytes.toText? bytes).bind Member.ofName?, rest)
  | (.unsigned n, rest) => return (Member.all[n]?, rest)
  | _ => none

/-- Reads the item of a MessagePack key if it is a member, and skips it otherwise. -/
def readPackMember (key : Option Member) (input : Bytes) :
    Option (Option (Member × Value) × Bytes) :=
  match key with
  | some member =>
    (Pack.readValue (Pack.maxDepth - 1) input).map fun (value, rest) =>
      (some (member, value), rest)
  | none => (Pack.skipValue (Pack.maxDepth - 1) input).map fun (_, rest) => (none, rest)

def ofPack? (input : Bytes) : Option Document := do
  match ← Pack.readHead input with
  | (.map size, rest) =>
    let (fields, _) ← Pack.readMany (Pack.readPair readPackKey readPackMember) size rest
    ofMembers? (fields.filterMap Prod.snd)
  | (.list size, rest) =>
    let (items, _) ← Pack.readMany (Pack.readValue (Pack.maxDepth - 1)) size rest
    ofList? items
  | _ => none

def read? : Format → Bytes → Option Document
  | .json => ofJson?
  | .msgpack => ofPack?

end Document

namespace Table

def document (name : String) (table : Table) : Document :=
  ⟨formatVersion, name, table.nextId, table.records⟩

def encode (format : Format) (indented : Bool) (name : String) (table : Table) : Bytes :=
  (table.document name).write format indented

/-- Reads the table `name` and checks that the document is one of this version and this table. -/
def decode (format : Format) (name : String) (input : Bytes) : Except FileFault Table :=
  match Document.read? format input with
  | none => .error .unreadable
  | some document =>
    if document.version ≠ formatVersion then .error (.formatVersion document.version)
    else if document.table ≠ name then .error (.otherTable document.table name)
    else (ofParts? document.records document.nextId).mapError .contents

end Table

end DocumentStore
