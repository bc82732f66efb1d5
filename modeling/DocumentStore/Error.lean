import DocumentStore.Disk.Tree
import DocumentStore.Json.Printer
import DocumentStore.Operator

/-!
# Errors

Every failure is a value that says what went wrong; `Error.message` gives its wording.
-/

namespace DocumentStore

inductive RecordFault where
  | notMap (kind : Kind)
  | changesNotMap (kind : Kind)
  | nonFinite
  | tooDeep
  | idKind (kind : Kind)
deriving DecidableEq, Repr

inductive TableFault where
  | idKind (position : Nat) (kind : Kind)
  | staleCounter (position : Nat) (id nextId : Int64)
  | duplicateId (position : Nat) (id : Value)
deriving Repr

inductive FileFault where
  | unreadable
  | formatVersion (version : Nat)
  | otherTable (found expected : String)
  | contents (fault : TableFault)
deriving Repr

inductive Expectation where
  | list | text | numberOrText | finite | pattern
deriving DecidableEq, Repr

/-- A predicate met a field that its operator cannot compare. -/
structure EvalError where
  field : String
  operator : Operator
  fieldKind : Kind
  operandKind : Kind
deriving DecidableEq, Repr

inductive Error where
  | disk (refusal : Refusal)
  | corruptFile (path : String) (fault : FileFault)
  | directoryLocked (path : String)
  | burnIncomplete (burned : List String) (table : String) (refusal : Refusal)
  | tableNotFound (table : String)
  | invalidTableName (table : String)
  | idCollision (table : String) (id : Value)
  | immutableId (table : String)
  | invalidRecord (fault : RecordFault)
  | validationFailed (table reason : String)
  | unknownOperator (key operator : String)
  | invalidOperand (operator : Operator) (expected : Expectation) (actual : Kind)
  | emptyField (key : String)
  | recordNotFound (table : String)
  | evaluation (error : EvalError)
deriving Repr

/-- How deep the lists and maps of a field may nest when it is stored. -/
def maxNesting : Nat :=
  100

namespace RecordFault

def message : RecordFault → String
  | notMap kind => s!"record fields must be a map, got {kind.name}"
  | changesNotMap kind => s!"update changes must be a map, got {kind.name}"
  | nonFinite => "non-finite float value"
  | tooDeep => s!"value nested deeper than {maxNesting} levels"
  | idKind kind => s!"id must be an integer or text, got {kind.name}"

end RecordFault

namespace TableFault

def message : TableFault → String
  | idKind position kind =>
    s!"record {position} has an id of kind {kind.name}, expected integer or text"
  | staleCounter position id nextId =>
    s!"record {position} has id {id.toInt} but next_id is {nextId.toInt}"
  | duplicateId position id => s!"duplicate id {id.display} at record {position}"

end TableFault

namespace FileFault

def message : FileFault → String
  | unreadable => "not a table document"
  | formatVersion version => s!"unsupported format version {version}"
  | otherTable found expected => s!"file belongs to table '{found}', expected '{expected}'"
  | contents fault => fault.message

end FileFault

def Expectation.phrase : Expectation → String
  | list => "a list"
  | text => "a text"
  | numberOrText => "a number or text"
  | finite => "a finite"
  | pattern => "a valid regular expression"

def EvalError.message (error : EvalError) : String :=
  s!"cannot evaluate '{error.field}{Operator.separator}{error.operator.name}': " ++
    s!"field is {error.fieldKind.name}, operand is {error.operandKind.name}"

def Error.message : Error → String
  | disk refusal => s!"I/O error: {refusal.name}"
  | corruptFile path fault => s!"corrupt table file {path}: {fault.message}"
  | directoryLocked path => s!"database directory is locked: {path}"
  | burnIncomplete burned table _ =>
    s!"burn stopped at table '{table}' after removing {burned.length} table(s)"
  | tableNotFound table => s!"table not found: {table}"
  | invalidTableName table =>
    s!"invalid table name '{table}': use 1-128 ASCII letters, digits, '_' or '-'"
  | idCollision table id => s!"id {id.display} already exists in table '{table}'"
  | immutableId table => s!"the id field of records in table '{table}' cannot be changed"
  | invalidRecord fault => s!"invalid record: {fault.message}"
  | validationFailed table reason => s!"validation failed for table '{table}': {reason}"
  | unknownOperator key operator => s!"unknown operator '{operator}' in query key '{key}'"
  | invalidOperand operator expected actual =>
    s!"operator '{operator.name}' expects {expected.phrase} operand, got {actual.name}"
  | emptyField key => s!"query key '{key}' has an empty field name"
  | recordNotFound table => s!"no record in table '{table}' matches the query"
  | evaluation error => error.message

end DocumentStore
