import DocumentStore.Json.Printer
import DocumentStore.Record

/-!
# Validators

A validator looks at a record before it is stored and either accepts it or gives a reason to reject
it.
-/

namespace DocumentStore

abbrev Validator := Record → Except String Unit

namespace Validator

def none : Validator :=
  fun _ => .ok ()

def required (fields : List String) : Validator := fun record =>
  match fields.find? fun field => (record.field field).isNull with
  | some field => .error s!"missing required field '{field}'"
  | Option.none => .ok ()

def atLeast (field : String) (least : Int64) : Validator := fun record =>
  let reason :=
    s!"{field} must be at least {least.toInt}, got {Value.display (record.field field)}"
  match (record.field field).integer? with
  | some n => if least ≤ n then .ok () else .error reason
  | Option.none => .error reason

end Validator

end DocumentStore
