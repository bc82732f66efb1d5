import DocumentStore.Error
import DocumentStore.Pattern.Reader
import DocumentStore.Pattern.Search
import DocumentStore.Record

/-!
# Predicates

A `Predicate` tests the value to which a path leads in a record.  Its `Test` holds an operand of a
kind that the operator can use, which `Test.ofOperand` checks; a pattern is read at the same time.

A query key names a path and an operator: `Predicate.ofKey` splits it at the last separator, and a
key without one asks for equality.  A missing field reads as `null`, which no test of texts, parts
or order accepts and which is no error to them.  Any other field of a kind that the operator cannot
compare is an error.
-/

namespace DocumentStore

inductive Test where
  | eq (operand : Value)
  | ne (operand : Value)
  | contains (operand : Value)
  | startswith (affix : String)
  | endswith (affix : String)
  | order (comparison : Comparison) (operand : Value)
  | isIn (items : List Value)
  | notIn (items : List Value)
  | regex (source : String) (pattern : Pattern)
deriving Repr

namespace Test

def operator : Test → Operator
  | eq _ => .eq
  | ne _ => .ne
  | contains _ => .contains
  | startswith _ => .startswith
  | endswith _ => .endswith
  | order comparison _ => .order comparison
  | isIn _ => .isIn
  | notIn _ => .notIn
  | regex _ _ => .regex

def operand : Test → Value
  | eq operand => operand
  | ne operand => operand
  | contains operand => operand
  | startswith affix => .text affix
  | endswith affix => .text affix
  | order _ operand => operand
  | isIn items => .list items
  | notIn items => .list items
  | regex source _ => .text source

/-- The test, unless its operand has a number that is not finite. -/
def finite (test : Test) : Except Expectation Test :=
  if test.operand.isFinite then .ok test else .error .finite

/-- The test of an operator with this operand, or what the operator expects instead. -/
def ofOperand (operator : Operator) (operand : Value) : Except Expectation Test :=
  match operator with
  | .eq => (eq operand).finite
  | .ne => (ne operand).finite
  | .contains => (contains operand).finite
  | .startswith =>
    match operand with
    | .text affix => .ok (startswith affix)
    | _ => .error .text
  | .endswith =>
    match operand with
    | .text affix => .ok (endswith affix)
    | _ => .error .text
  | .order comparison =>
    match operand with
    | .integer _ | .float _ | .text _ => (order comparison operand).finite
    | _ => .error .numberOrText
  | .isIn =>
    match operand with
    | .list items => (isIn items).finite
    | _ => .error .list
  | .notIn =>
    match operand with
    | .list items => (notIn items).finite
    | _ => .error .list
  | .regex =>
    match operand with
    | .text source =>
      match Pattern.read? source with
      | some pattern => .ok (regex source pattern)
      | none => .error .pattern
    | _ => .error .text

def accepts? (field : Value) : Test → Option Bool
  | eq operand => some (field.equivalent operand)
  | ne operand => some (!field.equivalent operand)
  | contains operand =>
    match field, operand with
    | .null, _ => some false
    | .text s, .text part => some (Chars.occursIn part.toList s.toList)
    | .list items, operand => some (items.any fun item => item.equivalent operand)
    | _, _ => none
  | startswith affix =>
    match field with
    | .null => some false
    | .text s => some (affix.toList.isPrefixOf s.toList)
    | _ => none
  | endswith affix =>
    match field with
    | .null => some false
    | .text s => some (affix.toList.isSuffixOf s.toList)
    | _ => none
  | order comparison operand =>
    if field.isNull then some false else (field.compare? operand).map comparison.accepts
  | isIn items => some (items.any fun item => field.equivalent item)
  | notIn items => some (!items.any fun item => field.equivalent item)
  | regex _ pattern =>
    match field with
    | .null => some false
    | .text s => some (pattern.occursIn s)
    | _ => none

end Test

structure Predicate where
  path : String
  test : Test
deriving Repr

namespace Predicate

/-- The pattern of a test follows from its operand and does not count. -/
instance : BEq Predicate :=
  ⟨fun a b => a.path == b.path && a.test.operator == b.test.operator
    && a.test.operand == b.test.operand⟩

def operator (predicate : Predicate) : Operator :=
  predicate.test.operator

def operand (predicate : Predicate) : Value :=
  predicate.test.operand

def ofParts (path : String) (operator : Operator) (operand : Value) : Except Error Predicate :=
  match Test.ofOperand operator operand with
  | .ok test => .ok ⟨path, test⟩
  | .error expected => .error (.invalidOperand operator expected operand.kind)

def splitKey (key : String) : Except Error (String × Operator) :=
  match Chars.splitAtLast? Operator.separator.toList key.toList with
  | none => .ok (key, .eq)
  | some (path, name) =>
    match Operator.ofName? (String.ofList name) with
    | some operator => .ok (String.ofList path, operator)
    | none => .error (.unknownOperator key (String.ofList name))

def ofKey (key : String) (operand : Value) : Except Error Predicate := do
  let (path, operator) ← splitKey key
  if Path.isComplete path then ofParts path operator operand else .error (.emptyField key)

def evaluate (predicate : Predicate) (record : Record) : Except EvalError Bool :=
  let field := record.resolve predicate.path
  match predicate.test.accepts? field with
  | some accepted => .ok accepted
  | none =>
    .error ⟨predicate.path, predicate.operator, field.kind, predicate.operand.kind⟩

/-- All predicates accept the record; the first that does not, or fails, decides. -/
def matchesAll : List Predicate → Record → Except EvalError Bool
  | [], _ => .ok true
  | predicate :: rest, record => do
    if ← predicate.evaluate record then matchesAll rest record else return false

def display (predicate : Predicate) : String :=
  s!"{predicate.path}{Operator.separator}{predicate.operator.name}={predicate.operand.display}"

end Predicate

end DocumentStore
