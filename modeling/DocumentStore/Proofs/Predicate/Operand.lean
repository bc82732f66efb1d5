import DocumentStore.Predicate
import DocumentStore.Proofs.Result
import DocumentStore.Proofs.Value.Equality

/-!
# Predicates that have been built

A predicate is built from its parts or from a query key, and either way its test comes from
`Test.ofOperand`.  So its operator and operand are the ones given, no number in the operand is NaN
or infinite, and a pattern is the one that the operand reads as (`Test.Checked`).
-/

namespace DocumentStore

namespace Test

/-- What the checks of an operand leave to rely on. -/
structure Checked (test : Test) : Prop where
  finite : test.operand.isFinite = true
  pattern : ∀ source pattern, test = regex source pattern → Pattern.read? source = some pattern

theorem finite_eq_ok_iff (test result : Test) :
    test.finite = .ok result ↔ test.operand.isFinite = true ∧ test = result := by
  unfold finite
  split_ifs with hfinite <;> simp [hfinite]

theorem finite_of_isFinite {test : Test} (hfinite : test.operand.isFinite = true) :
    test.finite = .ok test :=
  (finite_eq_ok_iff test test).mpr ⟨hfinite, rfl⟩

/-- An operand that is checked for numbers only. -/
private theorem checked_of_finite {test result : Test} (hfinite : test.finite = .ok result)
    (hplain : ∀ source pattern, test ≠ regex source pattern) :
    result.operator = test.operator ∧ result.operand = test.operand ∧ result.Checked := by
  obtain ⟨hoperand, rfl⟩ := (finite_eq_ok_iff test result).mp hfinite
  exact ⟨rfl, rfl, hoperand, fun source pattern heq => absurd heq (hplain source pattern)⟩

theorem ofOperand_eq_ok {operator : Operator} {operand : Value} {test : Test}
    (htest : ofOperand operator operand = .ok test) :
    test.operator = operator ∧ test.operand = operand ∧ test.Checked := by
  cases operator with
  | eq => exact checked_of_finite htest (by simp)
  | ne => exact checked_of_finite htest (by simp)
  | contains => exact checked_of_finite htest (by simp)
  | startswith =>
      cases operand <;> simp only [ofOperand, reduceCtorEq, Except.ok.injEq] at htest
      subst htest
      exact ⟨rfl, rfl, rfl, by simp⟩
  | endswith =>
      cases operand <;> simp only [ofOperand, reduceCtorEq, Except.ok.injEq] at htest
      subst htest
      exact ⟨rfl, rfl, rfl, by simp⟩
  | order comparison =>
      cases operand with
      | integer | float | text => exact checked_of_finite htest (by simp)
      | null | boolean | list | map => simp [ofOperand] at htest
  | isIn =>
      cases operand with
      | list items => exact checked_of_finite htest (by simp)
      | null | boolean | integer | float | text | map => simp [ofOperand] at htest
  | notIn =>
      cases operand with
      | list items => exact checked_of_finite htest (by simp)
      | null | boolean | integer | float | text | map => simp [ofOperand] at htest
  | regex =>
      cases operand with
      | text source =>
          simp only [ofOperand] at htest
          cases hpattern : Pattern.read? source with
          | none => simp [hpattern] at htest
          | some pattern =>
              simp only [hpattern, Except.ok.injEq] at htest
              subst htest
              refine ⟨rfl, rfl, rfl, ?_⟩
              intro source' pattern' heq
              cases heq
              exact hpattern
      | null | boolean | integer | float | list | map => simp [ofOperand] at htest

end Test

namespace Predicate

theorem ofParts_eq_ok_iff {path : String} {operator : Operator} {operand : Value}
    {predicate : Predicate} :
    ofParts path operator operand = .ok predicate ↔
      Test.ofOperand operator operand = .ok predicate.test ∧ predicate.path = path := by
  obtain ⟨path', test⟩ := predicate
  unfold ofParts
  cases Test.ofOperand operator operand with
  | error expected => simp
  | ok found => simp [and_comm, eq_comm]

/-- The predicate was built with this path, operator and operand: from the three parts, or from a
query key that splits into the path and the operator. -/
inductive Built (path : String) (operator : Operator) (operand : Value) : Predicate → Prop
  | ofParts {predicate : Predicate}
      (hparts : Predicate.ofParts path operator operand = .ok predicate) :
      Built path operator operand predicate
  | ofKey {key : String} {predicate : Predicate} (hsplit : splitKey key = .ok (path, operator))
      (hkey : Predicate.ofKey key operand = .ok predicate) : Built path operator operand predicate

theorem Built.parts {path : String} {operator : Operator} {operand : Value}
    {predicate : Predicate} (hbuilt : Built path operator operand predicate) :
    Predicate.ofParts path operator operand = .ok predicate := by
  cases hbuilt with
  | ofParts hparts => exact hparts
  | ofKey hsplit hkey =>
      unfold Predicate.ofKey at hkey
      rw [bind_eq_ok_iff] at hkey
      obtain ⟨parts, hparts, hbody⟩ := hkey
      cases hparts.symm.trans hsplit
      dsimp only at hbody
      split_ifs at hbody
      exact hbody

end Predicate

end DocumentStore
