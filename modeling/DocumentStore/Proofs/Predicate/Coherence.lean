import DocumentStore.Proofs.Predicate.Evaluation

/-!
# Equality, order and membership agree

Where two values can be ordered, their order says whether they are equivalent.  So predicates of
equality and of order with one operand never contradict each other, and a list contains a value
exactly when the value is in the list.
-/

namespace DocumentStore

namespace Test

/-- An operand that one comparison can use serves every comparison and tests of equality. -/
theorem ofOperand_of_order {comparison : Comparison} {operand : Value} {test : Test}
    (htest : ofOperand (.order comparison) operand = .ok test) :
    operand.isFinite = true ∧
      ∀ other, ofOperand (.order other) operand = .ok (order other operand) := by
  obtain ⟨-, hoperand, hchecked⟩ := ofOperand_eq_ok htest
  have hfinite : operand.isFinite = true := by
    rw [← hoperand]
    exact hchecked.finite
  refine ⟨hfinite, fun other => ?_⟩
  cases operand with
  | integer | float | text => exact finite_of_isFinite hfinite
  | null | boolean | list | map => simp [ofOperand] at htest

end Test

namespace Predicate

/-- Predicates of this path, operator and operand can be built, and all of them give the record
this answer. -/
def Answers (path : String) (operator : Operator) (operand : Value) (record : Record)
    (answer : Bool) : Prop :=
  (∃ predicate, ofParts path operator operand = .ok predicate) ∧
    ∀ predicate, Built path operator operand predicate → predicate.evaluate record = .ok answer

variable {path : String} {operator : Operator} {operand : Value} {record : Record}

theorem answers_of_accepts? {test : Test} {answer : Bool}
    (htest : Test.ofOperand operator operand = .ok test)
    (haccepts : test.accepts? (record.resolve path) = some answer) :
    Answers path operator operand record answer := by
  constructor
  · exact ⟨⟨path, test⟩, ofParts_eq_ok_iff.mpr ⟨htest, rfl⟩⟩
  · intro predicate hbuilt
    obtain ⟨hparts, hpath⟩ := ofParts_eq_ok_iff.mp hbuilt.parts
    cases hparts.symm.trans htest
    rw [evaluate_eq_ok_iff, hpath]
    exact haccepts

/-- All that the predicates of equality and order answer follows from the order of the field to
the operand. -/
theorem answers_of_compare? {comparison : Comparison} {test : Test} {order : Ordering}
    (htest : Test.ofOperand (.order comparison) operand = .ok test)
    (hfield : record.resolve path ≠ .null)
    (horder : (record.resolve path).compare? operand = some order) :
    (∀ other, Answers path (.order other) operand record (other.accepts order)) ∧
      Answers path .eq operand record order.isEq ∧
      Answers path .ne operand record (!order.isEq) := by
  obtain ⟨hfinite, horders⟩ := Test.ofOperand_of_order htest
  have hequal : (record.resolve path).equivalent operand = order.isEq := by
    rw [Bool.eq_iff_iff, ← Value.compare?_eq_eq_iff horder, Ordering.isEq_iff_eq_eq]
  have heq : Test.ofOperand .eq operand = .ok (.eq operand) := Test.finite_of_isFinite hfinite
  have hne : Test.ofOperand .ne operand = .ok (.ne operand) := Test.finite_of_isFinite hfinite
  refine ⟨fun other => ?_, ?_, ?_⟩
  · apply answers_of_accepts? (horders other)
    rw [Test.accepts?_order hfield, horder, Option.map_some]
  · apply answers_of_accepts? heq
    rw [Test.accepts?, hequal]
  · apply answers_of_accepts? hne
    rw [Test.accepts?, hequal]

/-- A predicate of order that gives an answer on a field that is there has compared the two. -/
theorem Built.compare?_isSome {comparison : Comparison} {predicate : Predicate} {answer : Bool}
    (hbuilt : Built path (.order comparison) operand predicate)
    (hfield : record.resolve path ≠ .null) (hanswer : predicate.evaluate record = .ok answer) :
    ∃ order, (record.resolve path).compare? operand = some order := by
  obtain ⟨htest, hpath⟩ := ofParts_eq_ok_iff.mp hbuilt.parts
  obtain ⟨-, horders⟩ := Test.ofOperand_of_order htest
  have htest' := Except.ok.inj (htest.symm.trans (horders comparison))
  rw [Predicate.evaluate_eq_ok_iff, hpath, htest', Test.accepts?_order hfield, Option.map_eq_some_iff]
    at hanswer
  obtain ⟨order, horder, -⟩ := hanswer
  exact ⟨order, horder⟩

/-- Containing a value is the same as the value being in the list. -/
theorem answers_membership {items : List Value} {value : Value} {other : String}
    {holder element : Record} (hitems : (Value.list items).isFinite = true)
    (hvalue : value.isFinite = true) (hholder : holder.resolve path = .list items)
    (helement : element.resolve other = value) :
    ∃ answer, Answers path .contains value holder answer ∧
      Answers other .isIn (.list items) element answer := by
  have hcontains : Test.ofOperand .contains value = .ok (.contains value) :=
    Test.finite_of_isFinite hvalue
  have hin : Test.ofOperand .isIn (.list items) = .ok (.isIn items) :=
    Test.finite_of_isFinite hitems
  refine ⟨items.any fun item => item.equivalent value, ?_, ?_⟩
  · apply answers_of_accepts? hcontains
    rw [hholder]
    cases value <;> rfl
  · apply answers_of_accepts? hin
    rw [helement, Test.accepts?]
    simp only [Value.equivalent_comm value]

/-- Equality, order and membership agree.  Equivalence is reflexive, symmetric and implied by
structural equality; the order of two values turns around with them and is `eq` exactly when they
are equivalent.  Where a predicate of order gives an answer, exactly one of less, equal and
greater does hold, and the other predicates follow from these. -/
theorem equality_order_and_membership_cohere :
    (∀ a b : Value, a.NoNaN → b.NoNaN →
      a.equivalent a = true ∧ a.equivalent b = b.equivalent a ∧
        ((a == b) = true → a.equivalent b = true) ∧
        ((a.compare? b).isSome = true ↔
          (a.isNumber = true ∧ b.isNumber = true) ∨ (a.kind = .text ∧ b.kind = .text)) ∧
        b.compare? a = (a.compare? b).map Ordering.swap ∧
        ∀ order, a.compare? b = some order → (order = .eq ↔ a.equivalent b = true)) ∧
      (∀ path comparison operand predicate record answer,
        Built path (.order comparison) operand predicate → record.resolve path ≠ .null →
        predicate.evaluate record = .ok answer →
        ∃ less equal greater, [less, equal, greater].count true = 1 ∧
          Answers path (.order .lt) operand record less ∧
          Answers path .eq operand record equal ∧
          Answers path (.order .gt) operand record greater ∧
          Answers path (.order .gte) operand record (greater || equal) ∧
          Answers path (.order .lte) operand record (less || equal) ∧
          Answers path .ne operand record (!equal)) ∧
      (∀ path other items value holder element,
        (Value.list items).isFinite = true → value.isFinite = true →
        holder.resolve path = .list items → element.resolve other = value →
        ∃ answer, Answers path .contains value holder answer ∧
          Answers other .isIn (.list items) element answer) := by
  refine ⟨?_, ?_, ?_⟩
  · intro a b ha hb
    exact ⟨Value.equivalent_self ha, Value.equivalent_comm a b, Value.equivalent_of_same,
      Value.compare?_isSome_iff ha hb, Value.compare?_swap a b,
      fun order => Value.compare?_eq_eq_iff⟩
  · intro path comparison operand predicate record answer hbuilt hfield hanswer
    obtain ⟨order, horder⟩ := hbuilt.compare?_isSome hfield hanswer
    obtain ⟨hordered, hequal, hunequal⟩ :=
      answers_of_compare? (ofParts_eq_ok_iff.mp hbuilt.parts).1 hfield horder
    have hgte : Comparison.accepts .gte order = (order.isGT || order.isEq) := by
      cases order <;> rfl
    have hlte : Comparison.accepts .lte order = (order.isLT || order.isEq) := by
      cases order <;> rfl
    have hone : [order.isLT, order.isEq, order.isGT].count true = 1 := by
      cases order <;> rfl
    exact ⟨order.isLT, order.isEq, order.isGT, hone, hordered .lt, hequal, hordered .gt,
      hgte ▸ hordered .gte, hlte ▸ hordered .lte, hunequal⟩
  · intro path other items value holder element hitems hvalue hholder helement
    exact answers_membership hitems hvalue hholder helement

/-- A record with an integer and a list, and the three parts on it. -/
theorem equality_order_and_membership_cohere_adult :
    let record : Record := ⟨[("age", .integer 30), ("tags", .list [.text "a", .integer 1])]⟩
    (Value.list [.integer 1]).equivalent (.list [.integer 1]) = true ∧
      (∃ less equal greater, [less, equal, greater].count true = 1 ∧
        Answers "age" (.order .lt) (.integer 18) record less ∧
        Answers "age" .eq (.integer 18) record equal ∧
        Answers "age" (.order .gt) (.integer 18) record greater) ∧
      ∃ answer, Answers "tags" .contains (.integer 30) record answer ∧
        Answers "age" .isIn (.list [.text "a", .integer 1]) record answer := by
  intro record
  have hparts : ofParts "age" (.order .gte) (.integer 18) =
      .ok ⟨"age", .order .gte (.integer 18)⟩ := rfl
  have hage : record.resolve "age" = .integer 30 := by
    with_unfolding_all rfl
  have htags : record.resolve "tags" = .list [.text "a", .integer 1] := by
    with_unfolding_all rfl
  have hanswer : evaluate ⟨"age", .order .gte (.integer 18)⟩ record = .ok true := by
    with_unfolding_all rfl
  have hordered : (Value.list [.integer 1]).NoNaN := Value.noNaN_of_isFinite rfl
  obtain ⟨hvalues, horders, hmembership⟩ := equality_order_and_membership_cohere
  refine ⟨(hvalues _ _ hordered hordered).1, ?_, hmembership _ _ _ _ _ _ rfl rfl htags hage⟩
  obtain ⟨less, equal, greater, hone, hless, hequal, hgreater, -⟩ :=
    horders _ _ _ _ record true (.ofParts hparts) (by simp [hage]) hanswer
  exact ⟨less, equal, greater, hone, hless, hequal, hgreater⟩

end Predicate

end DocumentStore
