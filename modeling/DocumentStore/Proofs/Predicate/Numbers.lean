import DocumentStore.Proofs.Predicate.Coherence
import DocumentStore.Proofs.Value.Numbers

/-!
# Predicates on numbers

Predicates of equality, order and membership decide by the amounts of two numbers, up to the
integers that are widened to a double of another amount.
-/

namespace DocumentStore

namespace Value

theorem isFinite_of_amount? {a : Value} {p : ℚ} (ha : a.amount? = some p) :
    a.isFinite = true := by
  rcases amount?_eq_some ha with ⟨n, rfl, -⟩ | ⟨x, rfl, hfinite, -⟩
  · rfl
  · exact hfinite

theorem equivalent_amount {a b : Value} {p : ℚ} (ha : a.amount? = some p)
    (hb : b.isFinite = true) :
    a.equivalent b = true ↔ b.amount? = some p ∨ Blurred a b := by
  by_cases hnumber : b.isNumber = true
  · obtain ⟨q, hq⟩ := exists_amount? hnumber hb
    rw [equivalent_amounts ha hq, hq, Option.some_inj, eq_comm]
  · have hother : ¬ a.equivalent b = true := by
      intro hab
      obtain ⟨q, hq⟩ := amount?_of_equivalent ha hb hab
      rcases amount?_eq_some hq with ⟨n, rfl, -⟩ | ⟨x, rfl, -, -⟩ <;> exact hnumber rfl
    have hnone : b.amount? = none ∧ ¬ Blurred a b := by
      cases b with
      | integer | float => exact absurd rfl hnumber
      | null | boolean | text | list | map => cases a <;> exact ⟨rfl, not_false⟩
    simp [hother, hnone.1, hnone.2]

end Value

namespace Test

theorem ofOperand_order_of_amount? {operand : Value} {q : ℚ} (hamount : operand.amount? = some q)
    (comparison : Comparison) :
    ofOperand (.order comparison) operand = .ok (order comparison operand) := by
  have hfinite := Value.isFinite_of_amount? hamount
  rcases Value.amount?_eq_some hamount with ⟨n, rfl, -⟩ | ⟨x, rfl, -, -⟩
  · exact finite_of_isFinite hfinite
  · exact finite_of_isFinite hfinite

end Test

namespace Predicate

variable {path : String} {record : Record} {operand : Value} {p q : ℚ}

theorem answers_of_amounts {order : Ordering} (hfield : (record.resolve path).amount? = some p)
    (hoperand : operand.amount? = some q)
    (horder : (record.resolve path).compare? operand = some order) :
    Answers path .eq operand record order.isEq ∧
      ∀ comparison, Answers path (.order comparison) operand record
        (comparison.accepts order) := by
  have hthere : record.resolve path ≠ .null := by
    intro hnull
    simp [hnull, Value.amount?] at hfield
  obtain ⟨hordered, hequal, -⟩ :=
    answers_of_compare? (Test.ofOperand_order_of_amount? hoperand .gt) hthere horder
  exact ⟨hequal, hordered⟩

theorem answers_isIn_of_amount? {items : List Value}
    (hfield : (record.resolve path).amount? = some p)
    (hitems : (Value.list items).isFinite = true) :
    ∃ answer, Answers path .isIn (.list items) record answer ∧
      (answer = true ↔ ∃ item ∈ items,
        item.amount? = some p ∨ Value.Blurred (record.resolve path) item) := by
  have hin : Test.ofOperand .isIn (.list items) = .ok (.isIn items) :=
    Test.finite_of_isFinite hitems
  refine ⟨_, answers_of_accepts? hin rfl, ?_⟩
  rw [List.any_eq_true]
  apply exists_congr
  intro item
  apply and_congr_right
  intro hitem
  exact Value.equivalent_amount hfield ((Value.isFinite_list_iff items).mp hitems item hitem)

/-- Numbers compare by their amounts, and predicates of equality, order and membership decide by
them, except that an integer counts as equal to the double that it is widened to.  Integers of up
to 53 bits are no exception.  Chains of order and of equivalence, the latter at any depth, break
only at a double between two different integers that are both widened to it. -/
theorem numbers_compare_by_value_unless_widened {a b c : Value} {p q r : ℚ}
    (ha : a.amount? = some p) (hb : b.amount? = some q) (hc : c.amount? = some r) :
    (¬ a.Blurred b → a.compare? b = some (compare p q) ∧ (a.equivalent b = true ↔ p = q)) ∧
      (a.Blurred b → a.compare? b = some .eq ∧ a.equivalent b = true) ∧
      (∀ n : Int64, n.toInt.natAbs ≤ 2 ^ 53 → ¬ (Value.integer n).Blurred b) ∧
      (¬ Value.Bridged a b c → a.AtMost b → b.AtMost c → a.AtMost c) ∧
      (∀ u v w : Value, u.isFinite = true → v.isFinite = true → w.isFinite = true →
        ¬ Value.Bridged u v w → u.equivalent v = true → v.equivalent w = true →
        u.equivalent w = true) ∧
      ∀ path record, record.resolve path = a →
        (¬ a.Blurred b → Answers path .eq b record (compare p q).isEq ∧
          ∀ comparison, Answers path (.order comparison) b record
            (comparison.accepts (compare p q))) ∧
        (a.Blurred b → Answers path .eq b record true ∧
          ∀ comparison, Answers path (.order comparison) b record (comparison.accepts .eq)) ∧
        ∀ items, (Value.list items).isFinite = true →
          ∃ answer, Answers path .isIn (.list items) record answer ∧
            (answer = true ↔ ∃ item ∈ items, item.amount? = some p ∨ a.Blurred item) := by
  obtain ⟨hblurred, hsharp⟩ := Value.compare?_amounts ha hb
  have hequivalent := Value.equivalent_amounts ha hb
  refine ⟨?_, ?_, ?_, ?_, ?_, ?_⟩
  · intro h
    refine ⟨hsharp h, ?_⟩
    rw [hequivalent, or_iff_left h]
  · intro h
    exact ⟨hblurred h, hequivalent.mpr (.inr h)⟩
  · intro n hsmall
    exact Value.not_blurred_of_small hsmall b
  · exact Value.atMost_trans ha hb hc
  · intro u v w
    exact Value.equivalent_trans
  · intro path record hfield
    subst hfield
    refine ⟨?_, ?_, ?_⟩
    · intro h
      exact answers_of_amounts ha hb (hsharp h)
    · intro h
      exact answers_of_amounts ha hb (hblurred h)
    · intro items hitems
      exact answers_isIn_of_amount? ha hitems

/-- The double of amount `2 ^ 53`. -/
private def large : Double :=
  ⟨0x4340000000000000⟩

private theorem toRat_large : large.toRat = 9007199254740992 := by
  have hwidened : Double.ofInt 9007199254740992 = large := by decide +kernel
  rw [← hwidened, Double.toRat_ofInt_of_small (by decide)]
  norm_num

private theorem amount?_large : (Value.float large).amount? = some 9007199254740992 := by
  have hfinite : large.isFinite = true := by decide
  rw [Value.amount?, if_pos hfinite, toRat_large]

theorem numbers_compare_by_value_unless_widened_large :
    (Value.integer 7).AtMost (.float large) ∧
      Answers "size" (.order .lt) (.float large) ⟨[("size", .integer 7)]⟩ true := by
  have hseven : (Value.integer 7).amount? = some 7 := by
    rw [Value.amount?]
    norm_num
    rfl
  have hfield : Record.resolve "size" ⟨[("size", .integer 7)]⟩ = .integer 7 := by
    with_unfolding_all rfl
  obtain ⟨hvalue, -, hsmall, -, -, hanswers⟩ :=
    numbers_compare_by_value_unless_widened hseven amount?_large amount?_large
  have hsharp := hsmall 7 (by decide)
  have hless : compare (7 : ℚ) 9007199254740992 = .lt := by
    rw [compare_lt_iff_lt]
    norm_num
  have hanswer := ((hanswers "size" _ hfield).1 hsharp).2 .lt
  rw [hless] at hanswer hvalue
  exact ⟨⟨.lt, (hvalue hsharp).1, by decide⟩, hanswer⟩

/-- Two integers that differ are both equal to the double of the smaller one. -/
theorem neighbours_equal_one_double :
    (Value.integer 9007199254740993).amount? = some 9007199254740993 ∧
      (Value.float large).amount? = some 9007199254740992 ∧
      (Value.integer 9007199254740993).compare? (.float large) = some .eq ∧
      (Value.integer 9007199254740993).equivalent (.float large) = true ∧
      (Value.float large).equivalent (.integer 9007199254740992) = true ∧
      (Value.integer 9007199254740993).equivalent (.integer 9007199254740992) = false := by
  refine ⟨?_, amount?_large, by decide +kernel, by decide +kernel, by decide +kernel, by decide⟩
  rw [Value.amount?]
  norm_num
  rfl

end Predicate

end DocumentStore
