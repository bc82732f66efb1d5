import DocumentStore.Proofs.Predicate.Operand

/-!
# What evaluating a predicate gives

`Operator.Compares` says which kinds an operator can compare and `Operator.Holds` what it means
there.  Evaluating a predicate that has been built fails on the other kinds only, null apart, and
otherwise tells whether the operator holds.
-/

namespace DocumentStore

/-! ## Fields of finite records -/

namespace Value

theorem isFinite_walk {value : Value} (hfinite : value.isFinite = true) (names : List String) :
    (value.walk names).isFinite = true := by
  induction names generalizing value with
  | nil => exact hfinite
  | cons name rest ih =>
      unfold walk
      cases value with
      | map fields =>
          rw [isFinite_map_iff] at hfinite
          cases hfind : Keyed.find? name fields with
          | none => simp [get?, hfind, isFinite]
          | some item =>
              simp only [get?, hfind]
              exact ih (hfinite _ (Keyed.mem_of_find?_eq_some hfind))
      | null | boolean | integer | float | text | list => simp [get?, isFinite]

end Value

theorem Record.isFinite_field {record : Record} (hfinite : record.toValue.isFinite = true)
    (name : String) : (record.field name).isFinite = true := by
  rw [toValue, Value.isFinite_map_iff] at hfinite
  unfold field get?
  cases hfind : Keyed.find? name record.fields with
  | none => rfl
  | some value => exact hfinite _ (Keyed.mem_of_find?_eq_some hfind)

theorem Record.isFinite_resolve {record : Record} (hfinite : record.toValue.isFinite = true)
    (path : String) : (record.resolve path).isFinite = true := by
  unfold resolve
  cases hget : record.get? path with
  | some value =>
      have hfield := isFinite_field hfinite path
      rwa [field, hget] at hfield
  | none =>
      rcases Chars.splitFirst '.' path.toList with ⟨head, rest | rest⟩
      · exact isFinite_field hfinite (String.ofList head)
      · exact Value.isFinite_walk (isFinite_field hfinite (String.ofList head)) _

/-! ## The table of operators -/

/-- The order of the field to the operand is one that the comparison asks for. -/
def Comparison.Holds : Comparison → Ordering → Prop
  | gt, order => order = .gt
  | gte, order => order = .gt ∨ order = .eq
  | lt, order => order = .lt
  | lte, order => order = .lt ∨ order = .eq

namespace Operator

/-- The operator can compare the field with the operand. -/
def Compares : Operator → Value → Value → Prop
  | eq, _, _ | ne, _, _ | isIn, _, _ | notIn, _, _ => True
  | contains, field, operand =>
    field.kind = .list ∨ (field.kind = .text ∧ operand.kind = .text)
  | startswith, field, _ | endswith, field, _ | regex, field, _ => field.kind = .text
  | order _, field, operand =>
    (field.isNumber = true ∧ operand.isNumber = true) ∨
      (field.kind = .text ∧ operand.kind = .text)

/-- The field stands to the operand as the operator asks for. -/
def Holds : Operator → Value → Value → Prop
  | eq, field, operand => field.equivalent operand = true
  | ne, field, operand => ¬ field.equivalent operand = true
  | contains, .text s, .text part => part.toList <:+: s.toList
  | contains, .list items, operand => ∃ item ∈ items, item.equivalent operand = true
  | contains, _, _ => False
  | startswith, .text s, .text affix => affix.toList <+: s.toList
  | startswith, _, _ => False
  | endswith, .text s, .text affix => affix.toList <:+ s.toList
  | endswith, _, _ => False
  | order comparison, field, operand =>
    ∃ order, field.compare? operand = some order ∧ comparison.Holds order
  | isIn, field, .list items => ∃ item ∈ items, field.equivalent item = true
  | isIn, _, _ => False
  | notIn, field, .list items => ∀ item ∈ items, ¬ field.equivalent item = true
  | notIn, _, _ => False
  | regex, .text s, .text source =>
    ∃ pattern, Pattern.read? source = some pattern ∧ pattern.occursIn s = true
  | regex, _, _ => False

/-- The operators that compare any two values, `null` like the others. -/
def takesAny : List Operator :=
  [eq, ne, isIn, notIn]

theorem compares_of_takesAny {operator : Operator} (htakes : operator ∈ takesAny)
    (field operand : Value) : operator.Compares field operand := by
  cases operator with
  | eq | ne | isIn | notIn => trivial
  | contains | startswith | endswith | order | regex => simp [takesAny] at htakes

theorem not_holds_null {operator : Operator} (htakes : operator ∉ takesAny) (operand : Value) :
    ¬ operator.Holds .null operand := by
  cases operator with
  | eq | ne | isIn | notIn => simp [takesAny] at htakes
  | order => simp [Holds, Value.compare?, Value.number?]
  | contains | startswith | endswith | regex => simp [Holds]

end Operator

theorem Comparison.accepts_iff (comparison : Comparison) (order : Ordering) :
    comparison.accepts order = true ↔ comparison.Holds order := by
  cases comparison <;> cases order <;> simp [accepts, Holds]

theorem Chars.occursIn_iff (part chars : List Char) :
    occursIn part chars = true ↔ part <:+: chars := by
  induction chars with
  | nil => simp [occursIn, List.isEmpty_iff]
  | cons c rest ih =>
      rw [occursIn, Bool.or_eq_true, List.isPrefixOf_iff_prefix, ih, List.infix_cons_iff]

namespace Test

variable {test : Test} {field : Value}

/-- Tests of order compare a field that is there with the operand. -/
theorem accepts?_order (hfield : field ≠ .null) (comparison : Comparison) (operand : Value) :
    (order comparison operand).accepts? field =
      (field.compare? operand).map comparison.accepts := by
  unfold accepts?
  cases field with
  | null => exact absurd rfl hfield
  | boolean | integer | float | text | list | map => rfl

theorem accepts?_eq_none_iff (htest : test.operand.isFinite = true)
    (hfield : field.isFinite = true) :
    test.accepts? field = none ↔
      field ≠ .null ∧ ¬ test.operator.Compares field test.operand := by
  cases test with
  | eq other | ne other | isIn items | notIn items =>
      simp [accepts?, operator, Operator.Compares]
  | contains part =>
      cases field with
      | text s => cases part <;> simp [accepts?, operator, operand, Operator.Compares, Value.kind]
      | null | boolean | integer | float | list | map =>
          simp [accepts?, operator, operand, Operator.Compares, Value.kind]
  | startswith affix | endswith affix | regex source pattern =>
      cases field <;> simp [accepts?, operator, Operator.Compares, Value.kind]
  | order comparison bound =>
      by_cases hnull : field = .null
      · simp [hnull, accepts?, Value.isNull]
      · have hsome := Value.compare?_isSome_iff (Value.noNaN_of_isFinite hfield)
          (Value.noNaN_of_isFinite htest)
        rw [accepts?_order hnull, Option.map_eq_none_iff, ← Option.not_isSome_iff_eq_none]
        rw [operand] at hsome
        rw [hsome]
        simp [hnull, operator, operand, Operator.Compares]

theorem accepts?_eq_some (hchecked : test.Checked) {accepted : Bool}
    (haccepts : test.accepts? field = some accepted) :
    accepted = true ↔ test.operator.Holds field test.operand := by
  cases test with
  | eq other | ne other | isIn items | notIn items =>
      rw [accepts?, Option.some.injEq] at haccepts
      simp [← haccepts, operator, operand, Operator.Holds]
  | contains part =>
      cases field with
      | null => simpa [accepts?, operator, Operator.Holds] using haccepts
      | text s =>
          cases part with
          | text part =>
              rw [accepts?, Option.some.injEq] at haccepts
              rw [← haccepts, Chars.occursIn_iff]
              exact Iff.rfl
          | null | boolean | integer | float | list | map => simp [accepts?] at haccepts
      | list items =>
          rw [accepts?, Option.some.injEq] at haccepts
          rw [← haccepts, List.any_eq_true]
          exact Iff.rfl
      | boolean | integer | float | map => simp [accepts?] at haccepts
  | startswith affix =>
      cases field with
      | null => simpa [accepts?, operator, operand, Operator.Holds] using haccepts
      | text s =>
          rw [accepts?, Option.some.injEq] at haccepts
          rw [← haccepts, List.isPrefixOf_iff_prefix]
          exact Iff.rfl
      | boolean | integer | float | list | map => simp [accepts?] at haccepts
  | endswith affix =>
      cases field with
      | null => simpa [accepts?, operator, operand, Operator.Holds] using haccepts
      | text s =>
          rw [accepts?, Option.some.injEq] at haccepts
          rw [← haccepts, List.isSuffixOf_iff_suffix]
          exact Iff.rfl
      | boolean | integer | float | list | map => simp [accepts?] at haccepts
  | order comparison bound =>
      change accepted = true ↔ ∃ order, field.compare? bound = some order ∧ comparison.Holds order
      by_cases hnull : field = .null
      · subst hnull
        cases haccepts
        simp [Value.compare?, Value.number?]
      · rw [accepts?_order hnull, Option.map_eq_some_iff] at haccepts
        obtain ⟨order, horder, haccepted⟩ := haccepts
        rw [← haccepted, comparison.accepts_iff, horder]
        simp
  | regex source pattern =>
      have hread := hchecked.pattern source pattern rfl
      cases field with
      | null => simpa [accepts?, operator, operand, Operator.Holds] using haccepts
      | text s =>
          rw [accepts?, Option.some.injEq] at haccepts
          change accepted = true ↔
            ∃ found, Pattern.read? source = some found ∧ found.occursIn s = true
          simp [← haccepts, hread]
      | boolean | integer | float | list | map => simp [accepts?] at haccepts

end Test

/-! ## Predicates -/

namespace Predicate

variable {path : String} {operator : Operator} {operand : Value} {predicate : Predicate}
  {record : Record}

theorem evaluate_eq_error_iff (predicate : Predicate) (record : Record) (error : EvalError) :
    predicate.evaluate record = .error error ↔
      predicate.test.accepts? (record.resolve predicate.path) = none ∧
        error = ⟨predicate.path, predicate.operator, (record.resolve predicate.path).kind,
          predicate.operand.kind⟩ := by
  unfold evaluate
  dsimp only
  cases haccepts : predicate.test.accepts? (record.resolve predicate.path) with
  | none => simp [eq_comm]
  | some accepted => simp

theorem evaluate_eq_ok_iff (predicate : Predicate) (record : Record) (accepted : Bool) :
    predicate.evaluate record = .ok accepted ↔
      predicate.test.accepts? (record.resolve predicate.path) = some accepted := by
  unfold evaluate
  dsimp only
  cases haccepts : predicate.test.accepts? (record.resolve predicate.path) with
  | none => simp
  | some found => simp

theorem Built.path_eq (hbuilt : Built path operator operand predicate) : predicate.path = path :=
  (ofParts_eq_ok_iff.mp hbuilt.parts).2

theorem Built.test_eq (hbuilt : Built path operator operand predicate) :
    predicate.test.operator = operator ∧ predicate.test.operand = operand ∧
      predicate.test.Checked :=
  Test.ofOperand_eq_ok (ofParts_eq_ok_iff.mp hbuilt.parts).1

theorem Built.evaluate_eq_error_iff (hbuilt : Built path operator operand predicate)
    (hfinite : record.toValue.isFinite = true) (error : EvalError) :
    predicate.evaluate record = .error error ↔
      (record.resolve path ≠ .null ∧ ¬ operator.Compares (record.resolve path) operand) ∧
        error = ⟨path, operator, (record.resolve path).kind, operand.kind⟩ := by
  have hpath := hbuilt.path_eq
  obtain ⟨hoperator, hoperand, hchecked⟩ := hbuilt.test_eq
  rw [Predicate.evaluate_eq_error_iff, Predicate.operator, Predicate.operand, hpath,
    Test.accepts?_eq_none_iff hchecked.finite (Record.isFinite_resolve hfinite path), hoperator,
    hoperand]

theorem Built.evaluate_eq_ok_iff (hbuilt : Built path operator operand predicate)
    (hfinite : record.toValue.isFinite = true) (accepted : Bool) :
    predicate.evaluate record = .ok accepted ↔
      (record.resolve path = .null ∨ operator.Compares (record.resolve path) operand) ∧
        (accepted = true ↔ operator.Holds (record.resolve path) operand) := by
  have hpath := hbuilt.path_eq
  obtain ⟨hoperator, hoperand, hchecked⟩ := hbuilt.test_eq
  have hnone := Test.accepts?_eq_none_iff hchecked.finite (Record.isFinite_resolve hfinite path)
  rw [Predicate.evaluate_eq_ok_iff, hpath]
  rw [hoperator, hoperand] at hnone
  cases haccepts : predicate.test.accepts? (record.resolve path) with
  | none =>
      have hmismatch := hnone.mp haccepts
      simp [hmismatch.1, hmismatch.2]
  | some found =>
      have hcompares : record.resolve path = .null ∨
          operator.Compares (record.resolve path) operand := by
        rw [haccepts] at hnone
        by_contra hmismatch
        exact Option.some_ne_none found (hnone.mpr (not_or.mp hmismatch))
      have hfound := Test.accepts?_eq_some hchecked haccepts
      rw [hoperator, hoperand] at hfound
      rw [Option.some.injEq, ← hfound]
      simp only [hcompares, true_and]
      cases found <;> cases accepted <;> simp

theorem Built.exists_ok (hbuilt : Built path operator operand predicate)
    (hfinite : record.toValue.isFinite = true)
    (hcompares : operator.Compares (record.resolve path) operand) :
    ∃ accepted, predicate.evaluate record = .ok accepted := by
  cases hresult : predicate.evaluate record with
  | ok accepted => exact ⟨accepted, rfl⟩
  | error error =>
      have hmismatch := (hbuilt.evaluate_eq_error_iff hfinite error).mp hresult
      exact absurd hcompares hmismatch.1.2

/-- The operand of a membership test is a list. -/
theorem Built.operand_list (hbuilt : Built path .isIn operand predicate) :
    ∃ items, operand = .list items := by
  obtain ⟨hoperator, hoperand, -⟩ := hbuilt.test_eq
  rw [← hoperand]
  cases htest : predicate.test with
  | isIn items => exact ⟨items, rfl⟩
  | eq | ne | contains | startswith | endswith | order | notIn | regex =>
      simp [htest, Test.operator] at hoperator

/-- Not being among the items is the negation of being among them. -/
theorem Built.evaluate_notIn {membership absence : Predicate}
    (hmembership : Built path .isIn operand membership)
    (habsence : Built path .notIn operand absence) (hfinite : record.toValue.isFinite = true) :
    ∃ accepted, membership.evaluate record = .ok accepted ∧
      absence.evaluate record = .ok (!accepted) := by
  obtain ⟨accepted, haccepted⟩ := hmembership.exists_ok hfinite trivial
  have hholds := ((hmembership.evaluate_eq_ok_iff hfinite accepted).mp haccepted).2
  refine ⟨accepted, haccepted, (habsence.evaluate_eq_ok_iff hfinite _).mpr ⟨.inr trivial, ?_⟩⟩
  obtain ⟨items, rfl⟩ := hmembership.operand_list
  simp only [Operator.Holds] at hholds ⊢
  rw [Bool.not_eq_true', ← Bool.not_eq_true, hholds]
  push Not
  exact Iff.rfl

/-- A predicate fails on a record exactly when the field is there and is of a kind that the
operator cannot compare with the operand; the error names the path, the operator and both kinds.
Elsewhere it tells whether the operator holds. -/
theorem evaluate_fails_on_incompatible_kinds_only (hbuilt : Built path operator operand predicate)
    (hfinite : record.toValue.isFinite = true) :
    let field := record.resolve path
    (∀ error, predicate.evaluate record = .error error ↔
      (field ≠ .null ∧ ¬ operator.Compares field operand) ∧
        error = ⟨path, operator, field.kind, operand.kind⟩) ∧
      (∀ accepted, predicate.evaluate record = .ok accepted ↔
        (field = .null ∨ operator.Compares field operand) ∧
          (accepted = true ↔ operator.Holds field operand)) ∧
      (operator ∈ Operator.takesAny → ∃ accepted, predicate.evaluate record = .ok accepted) ∧
      (operator ∉ Operator.takesAny → field = .null → predicate.evaluate record = .ok false) ∧
      (operator = .isIn → ∀ absence, Built path .notIn operand absence →
        ∃ accepted, predicate.evaluate record = .ok accepted ∧
          absence.evaluate record = .ok (!accepted)) := by
  dsimp only
  refine ⟨hbuilt.evaluate_eq_error_iff hfinite, hbuilt.evaluate_eq_ok_iff hfinite, ?_, ?_, ?_⟩
  · intro htakes
    exact hbuilt.exists_ok hfinite (Operator.compares_of_takesAny htakes _ _)
  · intro htakes hnull
    have hfalse := Operator.not_holds_null htakes operand
    rw [hbuilt.evaluate_eq_ok_iff hfinite, hnull]
    simp [hfalse]
  · intro hin absence habsence
    subst hin
    exact hbuilt.evaluate_notIn habsence hfinite

/-- A text is no number: the order of the two is an error that names both kinds. -/
theorem evaluate_fails_on_incompatible_kinds_only_text :
    ∃ predicate, ofKey "age__gt" (.integer 3) = .ok predicate ∧
      predicate.evaluate ⟨[("age", .text "old")]⟩ =
        .error ⟨"age", .order .gt, .text, .integer⟩ := by
  have hsplit : splitKey "age__gt" = .ok ("age", .order .gt) := by
    with_unfolding_all rfl
  have hkey : ofKey "age__gt" (.integer 3) = .ok ⟨"age", .order .gt (.integer 3)⟩ := by
    with_unfolding_all rfl
  have hfield : Record.resolve "age" ⟨[("age", .text "old")]⟩ = .text "old" := by
    with_unfolding_all rfl
  obtain ⟨hfails, -⟩ := evaluate_fails_on_incompatible_kinds_only (.ofKey hsplit hkey)
    (show (Record.toValue ⟨[("age", .text "old")]⟩).isFinite = true from rfl)
  refine ⟨_, hkey, (hfails _).mpr ?_⟩
  rw [hfield]
  simp [Operator.Compares, Value.isNumber, Value.kind]

end Predicate

end DocumentStore
