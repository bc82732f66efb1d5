import DocumentStore.Proofs.Double.Rounding
import DocumentStore.Proofs.Value
import DocumentStore.Value.Order

/-!
# Laws of equality and order

`equivalent` is symmetric, holds wherever `==` does, and holds between a value and itself unless a
NaN occurs in it.  `compare?` is defined between two numbers and between two texts, turns around
with its arguments, and says equal where the values are equivalent.

Lists and maps are equivalent member by member, so that all these laws come down to scalars.
-/

namespace DocumentStore

namespace Value

/-! ## Members -/

theorem sameItems_iff (as bs : List Value) :
    sameItems as bs = true ↔ List.Forall₂ (fun a b => a.same b = true) as bs := by
  induction as generalizing bs with
  | nil => cases bs <;> simp [sameItems]
  | cons a as ih => cases bs <;> simp [sameItems, ih]

theorem equivalentItems_iff (as bs : List Value) :
    equivalentItems as bs = true ↔ List.Forall₂ (fun a b => a.equivalent b = true) as bs := by
  induction as generalizing bs with
  | nil => cases bs <;> simp [equivalentItems]
  | cons a as ih => cases bs <;> simp [equivalentItems, ih]

theorem sameFields_iff (as bs : List (String × Value)) :
    sameFields as bs = true ↔
      List.Forall₂ (fun a b => a.1 = b.1 ∧ a.2.same b.2 = true) as bs := by
  induction as generalizing bs with
  | nil => cases bs <;> simp [sameFields]
  | cons a as ih => cases bs <;> simp [sameFields, ih]

theorem equivalentFields_iff (as bs : List (String × Value)) :
    equivalentFields as bs = true ↔
      List.Forall₂ (fun a b => a.1 = b.1 ∧ a.2.equivalent b.2 = true) as bs := by
  induction as generalizing bs with
  | nil => cases bs <;> simp [equivalentFields]
  | cons a as ih => cases bs <;> simp [equivalentFields, ih]

theorem equivalent_list_iff (as bs : List Value) :
    (list as).equivalent (list bs) = true ↔
      List.Forall₂ (fun a b => a.equivalent b = true) as bs := by
  rw [equivalent, equivalentItems_iff]

theorem equivalent_map_iff (as bs : List (String × Value)) :
    (map as).equivalent (map bs) = true ↔
      List.Forall₂ (fun a b => a.1 = b.1 ∧ a.2.equivalent b.2 = true) as bs := by
  rw [equivalent, equivalentFields_iff]

theorem exists_list_of_equivalent {as : List Value} {b : Value}
    (hab : (list as).equivalent b = true) :
    ∃ bs, b = list bs ∧ List.Forall₂ (fun a b => a.equivalent b = true) as bs := by
  cases b with
  | list bs => exact ⟨bs, rfl, (equivalent_list_iff as bs).mp hab⟩
  | null | boolean | integer | float | text | map => simp [equivalent, BEq.beq, same] at hab

theorem exists_map_of_equivalent {as : List (String × Value)} {b : Value}
    (hab : (map as).equivalent b = true) :
    ∃ bs, b = map bs ∧
      List.Forall₂ (fun a b => a.1 = b.1 ∧ a.2.equivalent b.2 = true) as bs := by
  cases b with
  | map bs => exact ⟨bs, rfl, (equivalent_map_iff as bs).mp hab⟩
  | null | boolean | integer | float | text | list => simp [equivalent, BEq.beq, same] at hab

section Members

variable {α β : Type} {R S : α → β → Prop} {T : α → α → Prop} {as bs cs : List α}

theorem forall₂_imp_of_mem {bs : List β} (himp : ∀ a ∈ as, ∀ b, R a b → S a b)
    (hab : List.Forall₂ R as bs) : List.Forall₂ S as bs := by
  induction hab with
  | nil => exact .nil
  | cons hhead _ ih =>
      rw [List.forall_mem_cons] at himp
      exact .cons (himp.1 _ hhead) (ih himp.2)

theorem forall₂_symm_of_mem (hsymm : ∀ a ∈ as, ∀ b, T a b → T b a)
    (hab : List.Forall₂ T as bs) : List.Forall₂ T bs as := by
  induction hab with
  | nil => exact .nil
  | cons hhead _ ih =>
      rw [List.forall_mem_cons] at hsymm
      exact .cons (hsymm.1 _ hhead) (ih hsymm.2)

theorem forall₂_trans_of_mem
    (htrans : ∀ a ∈ as, ∀ b ∈ bs, ∀ c ∈ cs, T a b → T b c → T a c)
    (hab : List.Forall₂ T as bs) (hbc : List.Forall₂ T bs cs) : List.Forall₂ T as cs := by
  induction hab generalizing cs with
  | nil => exact hbc
  | cons hhead _ ih =>
      cases hbc with
      | cons hnext hrest =>
          apply List.Forall₂.cons
          · exact htrans _ List.mem_cons_self _ List.mem_cons_self _ List.mem_cons_self hhead hnext
          · apply ih _ hrest
            intro a ha b hb c hc
            exact htrans a (List.mem_cons_of_mem _ ha) b (List.mem_cons_of_mem _ hb) c
              (List.mem_cons_of_mem _ hc)

end Members

/-! ## Scalars -/

mutual
/-- The scalars in the value. -/
def leaves : Value → List Value
  | list items => leavesOfItems items
  | map fields => leavesOfFields fields
  | value => [value]

def leavesOfItems : List Value → List Value
  | [] => []
  | item :: rest => item.leaves ++ leavesOfItems rest

def leavesOfFields : List (String × Value) → List Value
  | [] => []
  | (_, item) :: rest => item.leaves ++ leavesOfFields rest
end

theorem mem_leaves_list {leaf : Value} (items : List Value) :
    leaf ∈ (list items).leaves ↔ ∃ item ∈ items, leaf ∈ item.leaves := by
  rw [leaves]
  induction items with
  | nil => simp [leavesOfItems]
  | cons item rest ih => simp [leavesOfItems, ih]

theorem mem_leaves_map {leaf : Value} (fields : List (String × Value)) :
    leaf ∈ (map fields).leaves ↔ ∃ field ∈ fields, leaf ∈ field.2.leaves := by
  rw [leaves]
  induction fields with
  | nil => simp [leavesOfFields]
  | cons field rest ih => simp [leavesOfFields, ih]

/-- No NaN occurs anywhere in the value. -/
def NoNaN (value : Value) : Prop :=
  ∀ x, float x ∈ value.leaves → x.isNaN = false

end Value

namespace Double

theorem equals_comm (x y : Double) : x.equals y = y.equals x := by
  unfold equals
  rw [Bool.and_comm (!x.isNaN), Bool.beq_comm]

theorem equals_self {x : Double} (hordered : x.isNaN = false) : x.equals x = true := by
  simp [equals, hordered]

theorem isNaN_ofInt (n : Int) : (ofInt n).isNaN = false := by
  rw [isNaN, magnitude_ofInt, decide_eq_false_iff_not, not_lt]
  exact magnitudeOfRatio_le_infinite n.natAbs 1

theorem isNaN_of_isFinite {x : Double} (hfinite : x.isFinite = true) : x.isNaN = false := by
  rw [isFinite, decide_eq_true_eq] at hfinite
  rw [isNaN, decide_eq_false_iff_not]
  exact hfinite.not_gt

theorem compare?_eq_none_iff (x y : Double) :
    x.compare? y = none ↔ x.isNaN = true ∨ y.isNaN = true := by
  unfold compare?
  split_ifs with hnan <;> simpa using hnan

theorem compare?_swap (x y : Double) : y.compare? x = (x.compare? y).map Ordering.swap := by
  unfold compare?
  rw [Bool.or_comm y.isNaN]
  split_ifs
  · rfl
  · rw [Option.map_some, ← Std.OrientedCmp.eq_swap]

theorem compare?_eq_eq_iff (x y : Double) : x.compare? y = some .eq ↔ x.equals y = true := by
  unfold compare? equals
  cases x.isNaN <;> cases y.isNaN <;> simp

end Double

namespace Value

theorem noNaN_of_isFinite {value : Value} (hfinite : value.isFinite = true) : value.NoNaN := by
  induction value using nested with
  | null | boolean | integer | text => simp [NoNaN, leaves]
  | float x =>
      intro y hy
      obtain rfl : y = x := by simpa [leaves] using hy
      exact Double.isNaN_of_isFinite hfinite
  | list items ih =>
      rw [isFinite_list_iff] at hfinite
      intro x hx
      obtain ⟨item, hitem, hleaf⟩ := (mem_leaves_list items).mp hx
      exact ih item hitem (hfinite item hitem) x hleaf
  | map fields ih =>
      rw [isFinite_map_iff] at hfinite
      intro x hx
      obtain ⟨field, hfield, hleaf⟩ := (mem_leaves_map fields).mp hx
      exact ih field hfield (hfinite field hfield) x hleaf

/-! ## Equality -/

/-- Values that are the same are equivalent. -/
theorem equivalent_of_same {a b : Value} (hsame : a.same b = true) : a.equivalent b = true := by
  induction a using nested generalizing b with
  | null | boolean | integer | float | text =>
      cases b <;> simp_all [same, equivalent, BEq.beq]
  | list items ih =>
      cases b with
      | list others =>
          rw [same, sameItems_iff] at hsame
          rw [equivalent_list_iff]
          exact forall₂_imp_of_mem (fun a ha b hab => ih a ha hab) hsame
      | null | boolean | integer | float | text | map => simp [same] at hsame
  | map fields ih =>
      cases b with
      | map others =>
          rw [same, sameFields_iff] at hsame
          rw [equivalent_map_iff]
          exact forall₂_imp_of_mem (fun a ha b hab => ⟨hab.1, ih a ha hab.2⟩) hsame
      | null | boolean | integer | float | text | list => simp [same] at hsame

theorem equivalent_self {a : Value} (hordered : a.NoNaN) : a.equivalent a = true := by
  induction a using nested with
  | null | boolean | integer | text => simp [equivalent, BEq.beq, same]
  | float x =>
      have hx : x.isNaN = false := hordered x (by simp [leaves])
      exact Double.equals_self hx
  | list items ih =>
      rw [equivalent_list_iff, List.forall₂_same]
      intro item hitem
      apply ih item hitem
      intro x hx
      exact hordered x ((mem_leaves_list items).mpr ⟨item, hitem, hx⟩)
  | map fields ih =>
      rw [equivalent_map_iff, List.forall₂_same]
      intro field hfield
      refine ⟨rfl, ih field hfield ?_⟩
      intro x hx
      exact hordered x ((mem_leaves_map fields).mpr ⟨field, hfield, hx⟩)

theorem equivalent_symm {a b : Value} (hab : a.equivalent b = true) : b.equivalent a = true := by
  induction a using nested generalizing b with
  | null | boolean | integer | text => cases b <;> simp_all [equivalent, BEq.beq, same]
  | float x =>
      cases b with
      | float y =>
          change x.equals y = true at hab
          change y.equals x = true
          rwa [Double.equals_comm]
      | integer n => exact hab
      | null | boolean | text | list | map => simp [equivalent, BEq.beq, same] at hab
  | list items ih =>
      obtain ⟨others, rfl, hmembers⟩ := exists_list_of_equivalent hab
      rw [equivalent_list_iff]
      exact forall₂_symm_of_mem (fun a ha b => ih a ha) hmembers
  | map fields ih =>
      obtain ⟨others, rfl, hmembers⟩ := exists_map_of_equivalent hab
      rw [equivalent_map_iff]
      exact forall₂_symm_of_mem (fun a ha b hab => ⟨hab.1.symm, ih a ha hab.2⟩) hmembers

theorem equivalent_comm (a b : Value) : a.equivalent b = b.equivalent a := by
  rw [Bool.eq_iff_iff]
  exact ⟨equivalent_symm, equivalent_symm⟩

/-! ## Order -/

/-- Two integers, two texts, two other numbers, which compare as doubles, or no pair of a kind that
is ordered. -/
theorem comparison_cases (a b : Value) :
    (∃ n m, a = integer n ∧ b = integer m) ∨ (∃ s t, a = text s ∧ b = text t) ∨
      (∃ x y, a.number? = some x ∧ b.number? = some y ∧ a.equivalent b = x.equals y ∧
        a.compare? b = x.compare? y ∧ b.compare? a = y.compare? x) ∨
      (¬ (a.isNumber = true ∧ b.isNumber = true) ∧ ¬ (a.kind = .text ∧ b.kind = .text) ∧
        a.compare? b = none ∧ b.compare? a = none) := by
  cases a with
  | integer n =>
      cases b with
      | integer m => exact .inl ⟨n, m, rfl, rfl⟩
      | float y => exact .inr (.inr (.inl ⟨_, y, rfl, rfl, rfl, rfl, rfl⟩))
      | null | boolean | text | list | map => simp [compare?, number?, isNumber, kind]
  | float x =>
      cases b with
      | integer m =>
          exact .inr (.inr (.inl ⟨x, _, rfl, rfl, Double.equals_comm _ x, rfl, rfl⟩))
      | float y => exact .inr (.inr (.inl ⟨x, y, rfl, rfl, rfl, rfl, rfl⟩))
      | null | boolean | text | list | map => simp [compare?, number?, isNumber, kind]
  | text s =>
      cases b with
      | text t => exact .inr (.inl ⟨s, t, rfl, rfl⟩)
      | null | boolean | integer | float | list | map => simp [compare?, number?, isNumber, kind]
  | null | boolean | list | map => cases b <;> simp [compare?, number?, isNumber, kind]

theorem isNumber_of_number? {a : Value} {x : Double} (hx : a.number? = some x) :
    a.isNumber = true := by
  cases a <;> simp_all [number?, isNumber]

theorem isNaN_of_number? {a : Value} (hordered : a.NoNaN) {x : Double}
    (hx : a.number? = some x) : x.isNaN = false := by
  cases a with
  | integer n =>
      cases hx
      exact Double.isNaN_ofInt _
  | float y =>
      cases hx
      exact hordered x (by simp [leaves])
  | null | boolean | text | list | map => simp [number?] at hx

theorem compare?_isSome_iff {a b : Value} (ha : a.NoNaN) (hb : b.NoNaN) :
    (a.compare? b).isSome = true ↔
      (a.isNumber = true ∧ b.isNumber = true) ∨ (a.kind = .text ∧ b.kind = .text) := by
  rcases comparison_cases a b with ⟨n, m, rfl, rfl⟩ | ⟨s, t, rfl, rfl⟩ |
    ⟨x, y, hx, hy, -, hcompare, -⟩ | ⟨hnumbers, htexts, hcompare, -⟩
  · simp [compare?, isNumber]
  · simp [compare?, kind]
  · have hsome : x.compare? y ≠ none := by
      rw [ne_eq, Double.compare?_eq_none_iff, isNaN_of_number? ha hx, isNaN_of_number? hb hy]
      simp
    rw [hcompare, Option.isSome_iff_ne_none]
    exact iff_of_true hsome (.inl ⟨isNumber_of_number? hx, isNumber_of_number? hy⟩)
  · rw [hcompare]
    simp [hnumbers, htexts]

theorem compare?_swap (a b : Value) : b.compare? a = (a.compare? b).map Ordering.swap := by
  rcases comparison_cases a b with ⟨n, m, rfl, rfl⟩ | ⟨s, t, rfl, rfl⟩ |
    ⟨x, y, -, -, -, hcompare, hback⟩ | ⟨-, -, hcompare, hback⟩
  · exact congrArg some Std.OrientedCmp.eq_swap
  · exact congrArg some Std.OrientedCmp.eq_swap
  · rw [hcompare, hback, Double.compare?_swap]
  · rw [hcompare, hback, Option.map_none]

theorem compare?_eq_eq_iff {a b : Value} {order : Ordering} (horder : a.compare? b = some order) :
    order = .eq ↔ a.equivalent b = true := by
  rcases comparison_cases a b with ⟨n, m, rfl, rfl⟩ | ⟨s, t, rfl, rfl⟩ |
    ⟨x, y, -, -, hequals, hcompare, -⟩ | ⟨-, -, hcompare, -⟩
  · obtain rfl : compare n.toInt m.toInt = order := Option.some.inj horder
    rw [compare_eq_iff_eq, Int64.toInt_inj]
    simp [equivalent, BEq.beq, same]
  · obtain rfl : compare s t = order := Option.some.inj horder
    rw [compare_eq_iff_eq]
    simp [equivalent, BEq.beq, same]
  · rw [hequals, ← Double.compare?_eq_eq_iff, ← hcompare, horder, Option.some_inj]
  · rw [hcompare] at horder
    cases horder

end Value

end DocumentStore
