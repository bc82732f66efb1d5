import DocumentStore.Proofs.Value.Equality

/-!
# Numbers by value

`amount?` is the number that a value stands for, exactly.  Two integers compare as their amounts
do, and two doubles as well.  An integer is widened before it is compared with a double, so the
two count as equal if it is widened to that double, whether or not it is the same number; if it is
not, they are `Blurred`.

Rounding keeps the order, so a chain of comparisons breaks in one case only: two different
integers are widened to one double, and that double stands between them (`Bridged`).
-/

namespace DocumentStore

namespace Double

theorem compare?_of_isFinite {x y : Double} (hx : x.isFinite = true) (hy : y.isFinite = true) :
    x.compare? y = some (compare x.rank y.rank) := by
  unfold compare?
  rw [isNaN_of_isFinite hx, isNaN_of_isFinite hy]
  rfl

theorem isFinite_ofInt64 (n : Int64) : (ofInt n.toInt).isFinite = true := by
  have hlow := n.le_toInt
  have hhigh := n.toInt_lt
  apply isFinite_ofInt
  omega

end Double

namespace Value

/-- The number that an integer or a finite double stands for. -/
def amount? : Value → Option ℚ
  | integer n => some n.toInt
  | float x => if x.isFinite then some x.toRat else none
  | _ => none

/-- An integer and a double that are different numbers, where the integer is widened to the
double. -/
def Blurred : Value → Value → Prop
  | integer n, float x | float x, integer n =>
    (Double.ofInt n.toInt).toRat = x.toRat ∧ (n.toInt : ℚ) ≠ x.toRat
  | _, _ => False

/-- A double in `b` stands between two different integers, one in `a` and one in `c`, that are
both widened to it. -/
def Bridged (a b c : Value) : Prop :=
  ∃ n m x, integer n ∈ a.leaves ∧ float x ∈ b.leaves ∧ integer m ∈ c.leaves ∧ n ≠ m ∧
    (Double.ofInt n.toInt).toRat = x.toRat ∧ (Double.ofInt m.toInt).toRat = x.toRat

/-- The first value comes before the second or counts as equal to it. -/
def AtMost (a b : Value) : Prop :=
  ∃ order, a.compare? b = some order ∧ order ≠ .gt

variable {a b c : Value} {p q r : ℚ}

theorem amount?_eq_some (ha : a.amount? = some p) :
    (∃ n, a = integer n ∧ p = n.toInt) ∨
      ∃ x, a = float x ∧ x.isFinite = true ∧ p = x.toRat := by
  cases a with
  | integer n => exact .inl ⟨n, rfl, (Option.some.inj ha).symm⟩
  | float x =>
      simp only [amount?] at ha
      split_ifs at ha with hfinite
      exact .inr ⟨x, rfl, hfinite, (Option.some.inj ha).symm⟩
  | null | boolean | text | list | map => simp [amount?] at ha

theorem exists_amount? (hnumber : a.isNumber = true) (hfinite : a.isFinite = true) :
    ∃ p, a.amount? = some p := by
  cases a with
  | integer n => exact ⟨_, rfl⟩
  | float x => exact ⟨_, if_pos hfinite⟩
  | null | boolean | text | list | map => simp [isNumber] at hnumber

theorem blurred_comm (a b : Value) : Blurred a b ↔ Blurred b a := by
  cases a <;> cases b <;> exact Iff.rfl

/-! ## Two numbers -/

theorem compare?_integer_float (n : Int64) {x : Double} (hx : x.isFinite = true) :
    (Blurred (integer n) (float x) → (integer n).compare? (float x) = some .eq) ∧
      (¬ Blurred (integer n) (float x) →
        (integer n).compare? (float x) = some (compare (n.toInt : ℚ) x.toRat)) := by
  have hn := Double.isFinite_ofInt64 n
  have hcompare : (integer n).compare? (float x) =
      some (compare (Double.ofInt n.toInt).rank x.rank) :=
    Double.compare?_of_isFinite hn hx
  rw [hcompare, Double.compare_rank_ofInt hn hx]
  constructor
  · intro hblurred
    rw [if_pos hblurred.1]
  · intro hblurred
    by_cases hwidened : (Double.ofInt n.toInt).toRat = x.toRat
    · have hsame : (n.toInt : ℚ) = x.toRat := by
        by_contra hne
        exact hblurred ⟨hwidened, hne⟩
      rw [if_pos hwidened, compare_eq_iff_eq.mpr hsame]
    · rw [if_neg hwidened]

theorem compare?_amounts (ha : a.amount? = some p) (hb : b.amount? = some q) :
    (Blurred a b → a.compare? b = some .eq) ∧
      (¬ Blurred a b → a.compare? b = some (compare p q)) := by
  rcases amount?_eq_some ha with ⟨n, rfl, rfl⟩ | ⟨x, rfl, hx, rfl⟩
  · rcases amount?_eq_some hb with ⟨m, rfl, rfl⟩ | ⟨y, rfl, hy, rfl⟩
    · refine ⟨False.elim, fun _ => ?_⟩
      exact congrArg some (Double.compare_eq_of_lt_iff Int.cast_lt.symm Int.cast_lt.symm)
    · exact compare?_integer_float n hy
  · rcases amount?_eq_some hb with ⟨m, rfl, rfl⟩ | ⟨y, rfl, hy, rfl⟩
    · obtain ⟨hblurred, hsharp⟩ := compare?_integer_float m hx
      rw [compare?_swap (integer m) (float x), blurred_comm]
      constructor
      · intro h
        rw [hblurred h]
        rfl
      · intro h
        rw [hsharp h, Option.map_some, ← Std.OrientedCmp.eq_swap]
    · refine ⟨False.elim, fun _ => ?_⟩
      exact (Double.compare?_of_isFinite hx hy).trans (congrArg some (Double.compare_rank hx hy))

theorem equivalent_amounts (ha : a.amount? = some p) (hb : b.amount? = some q) :
    a.equivalent b = true ↔ p = q ∨ Blurred a b := by
  obtain ⟨hblurred, hsharp⟩ := compare?_amounts ha hb
  by_cases h : Blurred a b
  · rw [← compare?_eq_eq_iff (hblurred h)]
    simp [h]
  · rw [← compare?_eq_eq_iff (hsharp h), compare_eq_iff_eq]
    simp [h]

/-- Integers of up to 53 bits are not blurred with any double. -/
theorem not_blurred_of_small {n : Int64} (hsmall : n.toInt.natAbs ≤ 2 ^ 53) (b : Value) :
    ¬ Blurred (integer n) b := by
  have hexact := Double.toRat_ofInt_of_small hsmall
  cases b with
  | float x =>
      intro hblurred
      exact hblurred.2 (hexact.symm.trans hblurred.1)
  | null | boolean | integer | text | list | map => exact not_false

/-! ## Chains of numbers -/

theorem nearestRank_eq_of_blurred (ha : a.amount? = some p) (hb : b.amount? = some q)
    (hblurred : Blurred a b) : Double.nearestRank p = Double.nearestRank q := by
  have hwidened : ∀ (n : Int64) (x : Double), x.isFinite = true →
      (Double.ofInt n.toInt).toRat = x.toRat →
      Double.nearestRank n.toInt = Double.nearestRank x.toRat := by
    intro n x hx hwidened
    rw [← Double.rank_ofInt, ← Double.rank_eq hx]
    exact (Double.rank_eq_iff (Double.isFinite_ofInt64 n) hx).mpr hwidened
  rcases amount?_eq_some ha with ⟨n, rfl, rfl⟩ | ⟨x, rfl, hx, rfl⟩
  · rcases amount?_eq_some hb with ⟨m, rfl, -⟩ | ⟨y, rfl, hy, rfl⟩
    · exact hblurred.elim
    · exact hwidened n y hy hblurred.1
  · rcases amount?_eq_some hb with ⟨m, rfl, rfl⟩ | ⟨y, rfl, -, -⟩
    · exact (hwidened m x hx hblurred.1).symm
    · exact hblurred.elim

theorem AtMost.le (ha : a.amount? = some p) (hb : b.amount? = some q) (hblurred : ¬ Blurred a b)
    (hle : a.AtMost b) : p ≤ q := by
  obtain ⟨order, horder, hne⟩ := hle
  rw [(compare?_amounts ha hb).2 hblurred, Option.some_inj] at horder
  rw [← compare_le_iff_le, horder]
  cases order <;> simp_all

/-- Rounding keeps the order. -/
theorem AtMost.nearestRank_le (ha : a.amount? = some p) (hb : b.amount? = some q)
    (hle : a.AtMost b) : Double.nearestRank p ≤ Double.nearestRank q := by
  by_cases hblurred : Blurred a b
  · exact (nearestRank_eq_of_blurred ha hb hblurred).le
  · exact Double.nearestRank_mono (hle.le ha hb hblurred)

/-- Different numbers that round to one double are two integers, unless they are blurred. -/
theorem integers_of_nearestRank_eq (ha : a.amount? = some p) (hb : b.amount? = some q)
    (hblurred : ¬ Blurred a b) (hne : p ≠ q)
    (hrank : Double.nearestRank p = Double.nearestRank q) :
    ∃ n m, a = integer n ∧ b = integer m := by
  have hsharp : ∀ (n : Int64) (x : Double), x.isFinite = true → (n.toInt : ℚ) ≠ x.toRat →
      Double.nearestRank n.toInt = Double.nearestRank x.toRat →
      Blurred (integer n) (float x) := by
    intro n x hx hne hrank
    rw [← Double.rank_ofInt, ← Double.rank_eq hx] at hrank
    exact ⟨Double.toRat_eq_of_rank_eq hrank, hne⟩
  rcases amount?_eq_some ha with ⟨n, rfl, rfl⟩ | ⟨x, rfl, hx, rfl⟩
  · rcases amount?_eq_some hb with ⟨m, rfl, rfl⟩ | ⟨y, rfl, hy, rfl⟩
    · exact ⟨n, m, rfl, rfl⟩
    · exact absurd (hsharp n y hy hne hrank) hblurred
  · rcases amount?_eq_some hb with ⟨m, rfl, rfl⟩ | ⟨y, rfl, hy, rfl⟩
    · exact absurd (hsharp m x hx hne.symm hrank.symm) hblurred
    · rw [← Double.rank_eq hx, ← Double.rank_eq hy] at hrank
      exact absurd (Double.toRat_eq_of_rank_eq hrank) hne

theorem atMost_trans (ha : a.amount? = some p) (hb : b.amount? = some q) (hc : c.amount? = some r)
    (hbridged : ¬ Bridged a b c) (hab : a.AtMost b) (hbc : b.AtMost c) : a.AtMost c := by
  by_contra hac
  obtain ⟨hequal, hsharp⟩ := compare?_amounts ha hc
  have hblurred : ¬ Blurred a c := by
    intro hblurred
    exact hac ⟨.eq, hequal hblurred, by decide⟩
  have hgreater : r < p := by
    by_contra hle
    have hne : compare p r ≠ .gt := by
      rw [ne_eq, compare_gt_iff_gt]
      exact hle
    exact hac ⟨_, hsharp hblurred, hne⟩
  -- The three numbers round to one double, since rounding keeps the order both ways.
  have hpq := hab.nearestRank_le ha hb
  have hqr := hbc.nearestRank_le hb hc
  have hrp := Double.nearestRank_mono hgreater.le
  obtain ⟨n, m, rfl, rfl⟩ :=
    integers_of_nearestRank_eq ha hc hblurred hgreater.ne' (le_antisymm (hpq.trans hqr) hrp)
  rcases amount?_eq_some hb with ⟨k, rfl, -⟩ | ⟨x, rfl, hx, rfl⟩
  · exact absurd ((hab.le ha hb not_false).trans (hbc.le hb hc not_false)) (not_le.mpr hgreater)
  · obtain rfl : (n.toInt : ℚ) = p := Option.some.inj ha
    obtain rfl : (m.toInt : ℚ) = r := Option.some.inj hc
    have hn : (Double.ofInt n.toInt).rank = x.rank := by
      rw [Double.rank_ofInt, Double.rank_eq hx]
      omega
    have hm : (Double.ofInt m.toInt).rank = x.rank := by
      rw [Double.rank_ofInt, Double.rank_eq hx]
      omega
    apply hbridged
    refine ⟨n, m, x, by simp [leaves], by simp [leaves], by simp [leaves], ?_,
      Double.toRat_eq_of_rank_eq hn, Double.toRat_eq_of_rank_eq hm⟩
    intro heq
    rw [heq] at hgreater
    exact lt_irrefl _ hgreater

/-! ## Chains of values -/

theorem amount?_of_equivalent (ha : a.amount? = some p) (hfinite : b.isFinite = true)
    (hab : a.equivalent b = true) : ∃ q, b.amount? = some q := by
  rcases amount?_eq_some ha with ⟨n, rfl, -⟩ | ⟨x, rfl, -, -⟩
  · cases b with
    | integer | float => exact exists_amount? rfl hfinite
    | null | boolean | text | list | map => simp [equivalent, BEq.beq, same] at hab
  · cases b with
    | integer | float => exact exists_amount? rfl hfinite
    | null | boolean | text | list | map => simp [equivalent, BEq.beq, same] at hab

theorem equivalent_iff_atMost (ha : a.amount? = some p) (hb : b.amount? = some q) :
    a.equivalent b = true ↔ a.AtMost b ∧ b.AtMost a := by
  have hdefined : ∃ order, a.compare? b = some order := by
    obtain ⟨hblurred, hsharp⟩ := compare?_amounts ha hb
    by_cases h : Blurred a b
    · exact ⟨_, hblurred h⟩
    · exact ⟨_, hsharp h⟩
  obtain ⟨order, horder⟩ := hdefined
  have hback := compare?_swap a b
  rw [horder, Option.map_some] at hback
  rw [← compare?_eq_eq_iff horder, AtMost, AtMost, horder, hback]
  cases order <;> simp [Ordering.swap]

/-- For numbers, equivalence is being at most each other, so its chains are those of the order. -/
theorem equivalent_trans_amounts (ha : a.amount? = some p) (hb : b.isFinite = true)
    (hc : c.isFinite = true) (hbridged : ¬ Bridged a b c) (hab : a.equivalent b = true)
    (hbc : b.equivalent c = true) : a.equivalent c = true := by
  obtain ⟨q, hb⟩ := amount?_of_equivalent ha hb hab
  obtain ⟨r, hc⟩ := amount?_of_equivalent hb hc hbc
  obtain ⟨hab, hba⟩ := (equivalent_iff_atMost ha hb).mp hab
  obtain ⟨hbc, hcb⟩ := (equivalent_iff_atMost hb hc).mp hbc
  have hback : ¬ Bridged c b a := by
    intro ⟨n, m, x, hn, hx, hm, hne, hnx, hmx⟩
    exact hbridged ⟨m, n, x, hm, hx, hn, hne.symm, hmx, hnx⟩
  exact (equivalent_iff_atMost ha hc).mpr
    ⟨atMost_trans ha hb hc hbridged hab hbc, atMost_trans hc hb ha hback hcb hba⟩

theorem Bridged.list {as bs cs : List Value} (ha : a ∈ as) (hb : b ∈ bs) (hc : c ∈ cs)
    (hbridged : Bridged a b c) : Bridged (list as) (list bs) (list cs) := by
  obtain ⟨n, m, x, hn, hx, hm, hrest⟩ := hbridged
  exact ⟨n, m, x, (mem_leaves_list as).mpr ⟨a, ha, hn⟩, (mem_leaves_list bs).mpr ⟨b, hb, hx⟩,
    (mem_leaves_list cs).mpr ⟨c, hc, hm⟩, hrest⟩

theorem Bridged.map {as bs cs : List (String × Value)} {a b c : String × Value} (ha : a ∈ as)
    (hb : b ∈ bs) (hc : c ∈ cs) (hbridged : Bridged a.2 b.2 c.2) :
    Bridged (map as) (map bs) (map cs) := by
  obtain ⟨n, m, x, hn, hx, hm, hrest⟩ := hbridged
  exact ⟨n, m, x, (mem_leaves_map as).mpr ⟨a, ha, hn⟩, (mem_leaves_map bs).mpr ⟨b, hb, hx⟩,
    (mem_leaves_map cs).mpr ⟨c, hc, hm⟩, hrest⟩

/-- At any depth, a chain of equivalences breaks only at a double between two integers. -/
theorem equivalent_trans (ha : a.isFinite = true) (hb : b.isFinite = true) (hc : c.isFinite = true)
    (hbridged : ¬ Bridged a b c) (hab : a.equivalent b = true) (hbc : b.equivalent c = true) :
    a.equivalent c = true := by
  induction a using nested generalizing b c with
  | integer n => exact equivalent_trans_amounts (a := integer n) rfl hb hc hbridged hab hbc
  | float x => exact equivalent_trans_amounts (a := float x) (if_pos ha) hb hc hbridged hab hbc
  | null | boolean | text =>
      cases b <;> cases c <;> simp_all [equivalent, BEq.beq, same]
  | list as ih =>
      obtain ⟨bs, rfl, hmembers⟩ := exists_list_of_equivalent hab
      obtain ⟨cs, rfl, hnext⟩ := exists_list_of_equivalent hbc
      rw [isFinite_list_iff] at ha hb hc
      rw [equivalent_list_iff]
      apply forall₂_trans_of_mem _ hmembers hnext
      intro a hmem b hmem' c hmem''
      apply ih a hmem (ha a hmem) (hb b hmem') (hc c hmem'')
      exact mt (Bridged.list hmem hmem' hmem'') hbridged
  | map as ih =>
      obtain ⟨bs, rfl, hmembers⟩ := exists_map_of_equivalent hab
      obtain ⟨cs, rfl, hnext⟩ := exists_map_of_equivalent hbc
      rw [isFinite_map_iff] at ha hb hc
      rw [equivalent_map_iff]
      apply forall₂_trans_of_mem _ hmembers hnext
      intro a hmem b hmem' c hmem'' hab hbc
      refine ⟨hab.1.trans hbc.1, ?_⟩
      apply ih a hmem (ha a hmem) (hb b hmem') (hc c hmem'') _ hab.2 hbc.2
      exact mt (Bridged.map hmem hmem' hmem'') hbridged

end Value

end DocumentStore
