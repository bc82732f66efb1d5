import DocumentStore.Proofs.Decimal.ReadBack
import Mathlib.Data.Rat.Cast.Order

/-!
# Doubles in the order of their numbers

A finite double stands for a rational number (`toRat`).  Rounding keeps the order of quotients and
leaves such a number where it is, so the ranks of finite doubles are ordered as their numbers are.
An integer that is widened to a double may fall together with a double beside it, but never comes
to lie on its other side.
-/

namespace DocumentStore

namespace Double

/-! ## Rounding keeps the order -/

theorem div_le_roundQuotient (num den : Nat) : num / den ≤ roundQuotient num den := by
  unfold roundQuotient
  dsimp only
  split_ifs <;> omega

theorem roundQuotient_le (num den : Nat) : roundQuotient num den ≤ num / den + 1 := by
  unfold roundQuotient
  dsimp only
  split_ifs <;> omega

theorem roundQuotient_mono {num larger : Nat} (hle : num ≤ larger) (den : Nat) :
    roundQuotient num den ≤ roundQuotient larger den := by
  have hquotient : num / den ≤ larger / den := Nat.div_le_div_right hle
  by_cases hsame : num / den = larger / den
  · have hmod : num % den ≤ larger % den := by
      have hnum := Nat.div_add_mod num den
      have hlarger := Nat.div_add_mod larger den
      rw [hsame] at hnum
      omega
    unfold roundQuotient
    dsimp only
    rw [hsame]
    split_ifs <;> omega
  · have hbelow := roundQuotient_le num den
    have habove := div_le_roundQuotient larger den
    omega

/-- Counted in the chosen unit, a quotient rounds to at most `2 ^ 53`. -/
theorem roundQuotient_scaled_le (multiple den : Nat) :
    roundQuotient multiple (den * 2 ^ ((multiple / den).log2 - 52)) ≤ 2 ^ 53 := by
  have hlog : multiple / den < 2 ^ ((multiple / den).log2 + 1) := Nat.lt_log2_self
  generalize hscale : (multiple / den).log2 - 52 = scale
  have hfits : multiple / den < 2 ^ 53 * 2 ^ scale := by
    rw [← pow_add]
    exact hlog.trans_le (Nat.pow_le_pow_right (by decide) (by omega))
  have hquotient : multiple / (den * 2 ^ scale) < 2 ^ 53 := by
    rw [← Nat.div_div_eq_div_mul]
    exact Nat.div_lt_of_lt_mul (by rwa [mul_comm] at hfits)
  have hround := roundQuotient_le multiple (den * 2 ^ scale)
  omega

/-- Counted in a unit above the smallest one, a quotient rounds to at least `2 ^ 52`. -/
theorem le_roundQuotient_scaled {multiple den : Nat}
    (hscale : 0 < (multiple / den).log2 - 52) :
    2 ^ 52 ≤ roundQuotient multiple (den * 2 ^ ((multiple / den).log2 - 52)) := by
  have hpositive : multiple / den ≠ 0 := by
    intro hzero
    rw [hzero] at hscale
    exact absurd hscale (by decide)
  have hlog : 2 ^ (multiple / den).log2 ≤ multiple / den := Nat.log2_self_le hpositive
  have hquotient :
      2 ^ 52 ≤ multiple / (den * 2 ^ ((multiple / den).log2 - 52)) := by
    rw [← Nat.div_div_eq_div_mul, Nat.le_div_iff_mul_le (by positivity), ← pow_add,
      show 52 + ((multiple / den).log2 - 52) = (multiple / den).log2 by omega]
    exact hlog
  exact hquotient.trans (div_le_roundQuotient _ _)

/-- In a larger unit the count starts where the one in a smaller unit ends. -/
theorem scaled_count_mono {multiple larger : Nat} (hle : multiple ≤ larger) (den : Nat) :
    ((multiple / den).log2 - 52) * 2 ^ 52 +
        roundQuotient multiple (den * 2 ^ ((multiple / den).log2 - 52)) ≤
      ((larger / den).log2 - 52) * 2 ^ 52 +
        roundQuotient larger (den * 2 ^ ((larger / den).log2 - 52)) := by
  have hlog : (multiple / den).log2 ≤ (larger / den).log2 := by
    rw [Nat.log2_eq_log_two, Nat.log2_eq_log_two]
    exact Nat.log_mono_right (Nat.div_le_div_right hle)
  by_cases hsame : (multiple / den).log2 - 52 = (larger / den).log2 - 52
  · rw [hsame]
    exact Nat.add_le_add_left (roundQuotient_mono hle _) _
  · have hbelow := roundQuotient_scaled_le multiple den
    have hunit : 0 < (larger / den).log2 - 52 := by omega
    have habove := le_roundQuotient_scaled hunit
    have hscale : (multiple / den).log2 - 52 + 1 ≤ (larger / den).log2 - 52 := by omega
    have hunits := Nat.mul_le_mul_right (2 ^ 52) hscale
    omega

theorem magnitudeOfRatio_mono_left {num larger : Nat} (hle : num ≤ larger) (den : Nat) :
    magnitudeOfRatio num den ≤ magnitudeOfRatio larger den := by
  unfold magnitudeOfRatio
  exact min_le_min_right infinite (scaled_count_mono (Nat.mul_le_mul_right _ hle) den)

/-- A larger quotient never rounds to a smaller double. -/
theorem magnitudeOfRatio_mono {num den larger den' : Nat} (hden : 0 < den) (hden' : 0 < den')
    (hle : num * den' ≤ larger * den) :
    magnitudeOfRatio num den ≤ magnitudeOfRatio larger den' := by
  rw [← magnitudeOfRatio_mul hden' num den, ← magnitudeOfRatio_mul hden larger den',
    mul_comm den' den]
  apply magnitudeOfRatio_mono_left
  rwa [mul_comm den', mul_comm den]

/-! ## Numbers of doubles -/

/-- The distance of a finite double from zero. -/
def size (x : Double) : ℚ :=
  (x.significand * 2 ^ x.scale : Nat) / 2 ^ 1074

/-- The number that a finite double stands for. -/
def toRat (x : Double) : ℚ :=
  if x.isNegative then -x.size else x.size

/-- The rank of the double nearest to a number. -/
def nearestRank (q : ℚ) : Int :=
  if q < 0 then -(magnitudeOfRatio q.num.natAbs q.den : Int)
  else magnitudeOfRatio q.num.natAbs q.den

theorem nearestRank_zero : nearestRank 0 = 0 := by
  have hnone : magnitudeOfRatio 0 1 = 0 := by decide +kernel
  unfold nearestRank
  rw [if_neg (lt_irrefl 0), Rat.num_zero, Rat.den_zero, Int.natAbs_zero, hnone, Nat.cast_zero]

theorem nearestRank_neg {q : ℚ} (hneg : q < 0) : nearestRank q = -nearestRank (-q) := by
  unfold nearestRank
  rw [if_pos hneg, if_neg (by linarith), Rat.num_neg_eq_neg_num, Int.natAbs_neg, Rat.den_neg_eq_den]

theorem nearestRank_nonneg {q : ℚ} (hq : 0 ≤ q) : 0 ≤ nearestRank q := by
  unfold nearestRank
  rw [if_neg (not_lt.mpr hq)]
  omega

theorem nearestRank_le {p q : ℚ} (hp : 0 ≤ p) (hle : p ≤ q) : nearestRank p ≤ nearestRank q := by
  have hcross : p.num.natAbs * q.den ≤ q.num.natAbs * p.den := by
    have hnum : 0 ≤ p.num := Rat.num_nonneg.mpr hp
    have hnum' : 0 ≤ q.num := Rat.num_nonneg.mpr (hp.trans hle)
    have hproducts := (Rat.le_iff p q).mp hle
    zify
    rwa [abs_of_nonneg hnum, abs_of_nonneg hnum']
  have hmagnitude := magnitudeOfRatio_mono p.den_pos q.den_pos hcross
  unfold nearestRank
  rw [if_neg (not_lt.mpr hp), if_neg (not_lt.mpr (hp.trans hle))]
  omega

theorem nearestRank_mono : Monotone nearestRank := by
  intro p q hle
  by_cases hp : p < 0
  · rw [nearestRank_neg hp]
    by_cases hq : q < 0
    · rw [nearestRank_neg hq]
      have hreflected := nearestRank_le (p := -q) (q := -p) (by linarith) (by linarith)
      omega
    · have hbelow := nearestRank_nonneg (q := -p) (by linarith)
      have habove := nearestRank_nonneg (not_lt.mp hq)
      omega
  · exact nearestRank_le (not_lt.mp hp) hle

theorem magnitudeOfRatio_le_infinite (num den : Nat) : magnitudeOfRatio num den ≤ infinite :=
  min_le_right _ _

theorem infinite_lt : infinite < 2 ^ 63 := by
  decide

theorem magnitude_ofParts (negative : Bool) {magnitude : Nat} (hlimit : magnitude < 2 ^ 63) :
    (ofParts negative magnitude).magnitude = magnitude := by
  unfold ofParts Double.magnitude
  rw [UInt64.toNat_ofNat', Nat.pow_eq]
  split_ifs <;> omega

theorem isNegative_ofParts (negative : Bool) {magnitude : Nat} (hlimit : magnitude < 2 ^ 63) :
    (ofParts negative magnitude).isNegative = negative := by
  unfold ofParts isNegative
  rw [UInt64.toNat_ofNat', Nat.pow_eq]
  cases negative with
  | false => simp only [Bool.false_eq_true, if_false, decide_eq_false_iff_not]; omega
  | true => simp only [if_true, decide_eq_true_eq]; omega

theorem magnitude_ofInt (n : Int) : (ofInt n).magnitude = magnitudeOfRatio n.natAbs 1 :=
  magnitude_ofParts _ ((magnitudeOfRatio_le_infinite n.natAbs 1).trans_lt infinite_lt)

theorem rank_ofInt (n : Int) : (ofInt n).rank = nearestRank n := by
  have hlimit := (magnitudeOfRatio_le_infinite n.natAbs 1).trans_lt infinite_lt
  have hsign : (ofInt n).isNegative = decide (n < 0) := isNegative_ofParts _ hlimit
  unfold rank nearestRank
  rw [magnitude_ofInt, hsign, Rat.num_intCast, Rat.den_intCast]
  simp only [decide_eq_true_eq, Int.cast_lt_zero]

private theorem natAbs_num_mul {q : ℚ} (hq : 0 ≤ q) {multiple exponent : Nat}
    (hvalue : q = multiple / 2 ^ exponent) : q.num.natAbs * 2 ^ exponent = q.den * multiple := by
  have hpow : (2 : ℚ) ^ exponent ≠ 0 := by positivity
  have hmultiple : (multiple : ℚ) = q * 2 ^ exponent := by
    rw [hvalue, div_mul_cancel₀ _ hpow]
  have hnum : (q.num.natAbs : ℚ) = q * q.den := by
    rw [Nat.cast_natAbs, abs_of_nonneg (Rat.num_nonneg.mpr hq), Rat.mul_den_eq_num]
  have hcast : (q.num.natAbs : ℚ) * 2 ^ exponent = q.den * multiple := by
    rw [hnum, hmultiple]
    ring
  exact_mod_cast hcast

theorem size_nonneg (x : Double) : 0 ≤ x.size := by
  unfold size
  positivity

theorem nearestRank_size {x : Double} (hfinite : x.isFinite = true) :
    nearestRank x.size = x.magnitude := by
  unfold nearestRank
  rw [if_neg (not_lt.mpr x.size_nonneg),
    magnitudeOfRatio_exact hfinite x.size.den_pos (natAbs_num_mul x.size_nonneg rfl)]

/-- The number that a finite double stands for rounds to that double. -/
theorem rank_eq {x : Double} (hfinite : x.isFinite = true) : x.rank = nearestRank x.toRat := by
  have hsize := nearestRank_size hfinite
  unfold rank toRat
  by_cases hsign : x.isNegative = true
  · rw [if_pos hsign, if_pos hsign]
    rcases x.size_nonneg.eq_or_lt with hzero | hpos
    · rw [← hzero, nearestRank_zero] at hsize
      rw [← hzero, neg_zero, nearestRank_zero, ← hsize, neg_zero]
    · rw [nearestRank_neg (neg_neg_of_pos hpos), neg_neg, hsize]
  · rw [if_neg hsign, if_neg hsign, hsize]

theorem size_eq_of_magnitude_eq {x y : Double} (hmagnitude : x.magnitude = y.magnitude) :
    x.size = y.size := by
  unfold size significand scale
  rw [hmagnitude]

theorem toRat_eq_of_rank_eq {x y : Double} (hrank : x.rank = y.rank) : x.toRat = y.toRat := by
  have hmagnitude : x.magnitude = y.magnitude := by
    unfold rank at hrank
    split_ifs at hrank <;> omega
  unfold toRat
  rw [size_eq_of_magnitude_eq hmagnitude]
  -- Doubles of one rank differ in their signs only where both are zero.
  by_cases hsign : x.isNegative = y.isNegative
  · rw [hsign]
  · have hzero : y.magnitude = 0 := by
      unfold rank at hrank
      cases hx : x.isNegative <;> cases hy : y.isNegative <;> simp_all
    have hnone : y.size = 0 := by
      have hsignificand : y.significand = 0 := by
        rw [significand, hzero]
        rfl
      rw [size, hsignificand, zero_mul, Nat.cast_zero, zero_div]
    rw [hnone, neg_zero, ite_self, ite_self]

theorem rank_eq_iff {x y : Double} (hx : x.isFinite = true) (hy : y.isFinite = true) :
    x.rank = y.rank ↔ x.toRat = y.toRat := by
  constructor
  · exact toRat_eq_of_rank_eq
  · intro heq
    rw [rank_eq hx, rank_eq hy, heq]

theorem compare_eq_of_lt_iff {α β : Type} [LinearOrder α] [LinearOrder β] {a b : α} {c d : β}
    (hlt : a < b ↔ c < d) (hgt : b < a ↔ d < c) : compare a b = compare c d := by
  rw [compare_iff]
  cases horder : compare c d with
  | lt => exact hlt.mpr (compare_lt_iff_lt.mp horder)
  | eq =>
      have heq := compare_eq_iff_eq.mp horder
      apply le_antisymm
      · exact not_lt.mp (mt hgt.mp heq.not_gt)
      · exact not_lt.mp (mt hlt.mp heq.not_lt)
  | gt => exact hgt.mpr (compare_gt_iff_gt.mp horder)

/-- Numbers that do not round to one double are ordered as the doubles are. -/
theorem nearestRank_lt_iff {p q : ℚ} (hne : nearestRank p ≠ nearestRank q) :
    nearestRank p < nearestRank q ↔ p < q := by
  constructor
  · intro hlt
    by_contra hle
    exact absurd (nearestRank_mono (not_lt.mp hle)) (not_le.mpr hlt)
  · intro hlt
    exact lt_of_le_of_ne (nearestRank_mono hlt.le) hne

theorem compare_nearestRank {p q : ℚ} (hne : nearestRank p ≠ nearestRank q) :
    compare (nearestRank p) (nearestRank q) = compare p q :=
  compare_eq_of_lt_iff (nearestRank_lt_iff hne) (nearestRank_lt_iff hne.symm)

theorem compare_rank {x y : Double} (hx : x.isFinite = true) (hy : y.isFinite = true) :
    compare x.rank y.rank = compare x.toRat y.toRat := by
  by_cases heq : x.toRat = y.toRat
  · rw [(rank_eq_iff hx hy).mpr heq, heq, compare_eq_iff_eq.mpr rfl, compare_eq_iff_eq.mpr rfl]
  · have hne : nearestRank x.toRat ≠ nearestRank y.toRat := by
      rw [← rank_eq hx, ← rank_eq hy]
      exact mt (rank_eq_iff hx hy).mp heq
    rw [rank_eq hx, rank_eq hy, compare_nearestRank hne]

/-! ## Widened integers -/

/-- A size of 64 bits is widened to a finite double. -/
theorem isFinite_ofRatio (negative : Bool) {size : Nat} (hsize : size ≤ 2 ^ 64) :
    (ofRatio negative size 1).isFinite = true := by
  have hlimit : magnitudeOfRatio (2 ^ 64) 1 < infinite := by decide +kernel
  have hmagnitude : magnitudeOfRatio size 1 < infinite :=
    (magnitudeOfRatio_mono_left hsize 1).trans_lt hlimit
  unfold isFinite
  rw [ofRatio, magnitude_ofParts negative (hmagnitude.trans infinite_lt), decide_eq_true_eq]
  exact hmagnitude

/-- An integer of 64 bits is widened to a finite double. -/
theorem isFinite_ofInt {n : Int} (hsize : n.natAbs ≤ 2 ^ 63) : (ofInt n).isFinite = true :=
  isFinite_ofRatio _ (hsize.trans (by decide))

/-- An integer and a double compare as their numbers do, unless the integer is widened to the
double: then they are equal. -/
theorem compare_rank_ofInt {n : Int} {x : Double} (hn : (ofInt n).isFinite = true)
    (hx : x.isFinite = true) :
    compare (ofInt n).rank x.rank =
      if (ofInt n).toRat = x.toRat then .eq else compare (n : ℚ) x.toRat := by
  by_cases heq : (ofInt n).toRat = x.toRat
  · rw [if_pos heq, (rank_eq_iff hn hx).mpr heq, compare_eq_iff_eq]
  · have hne : nearestRank n ≠ nearestRank x.toRat := by
      rw [← rank_ofInt, ← rank_eq hx]
      exact mt (rank_eq_iff hn hx).mp heq
    rw [if_neg heq, rank_ofInt, rank_eq hx, compare_nearestRank hne]

/-- An integer that some double stands for is widened to itself. -/
theorem toRat_ofInt {n : Int} {x : Double} (hn : (ofInt n).isFinite = true)
    (hx : x.isFinite = true) (hvalue : x.toRat = n) : (ofInt n).toRat = n := by
  have hrank : (ofInt n).rank = x.rank := by
    rw [rank_ofInt, rank_eq hx, hvalue]
  rw [(rank_eq_iff hn hx).mp hrank, hvalue]

/-- The double with a sign, a significand that fills its 53 bits, and a scale. -/
private theorem ofParts_fields (negative : Bool) {significand : Nat} (scale : Nat)
    (hlow : 2 ^ 52 ≤ significand) (hhigh : significand < 2 ^ 53) (hscale : scale < 2046) :
    let x := ofParts negative (scale * 2 ^ 52 + significand)
    x.isFinite = true ∧ x.isNegative = negative ∧
      x.size = (significand * 2 ^ scale : Nat) / 2 ^ 1074 := by
  intro x
  have hlimit : scale * 2 ^ 52 + significand < infinite := by
    rw [infinite, Nat.pow_eq]
    omega
  have hmagnitude : x.magnitude = scale * 2 ^ 52 + significand :=
    magnitude_ofParts negative (hlimit.trans infinite_lt)
  have hsignificand : x.significand = significand := by
    rw [Double.significand, hmagnitude, Nat.pow_eq, if_neg (by omega)]
    omega
  have hscale : x.scale = scale := by
    rw [Double.scale, hmagnitude, Nat.pow_eq]
    omega
  refine ⟨?_, isNegative_ofParts negative (hlimit.trans infinite_lt), ?_⟩
  · rw [isFinite, hmagnitude, decide_eq_true_eq]
    exact hlimit
  · rw [size, hsignificand, hscale]

/-- Integers of up to 53 bits and their small multiples by powers of two are sizes of doubles. -/
private theorem exists_size_eq (negative : Bool) {count power : Nat} (hpos : 0 < count)
    (hbits : count < 2 ^ 53) (hpower : power ≤ 64) :
    ∃ x : Double, x.isFinite = true ∧ x.isNegative = negative ∧
      x.size = (count * 2 ^ power : Nat) := by
  have hself : 2 ^ count.log2 ≤ count := Nat.log2_self_le hpos.ne'
  have hlog : count.log2 < 53 := (Nat.log2_lt hpos.ne').mpr hbits
  have hlt : count < 2 ^ (count.log2 + 1) := Nat.lt_log2_self
  -- The significand is shifted until it fills its bits.
  have hlow : 2 ^ 52 ≤ count * 2 ^ (52 - count.log2) := by
    calc 2 ^ 52 = 2 ^ count.log2 * 2 ^ (52 - count.log2) := by
          rw [← pow_add, Nat.add_sub_cancel' (by omega)]
      _ ≤ count * 2 ^ (52 - count.log2) := Nat.mul_le_mul_right _ hself
  have hhigh : count * 2 ^ (52 - count.log2) < 2 ^ 53 := by
    calc count * 2 ^ (52 - count.log2) < 2 ^ (count.log2 + 1) * 2 ^ (52 - count.log2) :=
          Nat.mul_lt_mul_of_pos_right hlt (by positivity)
      _ = 2 ^ 53 := by
          rw [← pow_add]
          congr 1
          omega
  obtain ⟨hfinite, hsign, hsize⟩ :=
    ofParts_fields negative (1022 + power + count.log2) hlow hhigh (by omega)
  refine ⟨_, hfinite, hsign, ?_⟩
  have hshift : count * 2 ^ (52 - count.log2) * 2 ^ (1022 + power + count.log2) =
      count * 2 ^ power * 2 ^ 1074 := by
    rw [mul_assoc, mul_assoc, ← pow_add, ← pow_add]
    congr 2
    omega
  rw [hsize, hshift, Nat.cast_mul, Nat.cast_pow, Nat.cast_ofNat, mul_div_assoc,
    div_self (by positivity), mul_one]

private theorem exists_size_eq_natCast (negative : Bool) {m : Nat} (hsmall : m ≤ 2 ^ 53) :
    ∃ x : Double, x.isFinite = true ∧ x.isNegative = negative ∧ x.size = m := by
  by_cases hzero : m = 0
  · refine ⟨ofParts negative 0, ?_, isNegative_ofParts negative (by decide), ?_⟩
    · cases negative <;> rfl
    · have hsignificand : (ofParts negative 0).significand = 0 := by
        cases negative <;> rfl
      rw [size, hsignificand, zero_mul, hzero, Nat.cast_zero, zero_div]
  · by_cases hlarge : m = 2 ^ 53
    · obtain ⟨x, hfinite, hsign, hsize⟩ :=
        exists_size_eq negative one_pos (by decide) (by decide : 53 ≤ 64)
      exact ⟨x, hfinite, hsign, by rw [hsize, hlarge, one_mul]⟩
    · obtain ⟨x, hfinite, hsign, hsize⟩ :=
        exists_size_eq negative (Nat.pos_of_ne_zero hzero) (by omega) (Nat.zero_le 64)
      exact ⟨x, hfinite, hsign, by rw [hsize, pow_zero, mul_one]⟩

/-- Integers of up to 53 bits are widened to themselves. -/
theorem toRat_ofInt_of_small {n : Int} (hsmall : n.natAbs ≤ 2 ^ 53) : (ofInt n).toRat = n := by
  have hn : (ofInt n).isFinite = true := isFinite_ofInt (hsmall.trans (by decide))
  obtain ⟨x, hx, hsign, hsize⟩ := exists_size_eq_natCast (decide (n < 0)) hsmall
  apply toRat_ofInt hn hx
  rw [toRat, hsize, hsign, Nat.cast_natAbs, Int.cast_abs]
  by_cases hneg : n < 0
  · have hcast : (n : ℚ) < 0 := Int.cast_lt_zero.mpr hneg
    rw [if_pos (decide_eq_true hneg), abs_of_neg hcast, neg_neg]
  · have hcast : (0 : ℚ) ≤ n := by exact_mod_cast not_lt.mp hneg
    rw [if_neg (by simpa using hneg), abs_of_nonneg hcast]

end Double

end DocumentStore
