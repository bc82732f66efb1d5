import DocumentStore.Decimal.Shortest
import Mathlib.Tactic

/-!
# Finite doubles are read back from their decimals

Rounding depends only on the value of a quotient, so a decimal may be padded with zeros or trimmed.
The exact decimal of a finite double rounds to that double, and the shortest decimal does so because
the search for it ends at the exact one at the latest.
-/

namespace DocumentStore

namespace Double

theorem roundQuotient_mul {c : Nat} (hc : 0 < c) (num den : Nat) :
    roundQuotient (c * num) (c * den) = roundQuotient num den := by
  have hdiv : c * num / (c * den) = num / den := Nat.mul_div_mul_left num den hc
  have hmod : 2 * (c * num % (c * den)) = c * (2 * (num % den)) := by
    rw [Nat.mul_mod_mul_left]
    ring
  simp only [roundQuotient, hdiv, hmod, Nat.mul_lt_mul_left hc]

theorem magnitudeOfRatio_mul {c : Nat} (hc : 0 < c) (num den : Nat) :
    magnitudeOfRatio (c * num) (c * den) = magnitudeOfRatio num den := by
  have hmultiple : c * num * 2 ^ 1074 = c * (num * 2 ^ 1074) := Nat.mul_assoc ..
  have hquotient : c * (num * 2 ^ 1074) / (c * den) = num * 2 ^ 1074 / den :=
    Nat.mul_div_mul_left _ den hc
  have hden : ∀ scale, c * den * 2 ^ scale = c * (den * 2 ^ scale) := fun scale => by ring
  simp only [magnitudeOfRatio, Nat.pow_eq, hmultiple, hquotient, hden, roundQuotient_mul hc]

theorem ofRatio_mul {c : Nat} (hc : 0 < c) (negative : Bool) (num den : Nat) :
    ofRatio negative (c * num) (c * den) = ofRatio negative num den := by
  rw [ofRatio, magnitudeOfRatio_mul hc, ofRatio]

theorem ofParts_magnitude (x : Double) : ofParts x.isNegative x.magnitude = x := by
  have hbits : x.bits.toNat < 2 ^ 64 := x.bits.toNat_lt
  have hsum : (if x.isNegative then 2 ^ 63 else 0) + x.magnitude = x.bits.toNat := by
    simp only [isNegative, magnitude, Nat.pow_eq, decide_eq_true_eq]
    split_ifs with hneg <;> omega
  rw [ofParts, Nat.pow_eq, hsum, UInt64.ofNat_toNat]

theorem magnitude_eq (x : Double) : x.magnitude = x.scale * 2 ^ 52 + x.significand := by
  simp only [scale, significand, Nat.pow_eq]
  split_ifs with hsmall <;> omega

theorem significand_lt (x : Double) : x.significand < 2 ^ 53 := by
  simp only [significand, Nat.pow_eq]
  split_ifs with hsmall <;> omega

theorem scale_eq_zero_or (x : Double) : x.scale = 0 ∨ 2 ^ 52 ≤ x.significand := by
  simp only [scale, significand, Nat.pow_eq]
  split_ifs with hsmall <;> omega

/-- The scale is the one in which the significand is an integer below `2 ^ 53`. -/
theorem log2_significand_mul (x : Double) :
    (x.significand * 2 ^ x.scale).log2 - 52 = x.scale := by
  rcases x.scale_eq_zero_or with hzero | hnormal
  · rw [hzero, pow_zero, mul_one]
    rcases Nat.eq_zero_or_pos x.significand with hnone | hpos
    · rw [hnone]
      rfl
    · have hlog : x.significand.log2 < 53 :=
        (Nat.log2_lt (by omega)).mpr x.significand_lt
      omega
  · have hlog : (x.significand * 2 ^ x.scale).log2 = 52 + x.scale := by
      have hpos : 0 < x.significand * 2 ^ x.scale := Nat.mul_pos (by omega) (by positivity)
      rw [Nat.log2_eq_iff hpos.ne']
      refine ⟨?_, ?_⟩
      · rw [pow_add]
        exact Nat.mul_le_mul_right _ hnormal
      · rw [show 52 + x.scale + 1 = 53 + x.scale by omega, pow_add]
        exact Nat.mul_lt_mul_of_pos_right x.significand_lt (by positivity)
    omega

theorem roundQuotient_mul_pow {den : Nat} (hden : 0 < den) (significand scale : Nat) :
    roundQuotient (den * (significand * 2 ^ scale)) (den * 2 ^ scale) = significand := by
  have hpow : 0 < 2 ^ scale := by positivity
  rw [roundQuotient_mul hden, roundQuotient, Nat.mul_div_cancel _ hpow, Nat.mul_mod_left]
  simp [hpow]

theorem magnitudeOfRatio_exact {x : Double} (hfinite : x.isFinite = true) {num den : Nat}
    (hden : 0 < den) (hvalue : num * 2 ^ 1074 = den * (x.significand * 2 ^ x.scale)) :
    magnitudeOfRatio num den = x.magnitude := by
  have hlimit : x.magnitude < infinite := by simpa [isFinite] using hfinite
  have hquotient : den * (x.significand * 2 ^ x.scale) / den = x.significand * 2 ^ x.scale :=
    Nat.mul_div_cancel_left _ hden
  simp only [magnitudeOfRatio, Nat.pow_eq, hvalue, hquotient, log2_significand_mul,
    roundQuotient_mul_pow hden]
  rw [← magnitude_eq]
  exact min_eq_left hlimit.le

end Double

namespace Decimal

theorem lt_pow_digitCount (n : Nat) : n < 10 ^ digitCount n :=
  (Nat.length_toDigits_le_iff (by decide) Nat.length_toDigits_pos).mp le_rfl

theorem digitCount_le {n k : Nat} (hk : 0 < k) (hn : n < 10 ^ k) : digitCount n ≤ k :=
  (Nat.length_toDigits_le_iff (by decide) hk).mpr hn

theorem digitCount_mul_ten {n : Nat} (hn : 0 < n) : digitCount (n * 10) = digitCount n + 1 := by
  have hdigits := Nat.toDigits_append_toDigits (b := 10) (n := n) (d := 0) (by decide) hn
    (by decide)
  rw [digitCount, digitCount, show n * 10 = 10 * n + 0 by omega, ← hdigits]
  simp

/-- Another zero at the end of the digits makes no difference. -/
theorem toDouble_pad (negative : Bool) (digits : Nat) (exponent : Int) :
    toDouble negative ⟨digits * 10, exponent - 1⟩ = toDouble negative ⟨digits, exponent⟩ := by
  rcases Nat.eq_zero_or_pos digits with rfl | hpos
  · simp [toDouble]
  · have hlead : exponent - 1 + ((digitCount digits + 1 : Nat) : Int) =
        exponent + digitCount digits := by
      push_cast
      ring
    have hzero : digits * 10 = 0 ↔ digits = 0 := by omega
    have hratio : (if 0 ≤ exponent - 1 then
          Double.ofRatio negative (digits * 10 * 10 ^ (exponent - 1).toNat) 1
        else Double.ofRatio negative (digits * 10) (10 ^ (-(exponent - 1)).toNat)) =
        if 0 ≤ exponent then Double.ofRatio negative (digits * 10 ^ exponent.toNat) 1
        else Double.ofRatio negative digits (10 ^ (-exponent).toNat) := by
      rcases lt_trichotomy exponent 0 with hneg | rfl | hexp
      · have hpow : (10 : Nat) ^ (-(exponent - 1)).toNat = 10 * 10 ^ (-exponent).toNat := by
          rw [show (-(exponent - 1)).toNat = (-exponent).toNat + 1 by omega, pow_succ']
        rw [if_neg (by omega), if_neg (by omega), hpow, mul_comm digits,
          Double.ofRatio_mul (by decide)]
      · have hone := Double.ofRatio_mul (c := 10) (by decide) negative digits 1
        simpa [mul_comm] using hone
      · have hpow : digits * 10 * 10 ^ (exponent - 1).toNat = digits * 10 ^ exponent.toNat := by
          rw [show exponent.toNat = (exponent - 1).toNat + 1 by omega, pow_succ', mul_assoc]
        rw [if_pos (by omega), if_pos (by omega), hpow]
    simp only [toDouble, Nat.pow_eq, digitCount_mul_ten hpos, hlead, hzero, hratio]

theorem toDouble_padded (negative : Bool) (digits : Nat) (exponent : Int) (count : Nat) :
    toDouble negative ⟨digits * 10 ^ count, exponent - count⟩ =
      toDouble negative ⟨digits, exponent⟩ := by
  induction count with
  | zero => simp
  | succ count ih =>
      have hsplit : (⟨digits * 10 ^ (count + 1), exponent - (count + 1 : Nat)⟩ : Decimal) =
          ⟨digits * 10 ^ count * 10, exponent - count - 1⟩ := by
        rw [pow_succ, ← mul_assoc, Nat.cast_succ, sub_sub]
      rw [hsplit, toDouble_pad, ih]

theorem toDouble_trimmed (negative : Bool) (d : Decimal) :
    d.trimmed.toDouble negative = d.toDouble negative := by
  fun_induction trimmed d with
  | case1 d hstop => rfl
  | case2 d hmore ih =>
      rw [ih, ← toDouble_pad]
      congr 2
      · omega
      · ring

/-! ## Exact decimals -/

/-- Five to the power `k` outgrows the smaller power of ten as long as `k` is an exponent of a
double. -/
private theorem ten_pow_le_five_pow {k : Nat} (hleast : 401 ≤ k) (hgreatest : k ≤ 1074) :
    10 ^ (k - 401) ≤ 5 ^ k := by
  have hfour : ∀ j : Nat, 2 ^ (2 * j) ≤ 5 ^ j := fun j => by
    rw [pow_mul]
    exact Nat.pow_le_pow_left (by decide) j
  have htwo : 2 ^ (k - 401) ≤ 5 ^ 401 :=
    (Nat.pow_le_pow_right (by decide) (by omega)).trans (hfour 401)
  calc 10 ^ (k - 401) = 5 ^ (k - 401) * 2 ^ (k - 401) := Nat.mul_pow 5 2 _
    _ ≤ 5 ^ (k - 401) * 5 ^ 401 := Nat.mul_le_mul_left _ htwo
    _ = 5 ^ k := by rw [← pow_add, Nat.sub_add_cancel hleast]

/-- The leading digit of the exact decimal of a finite double is not far from the point. -/
private theorem lead_toDecimal {x : Double} (hfinite : x.isFinite = true)
    (hpos : 0 < x.significand) :
    -400 ≤ x.toDecimal.exponent + digitCount x.toDecimal.digits ∧
      x.toDecimal.exponent + digitCount x.toDecimal.digits ≤ 400 := by
  have hsignificand := x.significand_lt
  have hscale : x.scale ≤ 2046 := by
    have hlimit : x.magnitude < Double.infinite := by simpa [Double.isFinite] using hfinite
    rw [Double.infinite, Nat.pow_eq] at hlimit
    simp only [Double.scale, Nat.pow_eq]
    omega
  simp only [Double.toDecimal, Nat.pow_eq]
  split_ifs with hlarge
  · simp only [zero_add]
    refine ⟨by omega, ?_⟩
    have hthree : ∀ k : Nat, 2 ^ (3 * k) ≤ 10 ^ k := fun k => by
      rw [pow_mul]
      exact Nat.pow_le_pow_left (by decide) k
    have hpow : ∀ k : Nat, 10 ^ 16 * 10 ^ k = 10 ^ (16 + k) := fun k => (pow_add 10 16 k).symm
    have hdigits : x.significand * 2 ^ (x.scale - 1074) < 10 ^ (16 + 324) := by
      calc x.significand * 2 ^ (x.scale - 1074) < 10 ^ 16 * 2 ^ (3 * 324) :=
            Nat.mul_lt_mul_of_lt_of_le (hsignificand.trans (by norm_num))
              (Nat.pow_le_pow_right (by decide) (by omega)) (by positivity)
        _ ≤ 10 ^ 16 * 10 ^ 324 := Nat.mul_le_mul_left _ (hthree 324)
        _ = 10 ^ (16 + 324) := hpow 324
    have hle := digitCount_le (by decide) hdigits
    omega
  · generalize hk : 1074 - x.scale = k
    have hexponent : ((x.scale : Int) - 1074) = -(k : Int) := by omega
    simp only [hexponent]
    have hcount := lt_pow_digitCount (x.significand * 5 ^ k)
    constructor
    · by_contra hfar
      have hshort : digitCount (x.significand * 5 ^ k) + 401 ≤ k := by omega
      have hbelow : 5 ^ k < 10 ^ (k - 401) := by
        calc 5 ^ k ≤ x.significand * 5 ^ k := Nat.le_mul_of_pos_left _ hpos
          _ < 10 ^ digitCount (x.significand * 5 ^ k) := hcount
          _ ≤ 10 ^ (k - 401) := Nat.pow_le_pow_right (by decide) (by omega)
      have habove : 10 ^ (k - 401) ≤ 5 ^ k := ten_pow_le_five_pow (by omega) (by omega)
      omega
    · have hdigits : x.significand * 5 ^ k < 10 ^ (k + 16) := by
        calc x.significand * 5 ^ k < 10 ^ 16 * 10 ^ k :=
              Nat.mul_lt_mul_of_lt_of_le (hsignificand.trans (by norm_num))
                (Nat.pow_le_pow_left (by decide) k) (by positivity)
          _ = 10 ^ (k + 16) := by rw [← pow_add, add_comm]
      have hle := digitCount_le (by omega) hdigits
      omega

theorem toDouble_toDecimal {x : Double} (hfinite : x.isFinite = true) :
    x.toDecimal.toDouble x.isNegative = x := by
  rcases Nat.eq_zero_or_pos x.significand with hzero | hpos
  · have hdigits : x.toDecimal.digits = 0 := by
      simp only [Double.toDecimal, hzero, zero_mul]
      split_ifs <;> rfl
    have hmagnitude : x.magnitude = 0 := by
      rcases x.scale_eq_zero_or with hscale | hnormal
      · have hmagnitude := x.magnitude_eq
        omega
      · omega
    rw [toDouble, if_pos (Or.inl hdigits), ← hmagnitude, Double.ofParts_magnitude]
  · obtain ⟨hlow, hhigh⟩ := lead_toDecimal hfinite hpos
    have hdigits : x.toDecimal.digits ≠ 0 := by
      simp only [Double.toDecimal, Nat.pow_eq]
      split_ifs <;> positivity
    simp only [toDouble, Nat.pow_eq]
    rw [if_neg (by omega), if_neg (by omega)]
    suffices hratio : (if 0 ≤ x.toDecimal.exponent then
          Double.ofRatio x.isNegative (x.toDecimal.digits * 10 ^ x.toDecimal.exponent.toNat) 1
        else Double.ofRatio x.isNegative x.toDecimal.digits
          (10 ^ (-x.toDecimal.exponent).toNat)) =
        Double.ofParts x.isNegative x.magnitude by
      rw [hratio, Double.ofParts_magnitude]
    simp only [Double.toDecimal, Nat.pow_eq]
    split_ifs with hlarge hsign hsign
    · rw [Double.ofRatio, Double.magnitudeOfRatio_exact hfinite (by decide)]
      have hpow : (2 : Nat) ^ x.scale = 2 ^ (x.scale - 1074) * 2 ^ 1074 := by
        rw [← pow_add, Nat.sub_add_cancel hlarge]
      rw [hpow, Int.toNat_zero, pow_zero, mul_one, one_mul, mul_assoc]
    · exact absurd le_rfl hsign
    · simp only at hsign
      omega
    · rw [Double.ofRatio, Double.magnitudeOfRatio_exact hfinite (by positivity)]
      simp only [show (-((x.scale : Int) - 1074)).toNat = 1074 - x.scale by omega]
      have hpow : (2 : Nat) ^ 1074 = 2 ^ (1074 - x.scale) * 2 ^ x.scale := by
        rw [← pow_add, Nat.sub_add_cancel (by omega)]
      have hten : (10 : Nat) ^ (1074 - x.scale) = 5 ^ (1074 - x.scale) * 2 ^ (1074 - x.scale) :=
        Nat.mul_pow 5 2 _
      rw [hten]
      calc x.significand * 5 ^ (1074 - x.scale) * 2 ^ 1074 =
            x.significand * 5 ^ (1074 - x.scale) * (2 ^ (1074 - x.scale) * 2 ^ x.scale) := by
              rw [← hpow]
        _ = _ := by ring

theorem toDouble_shortest {x : Double} (hfinite : x.isFinite = true) :
    x.shortest.toDouble x.isNegative = x := by
  simp only [Double.shortest, toDouble_trimmed]
  cases hfind : List.find? (fun d : Decimal => d.toDouble x.isNegative == x)
      ((List.range 17).flatMap fun n => x.toDecimal.neighbours (n + 1)) with
  | none => exact toDouble_toDecimal hfinite
  | some d =>
      have hback := List.find?_some hfind
      simpa using hback

end Decimal

end DocumentStore
