import DocumentStore.Json.Tree
import DocumentStore.Proofs.Decimal.ReadBack
import DocumentStore.Proofs.Double.Rounding

/-!
# Numbers as they are reported

A numeral becomes a value in one step when values are read, and in two steps when its number is
reported first: as an integer without a sign, as a negative integer or as a double.  The limits of
64 bits fall in different places, but both ways give the same value.
-/

namespace DocumentStore

namespace Json

/-- A size of 64 bits is the same double as a decimal and as an integer that is widened. -/
theorem toDouble_whole (negative : Bool) {size : Nat} (hsize : size < 2 ^ 64) :
    Decimal.toDouble negative ⟨size, 0⟩ = Double.ofRatio negative size 1 := by
  by_cases hzero : size = 0
  · have hnothing : Double.magnitudeOfRatio 0 1 = 0 := by decide +kernel
    subst hzero
    rw [Double.ofRatio, hnothing]
    rfl
  · have hcount : Decimal.digitCount size ≤ 20 :=
      Decimal.digitCount_le (by decide) (hsize.trans (by decide))
    have hlead : ¬ ((Decimal.digitCount size : Int) < -400) := by omega
    have hsmall : ¬ (400 < Decimal.digitCount size) := by omega
    simp [Decimal.toDouble, hzero, hlead, hsmall]

theorem map_ofDouble? (x : Double) :
    (Number.ofDouble? x).map Value.ofNumber = if x.isFinite then some (.float x) else none := by
  rw [Number.ofDouble?]
  split_ifs <;> rfl

theorem ofNumber_unsigned {size : Nat} (hsize : size < 2 ^ 64) :
    Value.ofNumber (.unsigned (UInt64.ofNat size)) =
      if size < 0x8000000000000000 then .integer (Int64.ofInt size)
      else .float (Double.ofRatio false size 1) := by
  have hback : (UInt64.ofNat size).toNat = size := UInt64.toNat_ofNat_of_lt' hsize
  simp only [Value.ofNumber, Number.integer?, Number.unsigned?, hback]
  by_cases hfits : size < 0x8000000000000000
  · simp only [if_pos hfits]
  · simp only [if_neg hfits]
    rfl

/-- The integer that a numeral without fraction and exponent shows. -/
def Numeral.shown (numeral : Numeral) : Int :=
  if numeral.negative then -(digitsToNat numeral.whole : Int) else digitsToNat numeral.whole

/-- The numeral has no fraction and no exponent, is not minus zero and shows an integer of 64 bits
with a sign. -/
def Numeral.IsInteger (numeral : Numeral) : Prop :=
  numeral.fraction = none ∧ numeral.exponent = none ∧
    ¬ (numeral.negative = true ∧ digitsToNat numeral.whole = 0) ∧
    -2 ^ 63 ≤ numeral.shown ∧ numeral.shown < 2 ^ 63

theorem toValue?_of_isInteger {numeral : Numeral} (hinteger : numeral.IsInteger) :
    numeral.toValue? = some (.integer (Int64.ofInt numeral.shown)) := by
  obtain ⟨hfraction, hexponent, hzero, hlow, hhigh⟩ := hinteger
  unfold Numeral.shown at hlow hhigh ⊢
  have hplus : (numeral.negative && digitsToNat numeral.whole == 0) = false := by
    rw [Bool.eq_false_iff]
    simpa using hzero
  simp only [Numeral.toValue?, hfraction, hexponent, hplus]
  rw [if_pos]
  simpa using ⟨hlow, hhigh⟩

theorem toValue?_of_not_isInteger {numeral : Numeral} (hinteger : ¬ numeral.IsInteger) :
    numeral.toValue? = if (numeral.decimal.toDouble numeral.negative).isFinite
      then some (.float (numeral.decimal.toDouble numeral.negative)) else none := by
  simp only [Numeral.toValue?]
  rw [if_neg]
  intro hall
  apply hinteger
  simp only [Bool.and_eq_true, Option.isNone_iff_eq_none, decide_eq_true_eq, Bool.not_eq_true',
    Bool.and_eq_false_imp, beq_eq_false_iff_ne, ne_eq] at hall
  obtain ⟨⟨⟨⟨hfraction, hexponent⟩, hlow⟩, hhigh⟩, hzero⟩ := hall
  exact ⟨hfraction, hexponent, fun h => hzero h.1 h.2, hlow, hhigh⟩

theorem size_lt_of_isInteger {numeral : Numeral} (hinteger : numeral.IsInteger) :
    digitsToNat numeral.whole < 2 ^ 64 := by
  obtain ⟨-, -, -, hlow, hhigh⟩ := hinteger
  unfold Numeral.shown at hlow hhigh
  split_ifs at hlow hhigh <;> omega

theorem isInteger_unsigned_iff (whole : Bytes) :
    Numeral.IsInteger ⟨false, whole, none, none⟩ ↔ digitsToNat whole < 0x8000000000000000 := by
  simp only [Numeral.IsInteger, Numeral.shown, Bool.false_eq_true, if_false, false_and,
    not_false_eq_true, true_and]
  omega

theorem isInteger_negative_iff (whole : Bytes) :
    Numeral.IsInteger ⟨true, whole, none, none⟩ ↔
      digitsToNat whole ≠ 0 ∧ digitsToNat whole ≤ 0x8000000000000000 := by
  simp only [Numeral.IsInteger, Numeral.shown, if_true, true_and]
  omega

/-- A numeral without fraction and exponent is widened like its size if it is no integer. -/
theorem toValue?_whole {negative : Bool} {whole : Bytes} (hsize : digitsToNat whole < 2 ^ 64)
    (hinteger : ¬ Numeral.IsInteger ⟨negative, whole, none, none⟩) :
    Numeral.toValue? ⟨negative, whole, none, none⟩ =
      some (.float (Double.ofRatio negative (digitsToNat whole) 1)) := by
  have hdouble : (Numeral.decimal ⟨negative, whole, none, none⟩).toDouble negative =
      Double.ofRatio negative (digitsToNat whole) 1 := by
    simpa [Numeral.decimal] using toDouble_whole negative hsize
  rw [toValue?_of_not_isInteger hinteger, hdouble, if_pos (Double.isFinite_ofRatio _ hsize.le)]

theorem map_toNumber?_unsigned {whole : Bytes} (hsize : digitsToNat whole < 2 ^ 64) :
    (Numeral.toNumber? ⟨false, whole, none, none⟩).map Value.ofNumber =
      Numeral.toValue? ⟨false, whole, none, none⟩ := by
  have hnumber : Numeral.toNumber? ⟨false, whole, none, none⟩ =
      some (.unsigned (UInt64.ofNat (digitsToNat whole))) := by
    have hlimit : digitsToNat whole < 0x10000000000000000 := hsize
    simp [Numeral.toNumber?, hlimit]
  rw [hnumber, Option.map_some, ofNumber_unsigned hsize]
  by_cases hinteger : Numeral.IsInteger ⟨false, whole, none, none⟩
  · have hfits := (isInteger_unsigned_iff whole).mp hinteger
    rw [toValue?_of_isInteger hinteger, if_pos hfits]
    rfl
  · have hbeyond := mt (isInteger_unsigned_iff whole).mpr hinteger
    rw [toValue?_whole hsize hinteger, if_neg hbeyond]

theorem map_toNumber?_negative {whole : Bytes} (hsize : digitsToNat whole < 2 ^ 64) :
    (Numeral.toNumber? ⟨true, whole, none, none⟩).map Value.ofNumber =
      Numeral.toValue? ⟨true, whole, none, none⟩ := by
  have hlimit : digitsToNat whole < 0x10000000000000000 := hsize
  by_cases hinteger : Numeral.IsInteger ⟨true, whole, none, none⟩
  · obtain ⟨hpositive, hfits⟩ := (isInteger_negative_iff whole).mp hinteger
    have hnumber : Numeral.toNumber? ⟨true, whole, none, none⟩ =
        some (.negative (Int64.ofInt (-(digitsToNat whole : Int)))) := by
      have hwithin : ¬ 0x8000000000000000 < digitsToNat whole := by omega
      simp [Numeral.toNumber?, hlimit, hpositive, hwithin]
    rw [hnumber, toValue?_of_isInteger hinteger]
    rfl
  · have hnumber : Numeral.toNumber? ⟨true, whole, none, none⟩ =
        some (.real (Double.ofRatio true (digitsToNat whole) 1)) := by
      rw [isInteger_negative_iff] at hinteger
      have hbeyond : digitsToNat whole = 0 ∨ 0x8000000000000000 < digitsToNat whole := by omega
      simp [Numeral.toNumber?, hlimit, hbeyond]
    rw [hnumber, toValue?_whole hsize hinteger]
    rfl

/-- A numeral gives the same value whether it is turned into one as it stands or as the number that
is reported. -/
theorem map_toNumber? (numeral : Numeral) :
    numeral.toNumber?.map Value.ofNumber = numeral.toValue? := by
  by_cases hwhole : numeral.fraction = none ∧ numeral.exponent = none ∧
      digitsToNat numeral.whole < 2 ^ 64
  · obtain ⟨negative, whole, fraction, exponent⟩ := numeral
    obtain ⟨rfl, rfl, hsize⟩ := hwhole
    cases negative with
    | false => exact map_toNumber?_unsigned hsize
    | true => exact map_toNumber?_negative hsize
  · have hinteger : ¬ numeral.IsInteger := fun h => hwhole ⟨h.1, h.2.1, size_lt_of_isInteger h⟩
    have hreal : ¬ (numeral.fraction.isNone && numeral.exponent.isNone &&
        decide (digitsToNat numeral.whole < 0x10000000000000000)) = true := by
      simpa [and_assoc] using hwhole
    rw [toValue?_of_not_isInteger hinteger, ← map_ofDouble?, Numeral.toNumber?, if_neg hreal]

/-- An integer comes back from the number that it is reported as. -/
theorem ofNumber_ofInteger (n : Int64) : Value.ofNumber (Number.ofInteger n) = .integer n := by
  rw [Number.ofInteger]
  split_ifs with hneg
  · rfl
  · have hnonneg : 0 ≤ n.toInt := by
      have := Int64.lt_iff_toInt_lt.not.mp hneg
      simpa using this
    have hhigh := n.toInt_lt
    rw [ofNumber_unsigned (by omega), if_pos (by omega), Int.toNat_of_nonneg hnonneg,
      Int64.ofInt_toInt]

end Json

end DocumentStore
