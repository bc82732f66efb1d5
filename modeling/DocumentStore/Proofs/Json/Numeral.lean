import DocumentStore.Json.Printer
import DocumentStore.Json.Reader
import DocumentStore.Proofs.Bytes
import DocumentStore.Proofs.Decimal.ReadBack

/-!
# Numerals are read back

`numeralChars` is the general form of a numeral, and every one of that form is read as its parts.
All layouts of a decimal have that form and stand for the decimal, with zeros added at most, so a
finite double is read back as that double and an integer as that integer.
-/

namespace DocumentStore

namespace Json

open Bytes (ofChars ofChars_nil ofChars_cons ofChars_append)

/-! ## Digits -/

/-- At least one character, and all of them decimal digits. -/
structure Digits (chars : List Char) : Prop where
  ne_nil : chars ≠ []
  isDigit : ∀ c ∈ chars, c.isDigit = true

theorem digits_digitChars (n : Nat) : Digits (Decimal.digitChars n) :=
  ⟨Nat.toDigits_ne_nil, fun _ hc => Nat.isDigit_of_mem_toDigits (by decide) (by decide) hc⟩

theorem Digits.append {left right : List Char} (hleft : Digits left)
    (hright : ∀ c ∈ right, c.isDigit = true) : Digits (left ++ right) := by
  refine ⟨by simp [hleft.ne_nil], fun c hc => ?_⟩
  rcases List.mem_append.mp hc with hmem | hmem
  · exact hleft.isDigit c hmem
  · exact hright c hmem

theorem isDigit_of_mem_replicate {count : Nat} {c : Char} (hc : c ∈ List.replicate count '0') :
    c.isDigit = true := by
  rw [List.eq_of_mem_replicate hc]
  rfl

theorem toNat_of_isDigit {c : Char} (hc : c.isDigit = true) :
    0x30 ≤ c.toNat ∧ c.toNat ≤ 0x39 := by
  simp only [Char.isDigit, Bool.and_eq_true, decide_eq_true_eq] at hc
  exact ⟨UInt32.le_iff_toNat_le.mp hc.1, UInt32.le_iff_toNat_le.mp hc.2⟩

/-- A digit is one byte, which is a digit of the same value. -/
theorem utf8EncodeChar_of_isDigit {c : Char} (hc : c.isDigit = true) :
    ∃ byte : UInt8, String.utf8EncodeChar c = [byte] ∧ isDigit byte = true ∧
      byte.toNat = c.toNat := by
  obtain ⟨hlow, hhigh⟩ := toNat_of_isDigit hc
  have hbyte : (UInt8.ofNat c.toNat).toNat = c.toNat := by
    rw [UInt8.toNat_ofNat']
    omega
  refine ⟨_, Bytes.utf8EncodeChar_of_lt (by omega), ?_, hbyte⟩
  simp only [isDigit, Bool.and_eq_true, decide_eq_true_eq, UInt8.le_iff_toNat_le, hbyte]
  exact ⟨hlow, hhigh⟩

theorem isDigit_of_mem_ofChars {chars : List Char} (hchars : ∀ c ∈ chars, c.isDigit = true) :
    ∀ byte ∈ ofChars chars, isDigit byte = true := by
  induction chars with
  | nil => simp
  | cons c rest ih =>
      obtain ⟨byte, hencode, hdigit, -⟩ := utf8EncodeChar_of_isDigit (hchars c (by simp))
      rw [ofChars_cons, hencode, List.singleton_append, List.forall_mem_cons]
      exact ⟨hdigit, ih fun other hother => hchars other (List.mem_cons_of_mem _ hother)⟩

theorem length_ofChars_digits {chars : List Char} (hchars : ∀ c ∈ chars, c.isDigit = true) :
    (ofChars chars).length = chars.length := by
  induction chars with
  | nil => rfl
  | cons c rest ih =>
      obtain ⟨byte, hencode, -, -⟩ := utf8EncodeChar_of_isDigit (hchars c (by simp))
      rw [ofChars_cons, hencode, List.singleton_append, List.length_cons, List.length_cons,
        ih fun other hother => hchars other (List.mem_cons_of_mem _ hother)]

theorem digitsToNat_ofChars {chars : List Char} (hchars : ∀ c ∈ chars, c.isDigit = true) :
    digitsToNat (ofChars chars) = Nat.ofDigitChars 10 chars 0 := by
  have hfold : ∀ start : Nat,
      (ofChars chars).foldl (fun n byte => n * 10 + (byte.toNat - 0x30)) start =
        Nat.ofDigitChars 10 chars start := by
    induction chars with
    | nil => simp
    | cons c rest ih =>
        intro start
        obtain ⟨byte, hencode, -, hbyte⟩ := utf8EncodeChar_of_isDigit (hchars c (by simp))
        rw [ofChars_cons, hencode, List.singleton_append, List.foldl_cons,
          ih fun other hother => hchars other (List.mem_cons_of_mem _ hother),
          Nat.ofDigitChars_cons, hbyte, mul_comm 10]
        rfl
  exact hfold 0

theorem readDigits_append {chars : List Char} (hchars : Digits chars) {rest : Bytes}
    (hrest : ∀ byte ∈ rest.head?, isDigit byte = false) :
    readDigits (ofChars chars ++ rest) = some (ofChars chars, rest) := by
  have hall := isDigit_of_mem_ofChars hchars.isDigit
  have hstop : rest.takeWhile isDigit = [] ∧ rest.dropWhile isDigit = rest := by
    cases rest with
    | nil => simp
    | cons byte rest => simp [hrest byte (by simp)]
  have hne : ofChars chars ≠ [] := by
    rw [← List.length_pos_iff, length_ofChars_digits hchars.isDigit]
    exact List.length_pos_iff.mpr hchars.ne_nil
  rw [readDigits, List.takeWhile_append_of_pos hall, List.dropWhile_append_of_pos hall, hstop.1,
    hstop.2, List.append_nil]
  simp [hne]

/-! ## The form of a numeral -/

def fractionChars : Option (List Char) → List Char
  | none => []
  | some digits => '.' :: digits

def exponentChars : Option Int → List Char
  | none => []
  | some n => 'e' :: (if n < 0 then '-' else '+') :: Decimal.digitChars n.natAbs

def numeralChars (negative : Bool) (whole : List Char) (fraction : Option (List Char))
    (exponent : Option Int) : List Char :=
  (if negative then ['-'] else []) ++ (whole ++ (fractionChars fraction ++ exponentChars exponent))

/-- A numeral that stands before these bytes ends there. -/
def EndsNumeral (rest : Bytes) : Prop :=
  ∀ byte ∈ rest.head?, isDigit byte = false ∧ byte ≠ 0x2e ∧ byte ≠ 0x65 ∧ byte ≠ 0x45

theorem readExponent_append (exponent : Option Int) {rest : Bytes} (hrest : EndsNumeral rest) :
    readExponent (ofChars (exponentChars exponent) ++ rest) = some (exponent, rest) := by
  cases exponent with
  | none =>
      cases rest with
      | nil => rfl
      | cons byte rest =>
          obtain ⟨-, -, hlower, hupper⟩ := hrest byte (by simp)
          simp [exponentChars, readExponent, hlower, hupper]
  | some n =>
      have hdigits := digits_digitChars n.natAbs
      have hread := readDigits_append hdigits fun byte hbyte => (hrest byte hbyte).1
      have hsize : digitsToNat (ofChars (Decimal.digitChars n.natAbs)) = n.natAbs := by
        rw [digitsToNat_ofChars hdigits.isDigit]
        exact Nat.ofDigitChars_ten_toDigits
      have he : String.utf8EncodeChar 'e' = [0x65] := rfl
      have hminus : String.utf8EncodeChar '-' = [0x2d] := rfl
      have hplus : String.utf8EncodeChar '+' = [0x2b] := rfl
      by_cases hneg : n < 0
      · simp [exponentChars, readExponent, hneg, he, hminus, hread, hsize, abs_of_neg hneg]
      · have hpos : 0 ≤ n := by omega
        simp [exponentChars, readExponent, hneg, he, hplus, hread, hsize, abs_of_nonneg hpos]

theorem readFraction_append {fraction : Option (List Char)}
    (hfraction : ∀ digits ∈ fraction, Digits digits) {rest : Bytes}
    (hrest : ∀ byte ∈ rest.head?, isDigit byte = false ∧ byte ≠ 0x2e) :
    readFraction (ofChars (fractionChars fraction) ++ rest) = some (fraction.map ofChars, rest) := by
  cases fraction with
  | none =>
      cases rest with
      | nil => rfl
      | cons byte rest =>
          have hpoint := (hrest byte (by simp)).2
          simp [fractionChars, readFraction, hpoint]
  | some digits =>
      have hread := readDigits_append (hfraction digits (by simp)) fun byte hbyte =>
        (hrest byte hbyte).1
      have hpoint : String.utf8EncodeChar '.' = [0x2e] := rfl
      simp [fractionChars, readFraction, hpoint, hread]

theorem readNumeral_append (negative : Bool) {whole : List Char} {fraction : Option (List Char)}
    (exponent : Option Int) (hwhole : Digits whole)
    (hlead : whole.head? = some '0' → whole.length = 1)
    (hfraction : ∀ digits ∈ fraction, Digits digits) {rest : Bytes} (hrest : EndsNumeral rest) :
    readNumeral (ofChars (numeralChars negative whole fraction exponent) ++ rest) =
      some (⟨negative, ofChars whole, fraction.map ofChars, exponent⟩, rest) := by
  have hexponent := readExponent_append exponent hrest
  have hafterFraction : ∀ byte ∈ (ofChars (exponentChars exponent) ++ rest).head?,
      isDigit byte = false ∧ byte ≠ 0x2e := by
    cases exponent with
    | none => exact fun byte hbyte => ⟨(hrest byte hbyte).1, (hrest byte hbyte).2.1⟩
    | some n =>
        have he : String.utf8EncodeChar 'e' = [0x65] := rfl
        simp [exponentChars, he, isDigit]
  have hread := readFraction_append hfraction hafterFraction
  have hafterWhole : ∀ byte ∈ (ofChars (fractionChars fraction) ++
      (ofChars (exponentChars exponent) ++ rest)).head?, isDigit byte = false := by
    cases fraction with
    | none => exact fun byte hbyte => (hafterFraction byte hbyte).1
    | some digits =>
        have hpoint : String.utf8EncodeChar '.' = [0x2e] := rfl
        simp [fractionChars, hpoint, isDigit]
  have hdigits := readDigits_append hwhole hafterWhole
  obtain ⟨first, later, rfl⟩ := List.exists_cons_of_ne_nil hwhole.ne_nil
  obtain ⟨byte, hencode, hdigit, hvalue⟩ :=
    utf8EncodeChar_of_isDigit (hwhole.isDigit first (by simp))
  have hzero : ¬ ((ofChars (first :: later)).head? = some 0x30 ∧
      (ofChars (first :: later)).length ≠ 1) := by
    rw [length_ofChars_digits hwhole.isDigit, ofChars_cons, hencode]
    rintro ⟨hhead, hlength⟩
    have hbyte : byte = 0x30 := by simpa using hhead
    have hchar : first = '0' := by
      rw [← Char.toNat_inj, ← hvalue, hbyte]
      rfl
    exact hlength (hlead (by rw [hchar]; rfl))
  have hsign : byte ≠ 0x2d := by
    rintro rfl
    simp [isDigit] at hdigit
  have hbody : ofChars (numeralChars negative (first :: later) fraction exponent) ++ rest =
      (if negative then [0x2d] else []) ++ (ofChars (first :: later) ++
        (ofChars (fractionChars fraction) ++ (ofChars (exponentChars exponent) ++ rest))) := by
    have hminus : String.utf8EncodeChar '-' = [0x2d] := rfl
    cases negative <;> simp [numeralChars, hminus]
  rw [hbody]
  cases negative with
  | true =>
      simp only [if_true, List.singleton_append, readNumeral, hdigits, Option.bind_eq_bind,
        Option.bind_some, if_neg hzero, hread, hexponent]
      rfl
  | false =>
      have hcons : ofChars (first :: later) = byte :: ofChars later := by
        rw [ofChars_cons, hencode, List.singleton_append]
      rw [hcons, List.cons_append] at hdigits
      rw [hcons] at hzero ⊢
      simpa [readNumeral, hsign, hdigits, hread, hexponent] using hzero

/-! ## Layouts of decimals -/

theorem head?_digitChars_ne {n : Nat} (hn : 0 < n) : (Decimal.digitChars n).head? ≠ some '0' := by
  induction n using Nat.strongRecOn with
  | ind n ih =>
      rcases Nat.lt_or_ge n 10 with hsmall | hlarge
      · rw [Decimal.digitChars, Nat.toDigits_of_lt_base hsmall]
        interval_cases n <;> decide
      · have hfirst := ih (n / 10) (by omega) (by omega)
        rw [Decimal.digitChars, Nat.toDigits_of_base_le (by decide) hlarge,
          List.head?_append_of_ne_nil _ Nat.toDigits_ne_nil]
        exact hfirst

theorem head?_digitChars (n : Nat) (hzero : (Decimal.digitChars n).head? = some '0') :
    (Decimal.digitChars n).length = 1 := by
  rcases Nat.eq_zero_or_pos n with rfl | hpos
  · rfl
  · exact absurd hzero (head?_digitChars_ne hpos)

/-- The parts of a numeral that only a double can hold, and that is the decimal. -/
structure Shows (d : Decimal) (whole : List Char) (fraction : Option (List Char))
    (exponent : Option Int) : Prop where
  digits : Digits whole
  lead : whole.head? = some '0' → whole.length = 1
  fractionDigits : ∀ digits ∈ fraction, Digits digits
  real : fraction.isSome = true ∨ exponent.isSome = true
  value : ∀ negative,
    Decimal.toDouble negative ⟨Nat.ofDigitChars 10 (whole ++ fraction.getD []) 0,
      exponent.getD 0 - (fraction.getD []).length⟩ = Decimal.toDouble negative d

theorem shows_zero {d : Decimal} (hzero : d.digits = 0) : Shows d ['0'] (some ['0']) none := by
  refine ⟨⟨by simp, by simp⟩, fun _ => rfl, ?_, Or.inl rfl, fun negative => ?_⟩
  · intro digits hdigits
    cases hdigits
    exact ⟨by simp, by simp⟩
  · have hvalue : Nat.ofDigitChars 10 (['0'] ++ ['0']) 0 = 0 := rfl
    simp only [Option.getD_some, hvalue]
    simp [Decimal.toDouble, hzero]

theorem shows_below_point {d : Decimal} (count : Nat)
    (hcount : d.exponent + (Decimal.digitChars d.digits).length + count = 0) :
    Shows d ['0'] (some (List.replicate count '0' ++ Decimal.digitChars d.digits)) none := by
  have hdigits := digits_digitChars d.digits
  refine ⟨⟨by simp, by simp⟩, fun _ => rfl, ?_, Or.inl rfl, fun negative => ?_⟩
  · intro digits hmem
    cases hmem
    refine ⟨by simp [hdigits.ne_nil], fun c hc => ?_⟩
    rcases List.mem_append.mp hc with hzero | hdigit
    · exact isDigit_of_mem_replicate hzero
    · exact hdigits.isDigit c hdigit
  · have hvalue : Nat.ofDigitChars 10 (['0'] ++ (List.replicate count '0' ++
        Decimal.digitChars d.digits)) 0 = d.digits := by
      rw [Nat.ofDigitChars_append, Nat.ofDigitChars_append, Nat.ofDigitChars_cons,
        Nat.ofDigitChars_nil, Nat.ofDigitChars_replicate_zero]
      exact Nat.ofDigitChars_ten_toDigits
    have hexponent : (0 : Int) - ((List.replicate count '0' ++
        Decimal.digitChars d.digits).length : Nat) = d.exponent := by
      rw [List.length_append, List.length_replicate]
      omega
    simp only [Option.getD_some, Option.getD_none, hvalue, hexponent]

theorem shows_padded {d : Decimal} (hpos : 0 < d.digits) (count : Nat)
    (hcount : d.exponent = count) :
    Shows d (Decimal.digitChars d.digits ++ List.replicate count '0') (some ['0']) none := by
  have hdigits := digits_digitChars d.digits
  refine ⟨hdigits.append fun c hc => isDigit_of_mem_replicate hc, ?_, ?_, Or.inl rfl,
    fun negative => ?_⟩
  · rw [List.head?_append_of_ne_nil _ hdigits.ne_nil]
    exact fun hzero => absurd hzero (head?_digitChars_ne hpos)
  · intro digits hmem
    cases hmem
    exact ⟨by simp, by simp⟩
  · have hvalue : Nat.ofDigitChars 10 (Decimal.digitChars d.digits ++ List.replicate count '0' ++
        ['0']) 0 = d.digits * 10 ^ (count + 1) := by
      rw [Nat.ofDigitChars_append, Nat.ofDigitChars_append, Decimal.digitChars,
        Nat.ofDigitChars_ten_toDigits, Nat.ofDigitChars_replicate_zero, Nat.ofDigitChars_cons,
        Nat.ofDigitChars_nil, pow_succ, Nat.sub_self]
      ring
    have hexponent : (0 : Int) - (['0'].length : Nat) = d.exponent - (count + 1 : Nat) := by
      rw [List.length_singleton]
      omega
    simp only [Option.getD_some, Option.getD_none, hvalue, hexponent]
    exact Decimal.toDouble_padded negative d.digits d.exponent (count + 1)

theorem shows_split {d : Decimal} (hpos : 0 < d.digits) (count : Nat) (hcount : 0 < count)
    (hshort : count < (Decimal.digitChars d.digits).length)
    (hexponent : d.exponent + (Decimal.digitChars d.digits).length = count) :
    Shows d ((Decimal.digitChars d.digits).take count)
      (some ((Decimal.digitChars d.digits).drop count)) none := by
  have hdigits := digits_digitChars d.digits
  refine ⟨⟨?_, fun c hc => hdigits.isDigit c (List.mem_of_mem_take hc)⟩, ?_, ?_, Or.inl rfl,
    fun negative => ?_⟩
  · simp [hcount.ne', hdigits.ne_nil]
  · rw [List.head?_take, if_neg hcount.ne']
    exact fun hzero => absurd hzero (head?_digitChars_ne hpos)
  · intro digits hmem
    cases hmem
    exact ⟨by simpa using hshort, fun c hc => hdigits.isDigit c (List.mem_of_mem_drop hc)⟩
  · have hvalue : Nat.ofDigitChars 10 (Decimal.digitChars d.digits) 0 = d.digits :=
      Nat.ofDigitChars_ten_toDigits
    have hlength : (0 : Int) - (((Decimal.digitChars d.digits).drop count).length : Nat) =
        d.exponent := by
      rw [List.length_drop]
      omega
    simp only [Option.getD_some, Option.getD_none, List.take_append_drop, hvalue, hlength]

theorem shows_scientific {d : Decimal} {digit : Char} {later : List Char}
    (hsplit : Decimal.digitChars d.digits = digit :: later) {fraction : Option (List Char)}
    (hfraction : fraction.getD [] = later) (hsome : ∀ digits ∈ fraction, digits ≠ []) :
    Shows d [digit] fraction (some (d.exponent + later.length)) := by
  have hdigits := digits_digitChars d.digits
  rw [hsplit] at hdigits
  refine ⟨⟨by simp, ?_⟩, fun _ => rfl, ?_, Or.inr rfl, fun negative => ?_⟩
  · simpa using hdigits.isDigit digit (by simp)
  · intro digits hmem
    cases hmem
    refine ⟨hsome _ rfl, fun c hc => hdigits.isDigit c ?_⟩
    rw [← hfraction]
    exact List.mem_cons_of_mem _ hc
  · have hvalue : Nat.ofDigitChars 10 ([digit] ++ later) 0 = d.digits := by
      rw [List.singleton_append, ← hsplit]
      exact Nat.ofDigitChars_ten_toDigits
    simp only [hfraction, hvalue, Option.getD_some, add_sub_cancel_right]

/-- Every layout is a numeral that shows the decimal. -/
theorem exists_shows (d : Decimal) :
    ∃ whole fraction exponent, Shows d whole fraction exponent ∧
      d.chars = whole ++ (fractionChars fraction ++ exponentChars exponent) := by
  rcases Nat.eq_zero_or_pos d.digits with hzero | hpos
  · exact ⟨_, _, _, shows_zero hzero, by simp [Decimal.chars, hzero, fractionChars, exponentChars]⟩
  have hlength : 0 < (Decimal.digitChars d.digits).length :=
    List.length_pos_iff.mpr (digits_digitChars d.digits).ne_nil
  have hchars : d.chars = if Decimal.positional.least ≤ d.exponent +
        (Decimal.digitChars d.digits).length - 1 ∧ d.exponent +
        (Decimal.digitChars d.digits).length - 1 ≤ Decimal.positional.greatest
      then Decimal.pointChars (Decimal.digitChars d.digits)
        (d.exponent + (Decimal.digitChars d.digits).length - 1)
      else Decimal.scientificChars (Decimal.digitChars d.digits)
        (d.exponent + (Decimal.digitChars d.digits).length - 1) := by
    rw [Decimal.chars, if_neg hpos.ne']
  generalize hlead : d.exponent + ((Decimal.digitChars d.digits).length : Int) - 1 = lead at hchars
  rw [hchars]
  split_ifs with hrange
  · simp only [Decimal.pointChars]
    split_ifs with hneg hlong
    · exact ⟨_, _, _, shows_below_point (-lead - 1).toNat (by omega),
        by simp [fractionChars, exponentChars]⟩
    · exact ⟨_, _, _, shows_padded hpos (lead.toNat + 1 - (Decimal.digitChars d.digits).length)
        (by omega), by simp [fractionChars, exponentChars]⟩
    · exact ⟨_, _, _, shows_split hpos (lead.toNat + 1) (Nat.succ_pos _) (by omega) (by omega),
        by simp [fractionChars, exponentChars]⟩
  · obtain ⟨digit, later, hsplit⟩ := List.exists_cons_of_length_pos hlength
    obtain rfl : lead = d.exponent + later.length := by
      rw [← hlead, hsplit, List.length_cons]
      push_cast
      ring
    rw [hsplit]
    cases later with
    | nil =>
        exact ⟨_, none, _, shows_scientific hsplit rfl (by simp),
          by simp [Decimal.scientificChars, fractionChars, exponentChars]⟩
    | cons second later =>
        exact ⟨_, some (second :: later), _, shows_scientific hsplit rfl (by simp),
          by simp [Decimal.scientificChars, fractionChars, exponentChars]⟩

/-! ## Numbers -/

theorem readNumeral_chars {x : Double} (hfinite : x.isFinite = true) {rest : Bytes}
    (hrest : EndsNumeral rest) :
    ∃ numeral, readNumeral (ofChars x.chars ++ rest) = some (numeral, rest) ∧
      numeral.toValue? = some (.float x) := by
  obtain ⟨whole, fraction, exponent, hshows, hchars⟩ := exists_shows x.shortest
  have hread := readNumeral_append x.isNegative exponent hshows.digits hshows.lead
    hshows.fractionDigits hrest
  have htext : x.chars = numeralChars x.isNegative whole fraction exponent := by
    rw [Double.chars, hchars, numeralChars]
  refine ⟨_, by rw [htext]; exact hread, ?_⟩
  have hpart : ∀ c ∈ fraction.getD [], c.isDigit = true := by
    cases fraction with
    | none => simp
    | some digits => exact (hshows.fractionDigits digits rfl).isDigit
  have hgetD : (fraction.map ofChars).getD [] = ofChars (fraction.getD []) := by
    cases fraction <;> rfl
  have hdecimal : Numeral.decimal ⟨x.isNegative, ofChars whole, fraction.map ofChars, exponent⟩ =
      ⟨Nat.ofDigitChars 10 (whole ++ fraction.getD []) 0,
        exponent.getD 0 - (fraction.getD []).length⟩ := by
    unfold Numeral.decimal
    simp only [hgetD, ← ofChars_append, length_ofChars_digits hpart,
      digitsToNat_ofChars (hshows.digits.append hpart).isDigit]
  have hreal : ((fraction.map ofChars).isNone && exponent.isNone) = false := by
    rcases hshows.real with hsome | hsome
    · cases fraction <;> simp_all
    · cases exponent <;> simp_all
  have hvalue := (hshows.value x.isNegative).trans (Decimal.toDouble_shortest hfinite)
  simp only [Numeral.toValue?, hreal, Bool.false_and, hdecimal, hvalue, hfinite]
  rfl

theorem readNumeral_integerChars (n : Int64) {rest : Bytes} (hrest : EndsNumeral rest) :
    ∃ numeral, readNumeral (ofChars (Decimal.integerChars n.toInt) ++ rest) =
      some (numeral, rest) ∧ numeral.toValue? = some (.integer n) := by
  have hdigits := digits_digitChars n.toInt.natAbs
  have hnone : ∀ digits ∈ (none : Option (List Char)), Digits digits := by simp
  have hread := readNumeral_append (decide (n.toInt < 0)) none hdigits (head?_digitChars _) hnone
    hrest
  have htext : Decimal.integerChars n.toInt =
      numeralChars (decide (n.toInt < 0)) (Decimal.digitChars n.toInt.natAbs) none none := by
    simp [Decimal.integerChars, numeralChars, fractionChars, exponentChars]
  refine ⟨_, by rw [htext]; exact hread, ?_⟩
  have hsize : digitsToNat (ofChars (Decimal.digitChars n.toInt.natAbs)) = n.toInt.natAbs := by
    rw [digitsToNat_ofChars hdigits.isDigit]
    exact Nat.ofDigitChars_ten_toDigits
  have hback : (if decide (n.toInt < 0) = true then -(n.toInt.natAbs : Int) else n.toInt.natAbs) =
      n.toInt := by
    split_ifs with hneg <;> simp only [decide_eq_true_eq] at hneg <;> omega
  have hzero : (decide (n.toInt < 0) && n.toInt.natAbs == 0) = false := by
    rw [Bool.and_eq_false_iff, decide_eq_false_iff_not, beq_eq_false_iff_ne]
    omega
  have hlow := n.le_toInt
  have hhigh := n.toInt_lt
  simp only [Numeral.toValue?, hsize, hback, hzero, Option.map_none, Option.isNone_none]
  simpa using ⟨hlow, hhigh⟩

end Json

end DocumentStore
