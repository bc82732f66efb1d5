import DocumentStore.Proofs.Json.Grammar
import DocumentStore.Proofs.Reading

/-!
# What follows a JSON document

A reader of JSON finds the same in every longer input, since it stops at a closing quote, brace or
bracket or at the last letter of a word.  Only a numeral may go on, but not once something else has
come after it, and inside a list or a map something always does.  The limits of the readers, the
depth of nesting and the fuel, only ever refuse an input.
-/

namespace DocumentStore

namespace Json

/-! ## Texts -/

theorem extends_scanPieces (found : List Piece) :
    Extends (scanPieces found) (scanPieces found) := by
  intro input pieces rest hscan more
  fun_induction scanPieces found input with
  | case1 found tail =>
      cases hscan
      rw [List.cons_append, scanPieces]
  | case2 found a b c d tail value hunit ih =>
      simp only [List.cons_append, scanPieces, hunit]
      exact ih hscan
  | case3 => cases hscan
  | case4 found letter tail hshort value hletter ih =>
      have hunit : letter ≠ 0x75 := by
        rintro rfl
        cases hletter
      have hnext := ih hscan
      simpa [scanPieces, hletter, hunit] using hnext
  | case5 => cases hscan
  | case6 => cases hscan
  | case7 found byte tail hquote hunit hescape hprints ih =>
      have hnext := ih hscan
      have hbackslash : byte ≠ 0x5c := by
        rintro rfl
        cases tail with
        | nil => cases hscan
        | cons letter tail => exact hescape letter tail rfl rfl
      simpa [scanPieces, hquote, hbackslash, hprints] using hnext
  | case8 => cases hscan

theorem extends_readText : Extends readText readText := by
  intro input text rest hread more
  simp only [readText, Option.bind_eq_bind, Option.bind_eq_some_iff, Prod.exists] at hread ⊢
  obtain ⟨pieces, after, hscan, bytes, hbytes, found, htext, heq⟩ := hread
  cases heq
  exact ⟨pieces, _, extends_scanPieces [] hscan more, bytes, hbytes, _, htext, rfl⟩

/-! ## Numerals -/

theorem extendsPast_readDigits : ExtendsPast readDigits readDigits := by
  intro input digits rest hread hrest more
  simp only [readDigits] at hread
  split_ifs at hread with hempty
  cases hread
  have htake : (input ++ more).takeWhile isDigit = input.takeWhile isDigit := by
    have hlength := congrArg List.length (List.takeWhile_append_dropWhile (p := isDigit) (l := input))
    have hpos := List.length_pos_iff.mpr hrest
    rw [List.length_append] at hlength
    rw [List.takeWhile_append, if_neg (by omega)]
  have hdrop : (input ++ more).dropWhile isDigit = input.dropWhile isDigit ++ more := by
    rw [List.dropWhile_append, if_neg (by simpa using hrest)]
  rw [readDigits, htake, hdrop, if_neg hempty]

theorem extendsPast_readFraction : ExtendsPast readFraction readFraction := by
  intro input fraction rest hread hrest more
  unfold readFraction at hread
  split at hread
  next tail =>
      exact extendsPast_readDigits.map some hread hrest more
  next hpoint =>
      cases hread
      obtain ⟨byte, tail, rfl⟩ := List.exists_cons_of_ne_nil hrest
      rw [List.cons_append, readFraction]
      rintro tail' heq
      cases heq
      exact hpoint tail rfl


/-- What decides the sign of an exponent stands before its digits, so it does not depend on what
comes after them. -/
theorem readExponent_signed {letter : UInt8} (hletter : letter = 0x65 ∨ letter = 0x45)
    {tail : Bytes} (htail : tail ≠ []) :
    ∃ (negative : Bool) (digits : Bytes), ∀ more, readExponent (letter :: (tail ++ more)) =
      (readDigits (digits ++ more)).map fun read =>
        (some (if negative then -(digitsToNat read.1 : Int) else digitsToNat read.1), read.2) := by
  obtain ⟨sign, tail, rfl⟩ := List.exists_cons_of_ne_nil htail
  by_cases hminus : sign = 0x2d
  · subst hminus
    exact ⟨true, tail, fun more => by simp [readExponent, hletter]⟩
  · by_cases hplus : sign = 0x2b
    · subst hplus
      exact ⟨false, tail, fun more => by simp [readExponent, hletter]⟩
    · exact ⟨false, sign :: tail, fun more => by simp [readExponent, hletter, hminus, hplus]⟩

theorem extendsPast_readExponent : ExtendsPast readExponent readExponent := by
  intro input exponent rest hread hrest more
  cases input with
  | nil =>
      cases hread
      exact absurd rfl hrest
  | cons letter tail =>
      by_cases hletter : letter = 0x65 ∨ letter = 0x45
      · have htail : tail ≠ [] := by
          rintro rfl
          simp [readExponent, hletter, readDigits] at hread
        obtain ⟨negative, digits, hsigned⟩ := readExponent_signed hletter htail
        have hdigits := hsigned []
        rw [List.append_nil, List.append_nil] at hdigits
        rw [hdigits] at hread
        rw [List.cons_append, hsigned more]
        exact extendsPast_readDigits.map
          (fun digits => some (if negative then -(digitsToNat digits : Int) else digitsToNat digits))
          hread hrest more
      · have hnone : ∀ tail, readExponent (letter :: tail) = some (none, letter :: tail) := by
          intro tail
          simp [readExponent, hletter]
        rw [hnone] at hread
        cases hread
        exact hnone _

/-- Reads a numeral after its sign. -/
def readUnsigned (negative : Bool) (input : Bytes) : Option (Numeral × Bytes) := do
  let (whole, rest) ← readDigits input
  if whole.head? = some 0x30 ∧ whole.length ≠ 1 then none
  let (fraction, rest) ← readFraction rest
  let (exponent, rest) ← readExponent rest
  return (⟨negative, whole, fraction, exponent⟩, rest)

theorem readNumeral_of_ne {byte : UInt8} (hbyte : byte ≠ 0x2d) (input : Bytes) :
    readNumeral (byte :: input) = readUnsigned false (byte :: input) := by
  simp [readNumeral, readUnsigned, hbyte]

theorem extendsPast_readUnsigned (negative : Bool) :
    ExtendsPast (readUnsigned negative) (readUnsigned negative) := by
  intro input numeral rest hread hrest more
  simp only [readUnsigned, Option.bind_eq_bind, Option.bind_eq_some_iff, Prod.exists] at hread ⊢
  obtain ⟨whole, afterWhole, hdigits, hread⟩ := hread
  by_cases hlead : whole.head? = some 0x30 ∧ whole.length ≠ 1
  · simp [if_pos hlead] at hread
  simp only [if_neg hlead, Option.bind_eq_some_iff, Prod.exists] at hread
  obtain ⟨fraction, afterFraction, hfraction, exponent, after, hexponent, heq⟩ := hread
  cases heq
  have hafterFraction : afterFraction ≠ [] := by
    rintro rfl
    cases hexponent
    exact hrest rfl
  have hafterWhole : afterWhole ≠ [] := by
    rintro rfl
    cases hfraction
    exact hafterFraction rfl
  refine ⟨whole, _, extendsPast_readDigits hdigits hafterWhole more, ?_⟩
  rw [if_neg hlead]
  simp only [Option.bind_eq_some_iff, Prod.exists]
  exact ⟨fraction, _, extendsPast_readFraction hfraction hafterFraction more, exponent, _,
    extendsPast_readExponent hexponent hrest more, rfl⟩

theorem extendsPast_readNumeral : ExtendsPast readNumeral readNumeral := by
  intro input numeral rest hread hrest more
  cases input with
  | nil => cases hread
  | cons byte input =>
      by_cases hminus : byte = 0x2d
      · subst hminus
        exact extendsPast_readUnsigned true hread hrest more
      · rw [readNumeral_of_ne hminus] at hread
        rw [List.cons_append, readNumeral_of_ne hminus]
        exact extendsPast_readUnsigned false hread hrest more

/-! ## Scalars -/

section Scalars

variable {α : Type}

theorem map_after?_append {word input rest : Bytes} {item found : α}
    (hread : ((Bytes.after? word input).map fun rest => (item, rest)) = some (found, rest))
    (more : Bytes) :
    ((Bytes.after? word (input ++ more)).map fun rest => (item, rest)) =
      some (found, rest ++ more) := by
  obtain ⟨after, hafter, heq⟩ := Option.map_eq_some_iff.mp hread
  cases heq
  rw [Bytes.after?_append hafter, Option.map_some]

theorem extendsPast_scalarWith {text numeral : Bytes → Option (α × Bytes)} {null yes no : α}
    (htext : Extends text text) (hnumeral : ExtendsPast numeral numeral)
    (hempty : numeral [] = none) :
    ExtendsPast (scalarWith text numeral null yes no) (scalarWith text numeral null yes no) := by
  intro input found rest hread hrest more
  cases input with
  | nil => simp [scalarWith, hempty] at hread
  | cons byte input =>
      rw [List.cons_append]
      by_cases hquote : byte = 0x22
      · subst hquote
        exact htext hread more
      by_cases hnull : byte = 0x6e
      · subst hnull
        exact map_after?_append hread more
      by_cases htrue : byte = 0x74
      · subst htrue
        exact map_after?_append hread more
      by_cases hfalse : byte = 0x66
      · subst hfalse
        exact map_after?_append hread more
      have hother : ∀ tail, scalarWith text numeral null yes no (byte :: tail) =
          numeral (byte :: tail) := by
        intro tail
        simp [scalarWith, hquote, hnull, htrue, hfalse]
      rw [hother] at hread ⊢
      exact hnumeral hread hrest more

end Scalars

theorem extendsPast_readScalar : ExtendsPast readScalar readScalar := by
  rw [readScalar_eq]
  refine extendsPast_scalarWith (extends_readText.map Value.text) ?_ rfl
  intro input value rest hread hrest more
  simp only [Option.bind_eq_some_iff, Prod.exists] at hread ⊢
  obtain ⟨numeral, after, hnumeral, found, hfound, heq⟩ := hread
  cases heq
  exact ⟨numeral, _, extendsPast_readNumeral hnumeral hrest more, _, hfound, rfl⟩

theorem extendsPast_skipScalar : ExtendsPast skipScalar skipScalar := by
  rw [skipScalar_eq]
  exact extendsPast_scalarWith ((extends_scanPieces []).map fun _ => ())
    (extendsPast_readNumeral.map fun _ => ()) rfl

/-! ## Lists and maps -/

theorem skipBlanks_extend {input : Bytes} (hinput : skipBlanks input ≠ []) (more : Bytes) :
    skipBlanks (input ++ more) = skipBlanks input ++ more := by
  unfold skipBlanks at hinput ⊢
  rw [List.dropWhile_append, if_neg (by simpa using hinput)]

section Containers

variable {α β : Type}

/-- Members are read alike with more fuel too. -/
theorem extends_readMembers {close : UInt8} (hclose : close ≠ 0x2c)
    {member other : Bytes → Option (α × Bytes)} (hmember : ExtendsPast member other)
    {fuel larger : Nat} (hfuel : fuel ≤ larger) :
    Extends (readMembers close member fuel) (readMembers close other larger) := by
  intro input members rest hread more
  induction fuel generalizing input members larger with
  | zero => cases hread
  | succ fuel ih =>
      obtain ⟨larger, rfl⟩ : ∃ fewer, larger = fewer + 1 := ⟨larger - 1, by omega⟩
      obtain ⟨_, first, middle, later, heq, rfl, hfirst, hbody⟩ := readMembers_eq_some hread
      cases heq
      have hmiddle : skipBlanks middle ≠ [] := by
        rcases hbody with ⟨hend, -⟩ | ⟨tail, hend, -⟩ <;> simp [hend]
      have hpast : middle ≠ [] := by
        rintro rfl
        exact hmiddle rfl
      have hmore := hmember hfirst hpast more
      have hskip := skipBlanks_extend hmiddle more
      rcases hbody with ⟨hend, rfl⟩ | ⟨tail, hend, hlater⟩
      · exact readMembers_last hclose hmore (by rw [hskip, hend, List.cons_append])
      · exact readMembers_comma hmore (by rw [hskip, hend, List.cons_append])
          (ih (by omega) hlater)

theorem extends_readItems {item other : Bytes → Option (α × Bytes)}
    (hitem : ExtendsPast item other) (hempty : item [] = none) {fuel larger : Nat}
    (hfuel : fuel ≤ larger) : Extends (readItems item fuel) (readItems other larger) := by
  rw [readItems_eq, readItems_eq]
  refine extends_readMembers (by decide) ?_ hfuel
  intro input found rest hread hrest more
  beta_reduce at hread ⊢
  have hinput : skipBlanks input ≠ [] := by
    intro hnil
    rw [hnil, hempty] at hread
    cases hread
  rw [skipBlanks_extend hinput]
  exact hitem hread hrest more

theorem extends_readFields {field other : Bytes → Option (α × Bytes)}
    (hfield : ExtendsPast field other) {fuel larger : Nat} (hfuel : fuel ≤ larger) :
    Extends (readFields field fuel) (readFields other larger) := by
  rw [readFields_eq, readFields_eq]
  exact extends_readMembers (by decide) hfield hfuel

theorem extendsPast_readField {name : Bytes → Option (α × Bytes)}
    {item other : α → Bytes → Option (β × Bytes)} (hname : Extends name name)
    (hitem : ∀ key, ExtendsPast (item key) (other key)) (hempty : ∀ key, item key [] = none) :
    ExtendsPast (readField name item) (readField name other) := by
  intro input found rest hread hrest more
  simp only [readField] at hread ⊢
  split at hread
  next tail htail =>
      simp only [Option.bind_eq_bind, Option.bind_eq_some_iff, Prod.exists] at hread
      obtain ⟨key, after, hkey, hbody⟩ := hread
      split at hbody
      next last hlast =>
          simp only [Option.bind_eq_some_iff, Prod.exists] at hbody
          obtain ⟨value, closing, hvalue, heq⟩ := hbody
          cases heq
          have hvalueInput : skipBlanks last ≠ [] := by
            intro hnil
            rw [hnil, hempty] at hvalue
            cases hvalue
          rw [skipBlanks_extend (by simp [htail]), htail]
          simp only [List.cons_append, hname hkey more, Option.bind_eq_bind, Option.bind_some]
          rw [skipBlanks_extend (by simp [hlast]), hlast]
          simp only [List.cons_append, skipBlanks_extend hvalueInput, hitem key hvalue hrest more]
          rfl
      next => cases hbody
  next => cases hread

theorem extends_containerWith {close : UInt8}
    {members other : Nat → Bytes → Option (List α × Bytes)} (make : List α → β)
    (hmembers : ∀ {fuel larger}, fuel ≤ larger → Extends (members fuel) (other larger)) :
    Extends (containerWith close members make) (containerWith close other make) := by
  intro input found rest hread more
  simp only [containerWith] at hread ⊢
  split at hread
  next => cases hread
  next byte tail htail =>
      rw [skipBlanks_extend (by simp [htail]), htail, List.cons_append]
      simp only
      split_ifs at hread ⊢ with hclose
      · cases hread
        rfl
      · exact (hmembers (by simp)).map make hread more

theorem extendsPast_valueWith {list list' map map' scalar : Bytes → Option (α × Bytes)}
    (hlist : Extends list list') (hmap : Extends map map') (hscalar : ExtendsPast scalar scalar)
    (hempty : scalar [] = none) :
    ExtendsPast (valueWith list map scalar) (valueWith list' map' scalar) := by
  intro input found rest hread hrest more
  cases input with
  | nil => simp [valueWith, hempty] at hread
  | cons byte input =>
      rw [List.cons_append]
      by_cases hopen : byte = 0x5b
      · subst hopen
        exact hlist hread more
      by_cases hbrace : byte = 0x7b
      · subst hbrace
        exact hmap hread more
      have hother : ∀ (list map : Bytes → Option (α × Bytes)) tail,
          valueWith list map scalar (byte :: tail) = scalar (byte :: tail) := by
        intro list map tail
        simp [valueWith, hopen, hbrace]
      rw [hother] at hread ⊢
      exact hscalar hread hrest more

end Containers

theorem extendsPast_readValue (depth : Nat) :
    ExtendsPast (readValue depth) (readValue depth) := by
  induction depth with
  | zero => exact extendsPast_readScalar
  | succ depth ih =>
      rw [readValue_succ]
      refine extendsPast_valueWith (extends_containerWith _ fun hfuel => ?_)
        (extends_containerWith _ fun hfuel => ?_) extendsPast_readScalar rfl
      · exact extends_readItems ih (readValue_nil depth) hfuel
      · exact extends_readFields (extendsPast_readField extends_readText (fun _ => ih)
          fun _ => readValue_nil depth) hfuel

/-- The limit of depth only refuses values: what is skipped is skipped under every higher one. -/
theorem extendsPast_skipValue {depth deeper : Nat} (hdepth : depth ≤ deeper) :
    ExtendsPast (skipValue depth) (skipValue deeper) := by
  have hnone : ∀ read : Bytes → Option (Unit × Bytes), Extends (fun _ => none) read :=
    fun read _ _ _ hread => nomatch hread
  induction depth generalizing deeper with
  | zero =>
      rw [skipValue_zero]
      cases deeper with
      | zero =>
          rw [skipValue_zero]
          exact extendsPast_valueWith (hnone _) (hnone _) extendsPast_skipScalar rfl
      | succ deeper =>
          rw [skipValue_succ]
          exact extendsPast_valueWith (hnone _) (hnone _) extendsPast_skipScalar rfl
  | succ depth ih =>
      obtain ⟨deeper, rfl⟩ : ∃ fewer, deeper = fewer + 1 := ⟨deeper - 1, by omega⟩
      have hitem : ExtendsPast (skipValue depth) (skipValue deeper) := ih (by omega)
      rw [skipValue_succ, skipValue_succ]
      refine extendsPast_valueWith (extends_containerWith _ fun hfuel => ?_)
        (extends_containerWith _ fun hfuel => ?_) extendsPast_skipScalar rfl
      · exact extends_readItems hitem (skipValue_nil depth) hfuel
      · exact extends_readFields (extendsPast_readField ((extends_scanPieces []).map fun _ => ())
          (fun _ => hitem) fun _ => skipValue_nil depth) hfuel

end Json

end DocumentStore
