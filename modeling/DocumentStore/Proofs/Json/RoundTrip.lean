import DocumentStore.Proofs.Json.Members
import DocumentStore.Proofs.Value

/-!
# JSON values are read back

`readValue_write`: a written value followed by bytes that end a numeral is read back with what
follows, in both layouts and at any level, provided that its maps are sorted, that its doubles are
finite and that it nests no deeper than the reader allows.
-/

namespace DocumentStore

namespace Json

open Bytes (ofChars ofChars_nil ofChars_cons ofChars_append)

/-! ## Scalars -/

theorem readValue_scalar {byte : UInt8} (hlist : byte ≠ 0x5b) (hmap : byte ≠ 0x7b) (depth : Nat)
    (rest : Bytes) : readValue depth (byte :: rest) = readScalar (byte :: rest) := by
  cases depth with
  | zero => rfl
  | succ depth => simp [readValue, hlist, hmap]

theorem exists_cons_of_readNumeral {input rest : Bytes} {numeral : Numeral}
    (hread : readNumeral input = some (numeral, rest)) :
    ∃ byte more, input = byte :: more ∧ (byte = 0x2d ∨ isDigit byte = true) := by
  cases input with
  | nil => simp [readNumeral, readDigits] at hread
  | cons byte more =>
      refine ⟨byte, more, rfl, ?_⟩
      by_contra hother
      rw [not_or, Bool.not_eq_true] at hother
      simp [readNumeral, readDigits, hother.1, hother.2] at hread

theorem readValue_of_readNumeral {input rest : Bytes} {numeral : Numeral} {value : Value}
    (hread : readNumeral input = some (numeral, rest)) (hvalue : numeral.toValue? = some value)
    (depth : Nat) : readValue depth input = some (value, rest) := by
  obtain ⟨byte, more, rfl, hstart⟩ := exists_cons_of_readNumeral hread
  have hne : ∀ other : UInt8, other ≠ 0x2d → isDigit other = false → byte ≠ other := by
    rintro other hminus hdigit rfl
    rcases hstart with hsign | hyes
    · exact hminus hsign
    · simp [hdigit] at hyes
  rw [readValue_scalar (hne 0x5b (by decide) (by decide)) (hne 0x7b (by decide) (by decide))]
  simp [readScalar, hread, hvalue, hne 0x22 (by decide) (by decide),
    hne 0x6e (by decide) (by decide), hne 0x74 (by decide) (by decide),
    hne 0x66 (by decide) (by decide)]

theorem readValue_quote (s : String) (depth : Nat) (rest : Bytes) :
    readValue depth (ofChars (quote s) ++ rest) = some (.text s, rest) := by
  rw [ofChars_quote, List.cons_append, readValue_scalar (by decide) (by decide), readScalar,
    List.append_assoc, List.singleton_append, readText_quoted]
  rfl

/-! ## The first byte of a value -/

/-- The input begins with no blank and does not close a list. -/
def StartsValue (input : Bytes) : Prop :=
  ∃ byte rest, input = byte :: rest ∧ isBlank byte = false ∧ byte ≠ 0x5d

theorem StartsValue.append {input : Bytes} (hinput : StartsValue input) (rest : Bytes) :
    StartsValue (input ++ rest) := by
  obtain ⟨byte, more, rfl, hblank, hclose⟩ := hinput
  exact ⟨byte, more ++ rest, rfl, hblank, hclose⟩

theorem StartsValue.skipBlanks_eq {input : Bytes} (hinput : StartsValue input) :
    skipBlanks input = input := by
  obtain ⟨byte, more, rfl, hblank, -⟩ := hinput
  exact skipBlanks_cons hblank more

theorem startsValue_of_readNumeral {input rest : Bytes} {numeral : Numeral}
    (hread : readNumeral input = some (numeral, rest)) : StartsValue input := by
  obtain ⟨byte, more, rfl, hstart⟩ := exists_cons_of_readNumeral hread
  refine ⟨byte, more, rfl, ?_, ?_⟩
  · simp only [isBlank, Bool.or_eq_false_iff, beq_eq_false_iff_ne]
    refine ⟨⟨⟨?_, ?_⟩, ?_⟩, ?_⟩
    all_goals
      rintro rfl
      simp [isDigit] at hstart
  · rintro rfl
    simp [isDigit] at hstart

theorem startsValue_write (layout : Layout) (level : Nat) (value : Value) :
    StartsValue (ofChars (write layout level value)) := by
  have hend : EndsNumeral [] := by
    intro byte hbyte
    cases hbyte
  cases value with
  | null => exact ⟨_, _, rfl, rfl, by decide⟩
  | boolean truth => cases truth <;> exact ⟨_, _, rfl, rfl, by decide⟩
  | integer n =>
      obtain ⟨numeral, hread, -⟩ := readNumeral_integerChars n hend
      rw [List.append_nil] at hread
      exact startsValue_of_readNumeral hread
  | float x =>
      rw [write, doubleChars]
      split_ifs with hfinite
      · obtain ⟨numeral, hread, -⟩ := readNumeral_chars hfinite hend
        rw [List.append_nil] at hread
        exact startsValue_of_readNumeral hread
      · exact ⟨_, _, rfl, rfl, by decide⟩
  | text s =>
      rw [write, ofChars_quote]
      exact ⟨_, _, rfl, rfl, by decide⟩
  | list items => cases items <;> exact ⟨_, _, rfl, rfl, by decide⟩
  | map fields => cases fields <;> exact ⟨_, _, rfl, rfl, by decide⟩

/-! ## Values -/

def fieldBytes (layout : Layout) (level : Nat) (field : String × Value) : Bytes :=
  ofChars (quote field.1) ++ (ofChars (colon layout) ++ ofChars (write layout level field.2))

theorem ofChars_writeItems (layout : Layout) (level : Nat) (items : List Value) (last : Bytes)
    (close : UInt8) (rest : Bytes) :
    ofChars (writeItems layout level items) ++ (last ++ close :: rest) =
      laterMembers (fun item => ofChars (write layout level item))
        (ofChars (lineBreak layout level)) last close rest items := by
  have hcomma : String.utf8EncodeChar ',' = [0x2c] := rfl
  induction items with
  | nil => rfl
  | cons item items ih => simp [writeItems, laterMembers, hcomma, ih]

theorem ofChars_writeFields (layout : Layout) (level : Nat) (fields : List (String × Value))
    (last : Bytes) (close : UInt8) (rest : Bytes) :
    ofChars (writeFields layout level fields) ++ (last ++ close :: rest) =
      laterMembers (fieldBytes layout level) (ofChars (lineBreak layout level)) last close rest
        fields := by
  have hcomma : String.utf8EncodeChar ',' = [0x2c] := rfl
  induction fields with
  | nil => rfl
  | cons field fields ih =>
      obtain ⟨name, item⟩ := field
      simp [writeFields, laterMembers, fieldBytes, hcomma, ih]

theorem ofChars_write_list (layout : Layout) (level : Nat) (first : Value) (items : List Value)
    (rest : Bytes) :
    ofChars (write layout level (.list (first :: items))) ++ rest =
      0x5b :: (ofChars (lineBreak layout (level + 1)) ++
        (ofChars (write layout (level + 1) first) ++
          laterMembers (fun item => ofChars (write layout (level + 1) item))
            (ofChars (lineBreak layout (level + 1))) (ofChars (lineBreak layout level)) 0x5d rest
            items)) := by
  have hopen : String.utf8EncodeChar '[' = [0x5b] := rfl
  have hclose : String.utf8EncodeChar ']' = [0x5d] := rfl
  rw [← ofChars_writeItems]
  simp [write, hopen, hclose]

theorem ofChars_write_map (layout : Layout) (level : Nat) (first : String × Value)
    (fields : List (String × Value)) (rest : Bytes) :
    ofChars (write layout level (.map (first :: fields))) ++ rest =
      0x7b :: (ofChars (lineBreak layout (level + 1)) ++
        (fieldBytes layout (level + 1) first ++
          laterMembers (fieldBytes layout (level + 1)) (ofChars (lineBreak layout (level + 1)))
            (ofChars (lineBreak layout level)) 0x7d rest fields)) := by
  have hopen : String.utf8EncodeChar '{' = [0x7b] := rfl
  have hclose : String.utf8EncodeChar '}' = [0x7d] := rfl
  rw [← ofChars_writeFields]
  simp [write, fieldBytes, hopen, hclose]

theorem head?_fieldBytes (layout : Layout) (level : Nat) (field : String × Value) (rest : Bytes) :
    (fieldBytes layout level field ++ rest).head? = some 0x22 := by
  rw [fieldBytes, ofChars_quote]
  rfl

theorem readValue_list (depth : Nat) {lead input : Bytes}
    (hlead : ∀ byte ∈ lead, isBlank byte = true) (hinput : StartsValue input) :
    readValue (depth + 1) (0x5b :: (lead ++ input)) =
      (readItems (readValue depth) input.length input).map fun read => (.list read.1, read.2) := by
  have hskip : skipBlanks (lead ++ input) = input := by
    rw [skipBlanks_append hlead, hinput.skipBlanks_eq]
  obtain ⟨byte, more, rfl, -, hclose⟩ := hinput
  simp [readValue, hskip, hclose, Option.map_eq_bind]

theorem readValue_map (depth : Nat) {lead input : Bytes}
    (hlead : ∀ byte ∈ lead, isBlank byte = true) (hinput : input.head? = some 0x22) :
    readValue (depth + 1) (0x7b :: (lead ++ input)) =
      (readFields (readField readText fun _ => readValue depth) input.length input).map fun read =>
        (.map (Keyed.ofList read.1), read.2) := by
  obtain ⟨more, rfl⟩ := List.head?_eq_some_iff.mp hinput
  have hskip : skipBlanks (lead ++ 0x22 :: more) = 0x22 :: more := by
    rw [skipBlanks_append hlead, skipBlanks_cons rfl]
  simp [readValue, hskip, Option.map_eq_bind]

theorem readValue_write_list (layout : Layout) (level : Nat) {items : List Value} {depth : Nat}
    (hitems : ∀ item ∈ items, ∀ rest, EndsNumeral rest →
      readValue depth (ofChars (write layout (level + 1) item) ++ rest) = some (item, rest))
    (rest : Bytes) :
    readValue (depth + 1) (ofChars (write layout level (.list items)) ++ rest) =
      some (.list items, rest) := by
  cases items with
  | nil => rfl
  | cons first items =>
      have hstart : ∀ item ∈ first :: items, ∀ rest,
          StartsValue (ofChars (write layout (level + 1) item) ++ rest) := fun item hitem =>
        (startsValue_write layout (level + 1) item).append
      have hitem : ∀ item ∈ first :: items, ∀ rest, EndsNumeral rest →
          readValue depth (skipBlanks (ofChars (write layout (level + 1) item) ++ rest)) =
            some (id item, rest) := by
        intro item hitem rest hrest
        rw [(hstart item hitem rest).skipBlanks_eq]
        exact hitems item hitem rest hrest
      have hread := readItems_members (isBlank_lineBreak layout (level + 1))
        (isBlank_lineBreak layout level) hitem rest
      simp only [List.map_id_fun, id_eq] at hread
      rw [ofChars_write_list]
      rw [readValue_list depth (isBlank_lineBreak layout (level + 1)) (hstart first (by simp) _),
        hread, Option.map_some]

theorem readValue_write_map (layout : Layout) (level : Nat) {fields : Keyed Value} {depth : Nat}
    (hsorted : Keyed.Sorted fields)
    (hfields : ∀ field ∈ fields, ∀ rest, EndsNumeral rest →
      readValue depth (ofChars (write layout (level + 1) field.2) ++ rest) = some (field.2, rest))
    (rest : Bytes) :
    readValue (depth + 1) (ofChars (write layout level (.map fields)) ++ rest) =
      some (.map fields, rest) := by
  cases fields with
  | nil => rfl
  | cons first fields =>
      have hfield : ∀ field ∈ first :: fields, ∀ rest, EndsNumeral rest →
          ∀ lead : Bytes, (∀ byte ∈ lead, isBlank byte = true) →
            readField readText (fun _ => readValue depth)
              (lead ++ (fieldBytes layout (level + 1) field ++ rest)) = some (id field, rest) := by
        intro field hfield rest hrest lead hlead
        have hstart := (startsValue_write layout (level + 1) field.2).append rest
        have hread := hfields field hfield rest hrest
        rw [← hstart.skipBlanks_eq] at hread
        rw [fieldBytes, List.append_assoc, List.append_assoc]
        exact readField_append (readText_quoted field.1) hread layout hlead
      have hread := readFields_members (isBlank_lineBreak layout (level + 1))
        (isBlank_lineBreak layout level) hfield (List.forall_mem_nil _) rest
      simp only [List.map_id_fun, id_eq, List.nil_append] at hread
      rw [ofChars_write_map, readValue_map depth (isBlank_lineBreak layout (level + 1))
        (head?_fieldBytes layout (level + 1) first _), hread, Option.map_some, hsorted.ofList_eq]

theorem readValue_write (layout : Layout) (level : Nat) {value : Value} {depth : Nat}
    (hsorted : value.Sorted) (hfinite : value.isFinite = true) (hdepth : value.depth ≤ depth)
    {rest : Bytes} (hrest : EndsNumeral rest) :
    readValue depth (ofChars (write layout level value) ++ rest) = some (value, rest) := by
  induction value using Value.nested generalizing level depth rest with
  | null => exact readValue_scalar (by decide) (by decide) depth _
  | boolean truth =>
      cases truth with
      | false => exact readValue_scalar (by decide) (by decide) depth _
      | true => exact readValue_scalar (by decide) (by decide) depth _
  | integer n =>
      obtain ⟨numeral, hread, hvalue⟩ := readNumeral_integerChars n hrest
      exact readValue_of_readNumeral hread hvalue depth
  | float x =>
      unfold Value.isFinite at hfinite
      obtain ⟨numeral, hread, hvalue⟩ := readNumeral_chars hfinite hrest
      rw [write, doubleChars, if_pos hfinite]
      exact readValue_of_readNumeral hread hvalue depth
  | text s => exact readValue_quote s depth rest
  | list items ih =>
      rw [Value.sorted_list_iff] at hsorted
      rw [Value.isFinite_list_iff] at hfinite
      obtain ⟨hpos, hitems⟩ := (Value.depth_list_le_iff items depth).mp hdepth
      obtain ⟨inner, rfl⟩ : ∃ inner, depth = inner + 1 := ⟨depth - 1, by omega⟩
      apply readValue_write_list layout level
      intro item hitem rest hrest
      exact ih item hitem (level + 1) (hsorted item hitem) (hfinite item hitem)
        (hitems item hitem) hrest
  | map fields ih =>
      rw [Value.sorted_map_iff] at hsorted
      rw [Value.isFinite_map_iff] at hfinite
      obtain ⟨hpos, hitems⟩ := (Value.depth_map_le_iff fields depth).mp hdepth
      obtain ⟨inner, rfl⟩ : ∃ inner, depth = inner + 1 := ⟨depth - 1, by omega⟩
      apply readValue_write_map layout level hsorted.1
      intro field hfield rest hrest
      exact ih field hfield (level + 1) (hsorted.2 field hfield) (hfinite field hfield)
        (hitems field hfield) hrest

end Json

end DocumentStore
