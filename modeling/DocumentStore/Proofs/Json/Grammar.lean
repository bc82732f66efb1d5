import DocumentStore.Json.Reader
import Mathlib.Tactic

/-!
# The grammar of JSON

Values are read and skipped along one grammar, and the items of a list and the fields of a map are
separated alike.  The grammar is stated here over the readers of its parts, and the readers of the
library are shown to follow it.
-/

namespace DocumentStore

namespace Json

section Grammar

variable {α β : Type}

/-- A text, one of the words `null`, `true` and `false`, or a numeral. -/
def scalarWith (text numeral : Bytes → Option (α × Bytes)) (null yes no : α) (input : Bytes) :
    Option (α × Bytes) :=
  match input with
  | 0x22 :: rest => text rest
  | 0x6e :: rest => (Bytes.after? [0x75, 0x6c, 0x6c] rest).map fun rest => (null, rest)
  | 0x74 :: rest => (Bytes.after? [0x72, 0x75, 0x65] rest).map fun rest => (yes, rest)
  | 0x66 :: rest => (Bytes.after? [0x61, 0x6c, 0x73, 0x65] rest).map fun rest => (no, rest)
  | _ => numeral input

/-- A list, a map or a scalar. -/
def valueWith (list map scalar : Bytes → Option (α × Bytes)) (input : Bytes) :
    Option (α × Bytes) :=
  match input with
  | 0x5b :: rest => list rest
  | 0x7b :: rest => map rest
  | _ => scalar input

/-- A list or map after its opening bracket: it is empty, or its members are read. -/
def containerWith (close : UInt8) (members : Nat → Bytes → Option (List α × Bytes))
    (make : List α → β) (input : Bytes) : Option (β × Bytes) :=
  match skipBlanks input with
  | [] => none
  | byte :: rest =>
    if byte = close then some (make [], rest)
    else (members (rest.length + 1) (byte :: rest)).map fun read => (make read.1, read.2)

/-- A reader of values is told by what it does after each first byte. -/
theorem eq_valueWith {value list map scalar : Bytes → Option (α × Bytes)}
    (hnil : value [] = scalar []) (hlist : ∀ input, value (0x5b :: input) = list input)
    (hmap : ∀ input, value (0x7b :: input) = map input)
    (hscalar : ∀ byte input, byte ≠ 0x5b → byte ≠ 0x7b →
      value (byte :: input) = scalar (byte :: input)) : value = valueWith list map scalar := by
  funext input
  rcases input with _ | ⟨byte, input⟩
  · exact hnil
  by_cases hbracket : byte = 0x5b
  · subst hbracket
    exact hlist input
  by_cases hbrace : byte = 0x7b
  · subst hbrace
    exact hmap input
  · rw [hscalar byte input hbracket hbrace]
    simp [valueWith, hbracket, hbrace]

/-- Members with commas between them, up to the closing bracket. -/
def readMembers (close : UInt8) (member : Bytes → Option (α × Bytes)) :
    Nat → Bytes → Option (List α × Bytes)
  | 0, _ => none
  | fuel + 1, input =>
    (member input).bind fun read =>
      match skipBlanks read.2 with
      | [] => none
      | byte :: rest =>
        if byte = 0x2c then
          (readMembers close member fuel rest).map fun later => (read.1 :: later.1, later.2)
        else if byte = close then some ([read.1], rest)
        else none

theorem readItems_eq (item : Bytes → Option (α × Bytes)) (fuel : Nat) :
    readItems item fuel = readMembers 0x5d (fun input => item (skipBlanks input)) fuel := by
  induction fuel with
  | zero => rfl
  | succ fuel ih =>
      funext input
      rw [readItems, readMembers, ih, Option.bind_eq_bind]
      congr 1
      funext ⟨first, rest⟩
      rcases hblank : skipBlanks rest with _ | ⟨byte, tail⟩
      · simp [hblank]
      by_cases hcomma : byte = 0x2c
      · simp [hblank, hcomma, Option.map_eq_bind]
      · by_cases hclose : byte = 0x5d <;> simp [hblank, hcomma, hclose]

theorem readFields_eq (field : Bytes → Option (α × Bytes)) (fuel : Nat) :
    readFields field fuel = readMembers 0x7d field fuel := by
  induction fuel with
  | zero => rfl
  | succ fuel ih =>
      funext input
      rw [readFields, readMembers, ih, Option.bind_eq_bind]
      congr 1
      funext ⟨first, rest⟩
      rcases hblank : skipBlanks rest with _ | ⟨byte, tail⟩
      · simp [hblank]
      by_cases hcomma : byte = 0x2c
      · simp [hblank, hcomma, Option.map_eq_bind]
      · by_cases hclose : byte = 0x7d <;> simp [hblank, hcomma, hclose]

/-- What a successful reading of members has read first. -/
theorem readMembers_eq_some {close : UInt8}
    {member : Bytes → Option (α × Bytes)} {fuel : Nat} {input rest : Bytes} {members : List α}
    (hread : readMembers close member fuel input = some (members, rest)) :
    ∃ fewer first middle later, fuel = fewer + 1 ∧ members = first :: later ∧
      member input = some (first, middle) ∧
      (skipBlanks middle = close :: rest ∧ later = [] ∨
        ∃ tail, skipBlanks middle = 0x2c :: tail ∧
          readMembers close member fewer tail = some (later, rest)) := by
  cases fuel with
  | zero => cases hread
  | succ fewer =>
      simp only [readMembers, Option.bind_eq_some_iff, Prod.exists] at hread
      obtain ⟨first, middle, hfirst, hbody⟩ := hread
      rcases hmiddle : skipBlanks middle with _ | ⟨byte, tail⟩
      · simp [hmiddle] at hbody
      simp only [hmiddle] at hbody
      split_ifs at hbody with hbyte hclose
      · obtain ⟨⟨later, after⟩, hlater, heq⟩ := Option.map_eq_some_iff.mp hbody
        cases heq
        exact ⟨fewer, first, middle, later, rfl, rfl, hfirst,
          Or.inr ⟨tail, by rw [hmiddle, hbyte], hlater⟩⟩
      · cases hbody
        exact ⟨fewer, first, middle, [], rfl, rfl, hfirst, Or.inl ⟨by rw [hmiddle, hclose], rfl⟩⟩

theorem readMembers_last {close : UInt8} (hcomma : close ≠ 0x2c)
    {member : Bytes → Option (α × Bytes)} {fuel : Nat} {input middle rest : Bytes} {first : α}
    (hfirst : member input = some (first, middle)) (hmiddle : skipBlanks middle = close :: rest) :
    readMembers close member (fuel + 1) input = some ([first], rest) := by
  simp [readMembers, hfirst, hmiddle, hcomma]

theorem readMembers_comma {close : UInt8} {member : Bytes → Option (α × Bytes)} {fuel : Nat}
    {input middle tail rest : Bytes} {first : α} {later : List α}
    (hfirst : member input = some (first, middle)) (hmiddle : skipBlanks middle = 0x2c :: tail)
    (hlater : readMembers close member fuel tail = some (later, rest)) :
    readMembers close member (fuel + 1) input = some (first :: later, rest) := by
  simp [readMembers, hfirst, hmiddle, hlater]

end Grammar

/-! ## The readers follow the grammar -/

theorem readScalar_eq :
    readScalar = scalarWith
      (fun input => (readText input).map fun read => (.text read.1, read.2))
      (fun input => (readNumeral input).bind fun read =>
        read.1.toValue?.bind fun value => some (value, read.2))
      .null (.boolean true) (.boolean false) := rfl

theorem skipScalar_eq :
    skipScalar = scalarWith
      (fun input => (scanPieces [] input).map fun read => ((), read.2))
      (fun input => (readNumeral input).map fun read => ((), read.2)) () () () := rfl

theorem readValue_succ (depth : Nat) :
    readValue (depth + 1) = valueWith
      (containerWith 0x5d (readItems (readValue depth)) .list)
      (containerWith 0x7d (readFields (readField readText fun _ => readValue depth))
        fun fields => .map (Keyed.ofList fields))
      readScalar := by
  apply eq_valueWith
  · rfl
  · intro input
    simp only [readValue, containerWith]
    rcases skipBlanks input with _ | ⟨first, tail⟩
    · rfl
    by_cases hclose : first = 0x5d <;> simp [hclose, Option.map_eq_bind]
  · intro input
    simp only [readValue, containerWith]
    rcases skipBlanks input with _ | ⟨first, tail⟩
    · rfl
    by_cases hclose : first = 0x7d <;> simp [hclose, Option.map_eq_bind, Keyed.ofList]
  · intro byte input hlist hmap
    simp [readValue, hlist, hmap]

theorem skipValue_zero : skipValue 0 = valueWith (fun _ => none) (fun _ => none) skipScalar := by
  apply eq_valueWith
  · rfl
  · exact fun _ => rfl
  · exact fun _ => rfl
  · intro byte input hlist hmap
    simp [skipValue]

theorem skipValue_succ (depth : Nat) :
    skipValue (depth + 1) = valueWith
      (containerWith 0x5d (readItems (skipValue depth)) fun _ => ())
      (containerWith 0x7d (readFields (readField
        (fun input => (scanPieces [] input).map fun read => ((), read.2))
          fun _ => skipValue depth)) fun _ => ())
      skipScalar := by
  apply eq_valueWith
  · rfl
  · intro input
    simp only [skipValue, containerWith]
    rcases skipBlanks input with _ | ⟨first, tail⟩
    · rfl
    by_cases hclose : first = 0x5d <;> simp [hclose]
  · intro input
    simp only [skipValue, containerWith]
    rcases skipBlanks input with _ | ⟨first, tail⟩
    · rfl
    by_cases hclose : first = 0x7d <;> simp [hclose]
  · intro byte input hlist hmap
    simp [skipValue, hlist, hmap]

theorem readValue_nil (depth : Nat) : readValue depth [] = none := by
  cases depth <;> rfl

theorem skipValue_nil (depth : Nat) : skipValue depth [] = none := by
  cases depth <;> rfl

end Json

end DocumentStore
