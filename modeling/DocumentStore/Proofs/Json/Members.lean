import DocumentStore.Proofs.Json.Grammar
import DocumentStore.Proofs.Json.Numeral
import DocumentStore.Proofs.Json.Text

/-!
# Members of JSON lists and maps are read back

The items of a list and the fields of a map are written with blanks and commas between them.  If
each of them is read back then all of them are, and the length of the input is fuel enough.
-/

namespace DocumentStore

namespace Json

open Bytes (ofChars ofChars_nil ofChars_cons ofChars_append)

/-! ## Blanks -/

theorem skipBlanks_append {blanks : Bytes} (hblanks : ∀ byte ∈ blanks, isBlank byte = true)
    (input : Bytes) : skipBlanks (blanks ++ input) = skipBlanks input :=
  List.dropWhile_append_of_pos hblanks

theorem skipBlanks_cons {byte : UInt8} (hbyte : isBlank byte = false) (input : Bytes) :
    skipBlanks (byte :: input) = byte :: input := by
  simp [skipBlanks, hbyte]

theorem isBlank_lineBreak (layout : Layout) (level : Nat) :
    ∀ byte ∈ ofChars (lineBreak layout level), isBlank byte = true := by
  have hspaces : ∀ count : Nat, ∀ byte ∈ ofChars (List.replicate count ' '),
      isBlank byte = true := by
    intro count
    induction count with
    | zero => simp
    | succ count ih =>
        rw [List.replicate_succ, ofChars_cons]
        exact List.forall_mem_cons.mpr ⟨rfl, ih⟩
  cases layout with
  | compact => simp [lineBreak]
  | indented =>
      rw [lineBreak, ofChars_cons]
      exact List.forall_mem_cons.mpr ⟨rfl, hspaces _⟩

theorem endsNumeral_cons {byte : UInt8} (hdigit : isDigit byte = false) (hpoint : byte ≠ 0x2e)
    (hlower : byte ≠ 0x65) (hupper : byte ≠ 0x45) (rest : Bytes) : EndsNumeral (byte :: rest) := by
  intro first hfirst
  cases hfirst
  exact ⟨hdigit, hpoint, hlower, hupper⟩

theorem EndsNumeral.blanks {blanks rest : Bytes} (hrest : EndsNumeral rest)
    (hblanks : ∀ byte ∈ blanks, isBlank byte = true) : EndsNumeral (blanks ++ rest) := by
  cases blanks with
  | nil => exact hrest
  | cons byte blanks =>
      have hblank := hblanks byte (by simp)
      simp only [isBlank, Bool.or_eq_true, beq_iff_eq] at hblank
      rcases hblank with ((rfl | rfl) | rfl) | rfl <;>
        exact endsNumeral_cons rfl (by decide) (by decide) (by decide) _

/-! ## Members of lists and maps -/

section Members

variable {α β : Type}

/-- The members after the first one, each after a comma, and the end of the list or map. -/
def laterMembers (encode : β → Bytes) (blanks last : Bytes) (close : UInt8) (rest : Bytes) :
    List β → Bytes
  | [] => last ++ close :: rest
  | entry :: entries =>
    0x2c :: (blanks ++ (encode entry ++ laterMembers encode blanks last close rest entries))

theorem length_lt_laterMembers (encode : β → Bytes) (blanks last : Bytes) (close : UInt8)
    (rest : Bytes) (entries : List β) :
    entries.length < (laterMembers encode blanks last close rest entries).length := by
  induction entries with
  | nil => simp [laterMembers]
  | cons entry entries ih =>
      simp only [laterMembers, List.length_cons, List.length_append]
      omega

theorem endsNumeral_laterMembers (encode : β → Bytes) (blanks : Bytes) {last : Bytes}
    (hlast : ∀ byte ∈ last, isBlank byte = true) {close : UInt8}
    (hclose : close = 0x5d ∨ close = 0x7d) (rest : Bytes) (entries : List β) :
    EndsNumeral (laterMembers encode blanks last close rest entries) := by
  cases entries with
  | nil =>
      have hend : EndsNumeral (close :: rest) := by
        rcases hclose with rfl | rfl <;>
          exact endsNumeral_cons rfl (by decide) (by decide) (by decide) _
      exact hend.blanks hlast
  | cons entry entries => exact endsNumeral_cons rfl (by decide) (by decide) (by decide) _

variable {encode : β → Bytes} {found : β → α} {blanks last : Bytes}

theorem skipBlanks_laterMembers_nil (hlast : ∀ byte ∈ last, isBlank byte = true) {close : UInt8}
    (hclose : close = 0x5d ∨ close = 0x7d) (rest : Bytes) :
    skipBlanks (laterMembers encode blanks last close rest []) = close :: rest := by
  rw [laterMembers, skipBlanks_append hlast]
  rcases hclose with rfl | rfl <;> rw [skipBlanks_cons rfl]

theorem readMembers_laterMembers {close : UInt8} (hclose : close = 0x5d ∨ close = 0x7d)
    {member : Bytes → Option (α × Bytes)} (hblanks : ∀ byte ∈ blanks, isBlank byte = true)
    (hlast : ∀ byte ∈ last, isBlank byte = true) {first : β} {entries : List β}
    (hmember : ∀ entry ∈ first :: entries, ∀ rest, EndsNumeral rest →
      ∀ lead : Bytes, (∀ byte ∈ lead, isBlank byte = true) →
        member (lead ++ (encode entry ++ rest)) = some (found entry, rest))
    {fuel : Nat} (hfuel : entries.length < fuel) {lead : Bytes}
    (hlead : ∀ byte ∈ lead, isBlank byte = true) (rest : Bytes) :
    readMembers close member fuel
        (lead ++ (encode first ++ laterMembers encode blanks last close rest entries)) =
      some (found first :: entries.map found, rest) := by
  have hcomma : close ≠ 0x2c := by rcases hclose with rfl | rfl <;> decide
  induction entries generalizing first fuel lead with
  | nil =>
      obtain ⟨fuel, rfl⟩ : ∃ more, fuel = more + 1 := ⟨fuel - 1, by omega⟩
      have hfirst := hmember first (by simp) _
        (endsNumeral_laterMembers encode blanks hlast hclose rest []) lead hlead
      exact readMembers_last hcomma hfirst (skipBlanks_laterMembers_nil hlast hclose rest)
  | cons second entries ih =>
      obtain ⟨fuel, rfl⟩ : ∃ more, fuel = more + 1 := ⟨fuel - 1, by omega⟩
      have hfirst := hmember first (by simp) _
        (endsNumeral_laterMembers encode blanks hlast hclose rest (second :: entries)) lead hlead
      have hrest := ih (fun entry hentry => hmember entry (List.mem_cons_of_mem _ hentry))
        (by simpa using hfuel) hblanks
      exact readMembers_comma hfirst (skipBlanks_cons rfl _) hrest

/-- Items are read up to the end of their list, with the length of the input as fuel. -/
theorem readItems_members {item : Bytes → Option (α × Bytes)}
    (hblanks : ∀ byte ∈ blanks, isBlank byte = true)
    (hlast : ∀ byte ∈ last, isBlank byte = true) {first : β} {entries : List β}
    (hitem : ∀ entry ∈ first :: entries, ∀ rest, EndsNumeral rest →
      item (skipBlanks (encode entry ++ rest)) = some (found entry, rest)) (rest : Bytes) :
    let input := encode first ++ laterMembers encode blanks last 0x5d rest entries
    readItems item input.length input = some (found first :: entries.map found, rest) := by
  have hlength := length_lt_laterMembers encode blanks last 0x5d rest entries
  have hmember : ∀ entry ∈ first :: entries, ∀ rest, EndsNumeral rest →
      ∀ lead : Bytes, (∀ byte ∈ lead, isBlank byte = true) →
        item (skipBlanks (lead ++ (encode entry ++ rest))) = some (found entry, rest) := by
    intro entry hentry rest hrest lead hlead
    rw [skipBlanks_append hlead]
    exact hitem entry hentry rest hrest
  intro input
  rw [readItems_eq]
  refine readMembers_laterMembers (Or.inl rfl) hblanks hlast hmember ?_ (List.forall_mem_nil _) rest
  rw [List.length_append]
  omega

/-- Fields are read up to the end of their map, with the length of the input as fuel. -/
theorem readFields_members {field : Bytes → Option (α × Bytes)}
    (hblanks : ∀ byte ∈ blanks, isBlank byte = true)
    (hlast : ∀ byte ∈ last, isBlank byte = true) {first : β} {entries : List β}
    (hfield : ∀ entry ∈ first :: entries, ∀ rest, EndsNumeral rest →
      ∀ lead : Bytes, (∀ byte ∈ lead, isBlank byte = true) →
        field (lead ++ (encode entry ++ rest)) = some (found entry, rest))
    {lead : Bytes} (hlead : ∀ byte ∈ lead, isBlank byte = true) (rest : Bytes) :
    let input := lead ++ (encode first ++ laterMembers encode blanks last 0x7d rest entries)
    readFields field input.length input = some (found first :: entries.map found, rest) := by
  have hlength := length_lt_laterMembers encode blanks last 0x7d rest entries
  intro input
  rw [readFields_eq]
  refine readMembers_laterMembers (Or.inr rfl) hblanks hlast hfield ?_ hlead rest
  rw [List.length_append, List.length_append]
  omega

end Members

/-- The name of a written field is read as it is, and then its item. -/
theorem readField_quoted {α β : Type} {name : Bytes → Option (α × Bytes)}
    {item : α → Bytes → Option (β × Bytes)} {s : String} {key : α}
    (hname : ∀ rest, name (ofChars (s.toList.flatMap escapeChar) ++ 0x22 :: rest) =
      some (key, rest)) (layout : Layout) {lead : Bytes}
    (hlead : ∀ byte ∈ lead, isBlank byte = true) (input : Bytes) :
    readField name item (lead ++ (ofChars (quote s) ++ (ofChars (colon layout) ++ input))) =
      (item key (skipBlanks input)).map fun read => ((key, read.1), read.2) := by
  have hcolon : ∃ blanks : Bytes, ofChars (colon layout) = 0x3a :: blanks ∧
      ∀ byte ∈ blanks, isBlank byte = true := by
    cases layout with
    | compact => exact ⟨[], rfl, by simp⟩
    | indented => exact ⟨[0x20], rfl, List.forall_mem_singleton.mpr rfl⟩
  obtain ⟨blanks, hcolon, hblanks⟩ := hcolon
  rw [ofChars_quote, readField, skipBlanks_append hlead, List.cons_append, skipBlanks_cons rfl]
  simp only [List.append_assoc, List.singleton_append, hname, Option.bind_eq_bind,
    Option.bind_some]
  rw [hcolon, List.cons_append, skipBlanks_cons rfl]
  simp [skipBlanks_append hblanks, Option.map_eq_bind]

theorem readField_append {α β : Type} {name : Bytes → Option (α × Bytes)}
    {item : α → Bytes → Option (β × Bytes)} {s : String} {key : α} {value : β}
    {encoded rest : Bytes}
    (hname : ∀ rest, name (ofChars (s.toList.flatMap escapeChar) ++ 0x22 :: rest) =
      some (key, rest))
    (hitem : item key (skipBlanks (encoded ++ rest)) = some (value, rest)) (layout : Layout)
    {lead : Bytes} (hlead : ∀ byte ∈ lead, isBlank byte = true) :
    readField name item
        (lead ++ (ofChars (quote s) ++ (ofChars (colon layout) ++ (encoded ++ rest)))) =
      some ((key, value), rest) := by
  rw [readField_quoted hname layout hlead, hitem, Option.map_some]

end Json

end DocumentStore
