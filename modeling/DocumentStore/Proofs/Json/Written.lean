import DocumentStore.Proofs.Json.RoundTrip
import DocumentStore.Proofs.Reading

/-!
# Where reading a written JSON value stops

A written value may be refused, as it nests too deep for the reader, or come back as another one, as
its doubles are not finite.  But whatever is read from it ends where the value ends.
-/

namespace DocumentStore

namespace Json

open Bytes (ofChars)

section Members

variable {α β : Type} {encode : β → Bytes} {found : β → α → Prop} {blanks last : Bytes}

theorem yields_readMembers {close : UInt8} (hclose : close = 0x5d ∨ close = 0x7d)
    {member : Bytes → Option (α × Bytes)} (hblanks : ∀ byte ∈ blanks, isBlank byte = true)
    (hlast : ∀ byte ∈ last, isBlank byte = true) {first : β} {entries : List β}
    (hmember : ∀ entry ∈ first :: entries, ∀ rest, EndsNumeral rest →
      ∀ lead : Bytes, (∀ byte ∈ lead, isBlank byte = true) →
        Yields member (found entry) (lead ++ (encode entry ++ rest)) rest)
    (fuel : Nat) {lead : Bytes} (hlead : ∀ byte ∈ lead, isBlank byte = true) (rest : Bytes) :
    Yields (readMembers close member fuel) (List.Forall₂ found (first :: entries))
      (lead ++ (encode first ++ laterMembers encode blanks last close rest entries)) rest := by
  intro members after hread
  have hcomma : close ≠ 0x2c := by rcases hclose with rfl | rfl <;> decide
  induction entries generalizing first fuel lead members with
  | nil =>
      obtain ⟨_, one, middle, later, -, rfl, hone, hbody⟩ := readMembers_eq_some hread
      obtain ⟨hfound, rfl⟩ := hmember first (by simp) _
        (endsNumeral_laterMembers encode blanks hlast hclose rest []) lead hlead hone
      rw [skipBlanks_laterMembers_nil hlast hclose] at hbody
      rcases hbody with ⟨hend, rfl⟩ | ⟨tail, hend, -⟩
      · exact ⟨.cons hfound .nil, (List.cons.inj hend).2.symm⟩
      · exact absurd (List.cons.inj hend).1 hcomma
  | cons second entries ih =>
      obtain ⟨fewer, one, middle, later, -, rfl, hone, hbody⟩ := readMembers_eq_some hread
      obtain ⟨hfound, rfl⟩ := hmember first (by simp) _
        (endsNumeral_laterMembers encode blanks hlast hclose rest (second :: entries)) lead hlead
        hone
      rw [laterMembers, skipBlanks_cons rfl] at hbody
      rcases hbody with ⟨hend, -⟩ | ⟨tail, hend, hlater⟩
      · exact absurd (List.cons.inj hend).1.symm hcomma
      · rw [← (List.cons.inj hend).2] at hlater
        obtain ⟨hrest, rfl⟩ := ih (fun entry hentry => hmember entry (List.mem_cons_of_mem _ hentry))
          fewer hblanks hlater
        exact ⟨.cons hfound hrest, rfl⟩

end Members

theorem yields_readField {α β : Type} {name : Bytes → Option (α × Bytes)}
    (item : α → Bytes → Option (β × Bytes)) {s : String} {key : α} {property : β → Prop}
    {input rest : Bytes}
    (hname : ∀ rest, name (ofChars (s.toList.flatMap escapeChar) ++ 0x22 :: rest) =
      some (key, rest))
    (hitem : Yields (item key) property (skipBlanks input) rest) (layout : Layout) {lead : Bytes}
    (hlead : ∀ byte ∈ lead, isBlank byte = true) :
    Yields (readField name item) (fun found => found.1 = key ∧ property found.2)
      (lead ++ (ofChars (quote s) ++ (ofChars (colon layout) ++ input))) rest := by
  intro found after hread
  rw [readField_quoted hname layout hlead] at hread
  have hmap := hitem.map (fun found => found.1 = key ∧ property found.2)
    (fun value => (key, value)) fun _ hvalue => ⟨rfl, hvalue⟩
  exact hmap hread

/-! ## Values -/

theorem yields_readValue_scalar (layout : Layout) (level : Nat) (value : Value)
    (hsorted : value.Sorted) (hfinite : value.isFinite = true) (hscalar : value.depth = 0)
    (depth : Nat) {rest : Bytes} (hrest : EndsNumeral rest) :
    Yields (readValue depth) (fun found => found.StandsFor value)
      (ofChars (write layout level value) ++ rest) rest := by
  have hread := readValue_write layout level hsorted hfinite (by omega : value.depth ≤ depth) hrest
  exact (yields_of_eq hread).mono fun _ heq _ _ => heq

theorem yields_readValue_list (layout : Layout) (level : Nat) {items : List Value} {depth : Nat}
    (hitems : ∀ item ∈ items, ∀ rest, EndsNumeral rest →
      Yields (readValue depth) (fun found => found.StandsFor item)
        (ofChars (write layout (level + 1) item) ++ rest) rest) (rest : Bytes) :
    Yields (readValue (depth + 1)) (fun _ => True)
      (ofChars (write layout level (.list items)) ++ rest) rest := by
  cases items with
  | nil =>
      have hread : readValue (depth + 1) (ofChars (write layout level (.list [])) ++ rest) =
          some (.list [], rest) := rfl
      exact (yields_of_eq hread).mono fun _ _ => trivial
  | cons first items =>
      have hitem : ∀ item ∈ first :: items, ∀ rest, EndsNumeral rest →
          ∀ lead : Bytes, (∀ byte ∈ lead, isBlank byte = true) →
            Yields (fun input => readValue depth (skipBlanks input))
              (fun found => found.StandsFor item)
              (lead ++ (ofChars (write layout (level + 1) item) ++ rest)) rest := by
        intro item hitem rest hrest lead hlead found after hread
        have hstart := (startsValue_write layout (level + 1) item).append rest
        beta_reduce at hread
        rw [skipBlanks_append hlead, hstart.skipBlanks_eq] at hread
        exact hitems item hitem rest hrest hread
      intro found after hread
      have hstart := startsValue_write layout (level + 1) first
      rw [ofChars_write_list,
        readValue_list depth (isBlank_lineBreak layout (level + 1)) (hstart.append _),
        readItems_eq] at hread
      have hmembers := fun fuel => yields_readMembers (Or.inl rfl) (isBlank_lineBreak layout (level + 1))
        (isBlank_lineBreak layout level) hitem fuel (List.forall_mem_nil _) rest
      exact ((hmembers _).map (fun _ => True) Value.list fun _ _ => trivial) hread

theorem yields_readValue_map (layout : Layout) (level : Nat) {fields : Keyed Value} {depth : Nat}
    (hfields : ∀ field ∈ fields, ∀ rest, EndsNumeral rest →
      Yields (readValue depth) (fun found => found.StandsFor field.2)
        (ofChars (write layout (level + 1) field.2) ++ rest) rest) (rest : Bytes) :
    Yields (readValue (depth + 1)) (fun _ => True)
      (ofChars (write layout level (.map fields)) ++ rest) rest := by
  cases fields with
  | nil =>
      have hread : readValue (depth + 1) (ofChars (write layout level (.map [])) ++ rest) =
          some (.map [], rest) := rfl
      exact (yields_of_eq hread).mono fun _ _ => trivial
  | cons first fields =>
      have hfield : ∀ field ∈ first :: fields, ∀ rest, EndsNumeral rest →
          ∀ lead : Bytes, (∀ byte ∈ lead, isBlank byte = true) →
            Yields (readField readText fun _ => readValue depth)
              (fun found => found.1 = field.1 ∧ found.2.StandsFor field.2)
              (lead ++ (fieldBytes layout (level + 1) field ++ rest)) rest := by
        intro field hfield rest hrest lead hlead
        have hstart := (startsValue_write layout (level + 1) field.2).append rest
        have hitem := hfields field hfield rest hrest
        rw [← hstart.skipBlanks_eq] at hitem
        rw [fieldBytes, List.append_assoc, List.append_assoc]
        exact yields_readField (fun _ => readValue depth) (readText_quoted field.1) hitem layout
          hlead
      intro found after hread
      rw [ofChars_write_map, readValue_map depth (isBlank_lineBreak layout (level + 1))
        (head?_fieldBytes layout (level + 1) first _), readFields_eq] at hread
      have hmembers := fun fuel => yields_readMembers (Or.inr rfl) (isBlank_lineBreak layout (level + 1))
        (isBlank_lineBreak layout level) hfield fuel (List.forall_mem_nil _) rest
      exact ((hmembers _).map (fun _ => True) (fun fields => Value.map (Keyed.ofList fields))
        fun _ _ => trivial) hread

/-- Whatever is read from a written value ends with it, and a finite scalar comes back. -/
theorem yields_readValue_write (layout : Layout) (level : Nat) (value : Value) (depth : Nat)
    {rest : Bytes} (hrest : EndsNumeral rest) :
    Yields (readValue depth) (fun found => found.StandsFor value)
      (ofChars (write layout level value) ++ rest) rest := by
  induction value using Value.nested generalizing level depth rest with
  | null => exact yields_readValue_scalar layout level .null trivial rfl rfl depth hrest
  | boolean truth =>
      exact yields_readValue_scalar layout level (.boolean truth) trivial rfl rfl depth hrest
  | integer n =>
      exact yields_readValue_scalar layout level (.integer n) trivial rfl rfl depth hrest
  | text s => exact yields_readValue_scalar layout level (.text s) trivial rfl rfl depth hrest
  | float x =>
      by_cases hfinite : x.isFinite = true
      · exact yields_readValue_scalar layout level (.float x) trivial hfinite rfl depth hrest
      · have hnull := yields_readValue_scalar layout level .null trivial rfl rfl depth hrest
        rw [write, doubleChars, if_neg hfinite]
        exact hnull.mono fun _ _ _ hother => absurd hother hfinite
  | list items ih =>
      cases depth with
      | zero =>
          intro found after hread
          cases items <;> cases hread
      | succ depth =>
          have hread := yields_readValue_list layout level
            (fun item hitem rest hrest => ih item hitem (level + 1) depth hrest) rest
          exact hread.mono fun _ _ hscalar => absurd hscalar (Nat.succ_ne_zero _)
  | map fields ih =>
      cases depth with
      | zero =>
          intro found after hread
          cases fields <;> cases hread
      | succ depth =>
          have hread := yields_readValue_map layout level
            (fun field hfield rest hrest => ih field hfield (level + 1) depth hrest) rest
          exact hread.mono fun _ _ hscalar => absurd hscalar (Nat.succ_ne_zero _)

end Json

end DocumentStore
