import DocumentStore.Json.Tree
import DocumentStore.Proofs.Json.Grammar
import DocumentStore.Proofs.Keyed

/-!
# What visitors make of JSON

The reader treats all visitors alike: it only builds what they make.  So if a function takes what
one visitor makes of each part to what another one makes of it (`Visitor.Hom`), it takes what the
first one makes of a whole text to what the second one makes of it.  All visitors accept the same
texts.
-/

namespace DocumentStore

namespace Json

/-! ## Reading along a function -/

section Along

variable {α β γ δ : Type} {h : α → β}

theorem scalarWith_map {text numeral : Bytes → Option (α × Bytes)}
    {text' numeral' : Bytes → Option (β × Bytes)}
    (htext : ∀ input, text' input = (text input).map (Prod.map h id))
    (hnumeral : ∀ input, numeral' input = (numeral input).map (Prod.map h id)) (null yes no : α)
    (input : Bytes) :
    scalarWith text' numeral' (h null) (h yes) (h no) input =
      (scalarWith text numeral null yes no input).map (Prod.map h id) := by
  unfold scalarWith
  split
  · exact htext _
  · rw [Option.map_map]
    rfl
  · rw [Option.map_map]
    rfl
  · rw [Option.map_map]
    rfl
  · exact hnumeral _

theorem valueWith_map {list map scalar : Bytes → Option (α × Bytes)}
    {list' map' scalar' : Bytes → Option (β × Bytes)}
    (hlist : ∀ input, list' input = (list input).map (Prod.map h id))
    (hmap : ∀ input, map' input = (map input).map (Prod.map h id))
    (hscalar : ∀ input, scalar' input = (scalar input).map (Prod.map h id)) (input : Bytes) :
    valueWith list' map' scalar' input =
      (valueWith list map scalar input).map (Prod.map h id) := by
  unfold valueWith
  split
  · exact hlist _
  · exact hmap _
  · exact hscalar _

theorem containerWith_map {g : γ → δ} {members : Nat → Bytes → Option (List α × Bytes)}
    {members' : Nat → Bytes → Option (List β × Bytes)} {make : List α → γ} {make' : List β → δ}
    (hmembers : ∀ fuel input,
      members' fuel input = (members fuel input).map (Prod.map (List.map h) id))
    (hmake : ∀ found, g (make found) = make' (found.map h)) (close : UInt8) (input : Bytes) :
    containerWith close members' make' input =
      (containerWith close members make input).map (Prod.map g id) := by
  unfold containerWith
  split
  · rfl
  · split_ifs with hclose
    · rw [Option.map_some, Prod.map_apply, hmake]
      rfl
    · rw [hmembers, Option.map_map, Option.map_map]
      congr 1
      funext read
      simp [hmake]

theorem readMembers_map {member : Bytes → Option (α × Bytes)}
    {member' : Bytes → Option (β × Bytes)}
    (hmember : ∀ input, member' input = (member input).map (Prod.map h id)) (close : UInt8)
    (fuel : Nat) (input : Bytes) :
    readMembers close member' fuel input =
      (readMembers close member fuel input).map (Prod.map (List.map h) id) := by
  induction fuel generalizing input with
  | zero => rfl
  | succ fuel ih =>
      rw [readMembers, readMembers, hmember]
      cases member input with
      | none => rfl
      | some read =>
          simp only [Option.map_some, Option.bind_some, Prod.map_snd, Prod.map_fst, id_eq]
          rcases skipBlanks read.2 with _ | ⟨byte, rest⟩
          · rfl
          · dsimp only
            split_ifs with hcomma hclose
            · rw [ih, Option.map_map, Option.map_map]
              rfl
            · rfl
            · rfl

theorem readItems_map {item : Bytes → Option (α × Bytes)} {item' : Bytes → Option (β × Bytes)}
    (hitem : ∀ input, item' input = (item input).map (Prod.map h id)) (fuel : Nat)
    (input : Bytes) :
    readItems item' fuel input = (readItems item fuel input).map (Prod.map (List.map h) id) := by
  rw [readItems_eq, readItems_eq]
  exact readMembers_map (fun input => hitem (skipBlanks input)) 0x5d fuel input

theorem readField_map {name : Bytes → Option (γ × Bytes)} {item : γ → Bytes → Option (α × Bytes)}
    {item' : γ → Bytes → Option (β × Bytes)}
    (hitem : ∀ key input, item' key input = (item key input).map (Prod.map h id))
    (input : Bytes) :
    readField name item' input =
      (readField name item input).map (Prod.map (Prod.map id h) id) := by
  unfold readField
  split
  next rest hquote =>
      cases name rest with
      | none => rfl
      | some read =>
          obtain ⟨key, after⟩ := read
          simp only [Option.bind_eq_bind, Option.bind_some]
          split
          next last hcolon =>
              rw [hitem]
              cases item key (skipBlanks last) <;> rfl
          next => rfl
  next => rfl

theorem readFields_map {field : Bytes → Option (α × Bytes)} {field' : Bytes → Option (β × Bytes)}
    (hfield : ∀ input, field' input = (field input).map (Prod.map h id)) (fuel : Nat)
    (input : Bytes) :
    readFields field' fuel input =
      (readFields field fuel input).map (Prod.map (List.map h) id) := by
  rw [readFields_eq, readFields_eq]
  exact readMembers_map hfield 0x7d fuel input

end Along

/-! ## Visitors -/

section Visitors

variable {α β : Type}

theorem visitScalar_eq (visitor : Visitor α) :
    visitScalar visitor = scalarWith
      (fun input => (readText input).map fun read => (visitor.text read.1, read.2))
      (fun input => (readNumeral input).bind fun read =>
        read.1.toNumber?.bind fun number => some (visitor.number number, read.2))
      visitor.null (visitor.boolean true) (visitor.boolean false) := rfl

theorem visitValue_succ (visitor : Visitor α) (depth : Nat) :
    visitValue visitor (depth + 1) = valueWith
      (containerWith 0x5d (readItems (visitValue visitor depth)) visitor.list)
      (containerWith 0x7d (readFields (readField readText fun _ => visitValue visitor depth))
        visitor.map)
      (visitScalar visitor) := by
  apply eq_valueWith
  · rfl
  · intro input
    simp only [visitValue, containerWith]
    rcases skipBlanks input with _ | ⟨first, tail⟩
    · rfl
    by_cases hclose : first = 0x5d <;> simp [hclose, Option.map_eq_bind]
  · intro input
    simp only [visitValue, containerWith]
    rcases skipBlanks input with _ | ⟨first, tail⟩
    · rfl
    by_cases hclose : first = 0x7d <;> simp [hclose, Option.map_eq_bind]
  · intro byte input hlist hmap
    simp [visitValue, hlist, hmap]

/-- The function takes what the first visitor makes of a part to what the second one makes of it. -/
structure Visitor.Hom (first : Visitor α) (second : Visitor β) (h : α → β) : Prop where
  null : h first.null = second.null
  boolean : ∀ truth, h (first.boolean truth) = second.boolean truth
  number : ∀ found, h (first.number found) = second.number found
  text : ∀ s, h (first.text s) = second.text s
  list : ∀ items, h (first.list items) = second.list (items.map h)
  map : ∀ fields, h (first.map fields) = second.map (Keyed.mapItems h fields)

variable {first : Visitor α} {second : Visitor β} {h : α → β}

theorem visitScalar_hom (hhom : first.Hom second h) (input : Bytes) :
    visitScalar second input = (visitScalar first input).map (Prod.map h id) := by
  rw [visitScalar_eq, visitScalar_eq, ← hhom.null, ← hhom.boolean, ← hhom.boolean]
  apply scalarWith_map
  · intro input
    rw [Option.map_map]
    congr 1
    funext read
    simp [hhom.text]
  · intro input
    cases readNumeral input with
    | none => rfl
    | some read =>
        simp only [Option.bind_some]
        cases read.1.toNumber? with
        | none => rfl
        | some found => simp [hhom.number]

theorem visitValue_hom (hhom : first.Hom second h) (depth : Nat) (input : Bytes) :
    visitValue second depth input = (visitValue first depth input).map (Prod.map h id) := by
  induction depth generalizing input with
  | zero => exact visitScalar_hom hhom input
  | succ depth ih =>
      rw [visitValue_succ, visitValue_succ]
      apply valueWith_map
      · exact containerWith_map (readItems_map ih) hhom.list 0x5d
      · exact containerWith_map (readFields_map (readField_map fun _ => ih)) hhom.map 0x7d
      · exact visitScalar_hom hhom

/-- What a text is for one visitor is determined by what it is for another one. -/
theorem visit?_hom (hhom : first.Hom second h) (depth : Nat) (input : Bytes) :
    visit? second depth input = (visit? first depth input).map h := by
  rw [visit?, visit?, visitValue_hom hhom]
  cases visitValue first depth (skipBlanks input) with
  | none => rfl
  | some read =>
      simp only [Option.map_some, Option.bind_eq_bind, Option.bind_some, Prod.map_snd,
        Prod.map_fst, id_eq]
      split_ifs <;> rfl

end Visitors

end Json

end DocumentStore
