import DocumentStore.Proofs.Bytes

/-!
# Readers and what follows their input

A reader gives what it found at the start of its input together with the rest.  `Extends` says that
more input after the rest changes nothing; a reader that stops only where its input does, as that
of a numeral, has this property only as long as something is left (`ExtendsPast`).  `Yields` says
where a reader stops, if it reads anything at all.  A reader with both properties reads nothing from
an input that is cut short.
-/

namespace DocumentStore

section Reading

variable {α β : Type} {first second : Bytes → Option (α × Bytes)}

/-- Whatever `first` reads from an input is read by `second` from every longer one. -/
def Extends (first second : Bytes → Option (α × Bytes)) : Prop :=
  ∀ ⦃input found rest⦄, first input = some (found, rest) →
    ∀ more, second (input ++ more) = some (found, rest ++ more)

/-- `Extends` for what is read from the input before its end. -/
def ExtendsPast (first second : Bytes → Option (α × Bytes)) : Prop :=
  ∀ ⦃input found rest⦄, first input = some (found, rest) → rest ≠ [] →
    ∀ more, second (input ++ more) = some (found, rest ++ more)

/-- If anything is read from the input, it has the property and leaves exactly `rest`. -/
def Yields (read : Bytes → Option (α × Bytes)) (property : α → Prop) (input rest : Bytes) : Prop :=
  ∀ ⦃found after⦄, read input = some (found, after) → property found ∧ after = rest

theorem Extends.map (f : α → β) (hextends : Extends first second) :
    Extends (fun input => (first input).map fun read => (f read.1, read.2))
      (fun input => (second input).map fun read => (f read.1, read.2)) := by
  intro input found rest hread more
  obtain ⟨⟨item, after⟩, hfirst, heq⟩ := Option.map_eq_some_iff.mp hread
  cases heq
  simp only [hextends hfirst more, Option.map_some]

theorem ExtendsPast.map (f : α → β) (hextends : ExtendsPast first second) :
    ExtendsPast (fun input => (first input).map fun read => (f read.1, read.2))
      (fun input => (second input).map fun read => (f read.1, read.2)) := by
  intro input found rest hread hrest more
  obtain ⟨⟨item, after⟩, hfirst, heq⟩ := Option.map_eq_some_iff.mp hread
  cases heq
  simp only [hextends hfirst hrest more, Option.map_some]

theorem Yields.map {read : Bytes → Option (α × Bytes)} {property : α → Prop}
    {input rest : Bytes} (hyields : Yields read property input rest) (other : β → Prop) (f : α → β)
    (hother : ∀ item, property item → other (f item)) :
    Yields (fun input => (read input).map fun read => (f read.1, read.2)) other input rest := by
  intro found after hread
  obtain ⟨⟨item, last⟩, hitem, heq⟩ := Option.map_eq_some_iff.mp hread
  cases heq
  obtain ⟨hproperty, hrest⟩ := hyields hitem
  exact ⟨hother item hproperty, hrest⟩

theorem Yields.mono {read : Bytes → Option (α × Bytes)} {property other : α → Prop}
    {input rest : Bytes} (hyields : Yields read property input rest)
    (hother : ∀ item, property item → other item) : Yields read other input rest :=
  fun _ _ hread => ⟨hother _ (hyields hread).1, (hyields hread).2⟩

theorem yields_of_eq {read : Bytes → Option (α × Bytes)} {input rest : Bytes} {item : α}
    (hread : read input = some (item, rest)) : Yields read (· = item) input rest := by
  intro found after hfound
  rw [hread] at hfound
  cases hfound
  exact ⟨rfl, rfl⟩

/-- An input that is cut off before its end is refused. -/
theorem Extends.eq_none {property : α → Prop} {torn more : Bytes}
    (hextends : Extends first second) (hmore : more ≠ [])
    (hyields : Yields second property (torn ++ more) []) : first torn = none := by
  cases hread : first torn with
  | none => rfl
  | some read =>
      obtain ⟨found, rest⟩ := read
      have hend := (hyields (hextends hread more)).2
      exact absurd (List.append_eq_nil_iff.mp hend).2 hmore

end Reading

namespace Bytes

theorem take?_eq_some_iff {count : Nat} {input taken rest : Bytes} :
    take? count input = some (taken, rest) ↔ input = taken ++ rest ∧ taken.length = count := by
  constructor
  · intro htake
    simp only [take?, List.splitAt_eq] at htake
    split_ifs at htake with hlength
    cases htake
    exact ⟨(List.take_append_drop count input).symm, hlength⟩
  · rintro ⟨rfl, hlength⟩
    exact take?_append hlength rest

theorem extends_take? (count : Nat) : Extends (take? count) (take? count) := by
  intro input taken rest htake more
  rw [take?_eq_some_iff] at htake ⊢
  rw [htake.1, List.append_assoc]
  exact ⟨rfl, htake.2⟩

theorem after?_append {start input rest : Bytes} (hafter : after? start input = some rest)
    (more : Bytes) : after? start (input ++ more) = some (rest ++ more) := by
  induction start generalizing input with
  | nil =>
      cases hafter
      rfl
  | cons byte start ih =>
      cases input with
      | nil => cases hafter
      | cons other input =>
          simp only [after?] at hafter
          split_ifs at hafter with hbyte
          rw [List.cons_append, after?, if_pos hbyte]
          exact ih hafter

end Bytes

end DocumentStore
