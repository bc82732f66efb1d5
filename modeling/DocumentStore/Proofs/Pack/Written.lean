import DocumentStore.Proofs.Pack.Accepted
import DocumentStore.Proofs.Pack.RoundTrip
import DocumentStore.Proofs.Reading

/-!
# Where reading a written MessagePack object stops

A written value whose sizes fit may be refused, as it nests too deep for the reader, or come back
with its maps in order.  But whatever is read from it ends where the value ends.
-/

namespace DocumentStore

namespace Pack

section Containers

variable {α β γ : Type}

theorem yields_readMany {item : Bytes → Option (α × Bytes)} {encode : γ → Bytes}
    {found : γ → α → Prop} {entries : List γ}
    (hitem : ∀ entry ∈ entries, ∀ rest,
      Yields item (found entry) (encode entry ++ rest) rest) (rest : Bytes) :
    Yields (readMany item entries.length) (List.Forall₂ found entries)
      (entries.flatMap encode ++ rest) rest := by
  intro items after hread
  induction entries generalizing items with
  | nil =>
      cases hread
      exact ⟨.nil, rfl⟩
  | cons entry entries ih =>
      simp only [List.length_cons, readMany, Option.bind_eq_bind, Option.bind_eq_some_iff,
        Prod.exists] at hread
      obtain ⟨first, middle, hfirst, later, last, hlater, heq⟩ := hread
      cases heq
      rw [List.flatMap_cons, List.append_assoc] at hfirst
      obtain ⟨hfound, rfl⟩ := hitem entry (by simp) _ hfirst
      obtain ⟨hrest, rfl⟩ := ih (fun other hother => hitem other (List.mem_cons_of_mem _ hother))
        hlater
      exact ⟨.cons hfound hrest, rfl⟩

theorem yields_readPair {key : Bytes → Option (α × Bytes)} (item : α → Bytes → Option (β × Bytes))
    {first second : Bytes} {a : α} {property : β → Prop}
    (hkey : ∀ rest, key (first ++ rest) = some (a, rest))
    (hitem : ∀ rest, Yields (item a) property (second ++ rest) rest) (rest : Bytes) :
    Yields (readPair key item) (fun found => found.1 = a ∧ property found.2)
      (first ++ second ++ rest) rest := by
  intro found after hread
  obtain ⟨middle, hfirst, hsecond⟩ := readPair_eq_some hread
  rw [List.append_assoc, hkey] at hfirst
  obtain ⟨ha, rfl⟩ := Prod.mk.inj (Option.some.inj hfirst)
  rw [← ha] at hsecond
  obtain ⟨hproperty, hrest⟩ := hitem rest hsecond
  exact ⟨⟨ha.symm, hproperty⟩, hrest⟩

end Containers

theorem yields_readValue_scalar (value : Value) (hsorted : value.Sorted) (hfits : Fits value)
    (hscalar : value.depth = 0) (depth : Nat) (rest : Bytes) :
    Yields (readValue depth) (fun found => found.StandsFor value) (write value ++ rest) rest := by
  have hread := readValue_write hsorted hfits (by omega : value.depth ≤ depth) rest
  exact (yields_of_eq hread).mono fun _ heq _ _ => heq

/-- Whatever is read from a written value ends with it, and a scalar comes back. -/
theorem yields_readValue_write {value : Value} (hfits : Fits value) (depth : Nat) (rest : Bytes) :
    Yields (readValue depth) (fun found => found.StandsFor value) (write value ++ rest) rest := by
  induction value using Value.nested generalizing depth rest with
  | null => exact yields_readValue_scalar .null trivial hfits rfl depth rest
  | boolean truth =>
      exact yields_readValue_scalar (.boolean truth) trivial hfits rfl depth rest
  | integer n => exact yields_readValue_scalar (.integer n) trivial hfits rfl depth rest
  | float x => exact yields_readValue_scalar (.float x) trivial hfits rfl depth rest
  | text s => exact yields_readValue_scalar (.text s) trivial hfits rfl depth rest
  | list items ih =>
      rw [Fits, allFit_iff] at hfits
      intro found after hread
      rw [write, List.append_assoc] at hread
      cases depth with
      | zero => 
          rw [readValue, readHead_listHeader hfits.1] at hread
          cases hread
      | succ depth =>
          have hitem : ∀ item ∈ items, ∀ rest,
              Yields (readValue depth) (fun found => found.StandsFor item) (write item ++ rest)
                rest := fun item hitem rest => ih item hitem (hfits.2 item hitem) depth rest
          rw [readValue, readHead_listHeader hfits.1, writeItems_eq_flatMap] at hread
          simp only [Option.bind_eq_bind, Option.bind_some, Option.bind_eq_some_iff,
            Prod.exists] at hread
          obtain ⟨members, last, hmembers, heq⟩ := hread
          cases heq
          exact ⟨fun hscalar => absurd hscalar (Nat.succ_ne_zero _),
            (yields_readMany hitem rest hmembers).2⟩
  | map fields ih =>
      rw [Fits, fieldsFit_iff] at hfits
      intro found after hread
      rw [write, List.append_assoc] at hread
      cases depth with
      | zero =>
          rw [readValue, readHead_mapHeader hfits.1] at hread
          cases hread
      | succ depth =>
          have hfield : ∀ field ∈ fields, ∀ rest,
              Yields (readPair readName fun _ => readValue depth)
                (fun found => found.1 = field.1 ∧ found.2.StandsFor field.2)
                (writeText field.1 ++ write field.2 ++ rest) rest := fun field hfield rest =>
            yields_readPair (fun _ => readValue depth)
              (readName_writeText (hfits.2 field hfield).1)
              (ih field hfield (hfits.2 field hfield).2 depth) rest
          rw [readValue, readHead_mapHeader hfits.1, writeFields_eq_flatMap] at hread
          simp only [Option.bind_eq_bind, Option.bind_some, Option.bind_eq_some_iff,
            Prod.exists] at hread
          obtain ⟨members, last, hmembers, heq⟩ := hread
          cases heq
          exact ⟨fun hscalar => absurd hscalar (Nat.succ_ne_zero _),
            (yields_readMany hfield rest hmembers).2⟩

end Pack

end DocumentStore
