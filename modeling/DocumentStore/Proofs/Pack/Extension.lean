import DocumentStore.Pack.Reader
import DocumentStore.Proofs.Reading

/-!
# What follows a MessagePack object

Every part of an object tells how long it is before it comes, so a reader finds the same in every
longer input and leaves what comes after the object.
-/

namespace DocumentStore

namespace Pack

theorem extends_readNat (width : Nat) : Extends (readNat width) (readNat width) :=
  (Bytes.extends_take? width).map Bytes.toNat

theorem extends_headOf (width : Nat) (head : Nat → Head) :
    Extends (headOf width head) (headOf width head) :=
  (extends_readNat width).map head

theorem extends_readHead : Extends readHead readHead := by
  intro input head rest hread more
  cases input with
  | nil => cases hread
  | cons first input =>
      simp only [List.cons_append, readHead] at hread ⊢
      split_ifs at hread ⊢
      iterate 4
        next =>
            cases hread
            rfl
      · split at hread
        all_goals first
          | exact extends_headOf _ _ hread more
          | cases hread <;> rfl
      · cases hread
        rfl

theorem extends_readText (size : Nat) : Extends (readText size) (readText size) := by
  intro input text rest hread more
  simp only [readText, Option.bind_eq_bind, Option.bind_eq_some_iff, Prod.exists] at hread ⊢
  obtain ⟨bytes, after, htake, found, htext, heq⟩ := hread
  cases heq
  exact ⟨bytes, _, Bytes.extends_take? size htake more, _, htext, rfl⟩

theorem extends_readName : Extends readName readName := by
  intro input name rest hread more
  simp only [readName, Option.bind_eq_bind, Option.bind_eq_some_iff, Prod.exists] at hread ⊢
  obtain ⟨head, after, hhead, hbody⟩ := hread
  refine ⟨head, _, extends_readHead hhead more, ?_⟩
  cases head with
  | text size => exact extends_readText size hbody more
  | binary size => exact extends_readText size hbody more
  | null | boolean | unsigned | signed | single | double | list | map | extension => cases hbody

theorem extends_readScalar (head : Head) : Extends (readScalar head) (readScalar head) := by
  intro input value rest hread more
  cases head with
  | text size => exact (extends_readText size).map Value.text hread more
  | binary size => exact (extends_readText size).map Value.text hread more
  | unsigned n =>
      simp only [readScalar] at hread ⊢
      split_ifs at hread ⊢ <;> cases hread <;> rfl
  | list | map | extension => cases hread
  | null | boolean | signed | single | double =>
      cases hread
      rfl

section Containers

variable {α β : Type}

theorem extends_readMany {item : Bytes → Option (α × Bytes)} (hitem : Extends item item)
    (count : Nat) : Extends (readMany item count) (readMany item count) := by
  intro input items rest hread more
  induction count generalizing input items with
  | zero =>
      cases hread
      rfl
  | succ count ih =>
      simp only [readMany, Option.bind_eq_bind, Option.bind_eq_some_iff, Prod.exists] at hread ⊢
      obtain ⟨first, after, hfirst, later, last, hlater, heq⟩ := hread
      cases heq
      exact ⟨first, _, hitem hfirst more, later, _, ih hlater, rfl⟩

theorem extends_readPair {key : Bytes → Option (α × Bytes)}
    {item : α → Bytes → Option (β × Bytes)} (hkey : Extends key key)
    (hitem : ∀ a, Extends (item a) (item a)) : Extends (readPair key item) (readPair key item) := by
  intro input found rest hread more
  simp only [readPair, Option.bind_eq_bind, Option.bind_eq_some_iff, Prod.exists] at hread ⊢
  obtain ⟨a, middle, ha, b, last, hb, heq⟩ := hread
  cases heq
  exact ⟨a, _, hkey ha more, b, _, hitem a hb more, rfl⟩

end Containers

theorem extends_readValue (depth : Nat) : Extends (readValue depth) (readValue depth) := by
  induction depth with
  | zero =>
      intro input value rest hread more
      simp only [readValue, Option.bind_eq_bind, Option.bind_eq_some_iff, Prod.exists] at hread ⊢
      obtain ⟨head, after, hhead, hscalar⟩ := hread
      exact ⟨head, _, extends_readHead hhead more, extends_readScalar head hscalar more⟩
  | succ depth ih =>
      intro input value rest hread more
      simp only [readValue, Option.bind_eq_bind, Option.bind_eq_some_iff, Prod.exists] at hread ⊢
      obtain ⟨head, after, hhead, hbody⟩ := hread
      refine ⟨head, _, extends_readHead hhead more, ?_⟩
      cases head with
      | list size =>
          simp only [Option.bind_eq_some_iff, Prod.exists] at hbody ⊢
          obtain ⟨items, last, hitems, heq⟩ := hbody
          cases heq
          exact ⟨items, _, extends_readMany ih size hitems more, rfl⟩
      | map size =>
          simp only [Option.bind_eq_some_iff, Prod.exists] at hbody ⊢
          obtain ⟨fields, last, hfields, heq⟩ := hbody
          cases heq
          have hfield := extends_readPair extends_readName fun _ => ih
          exact ⟨fields, _, extends_readMany hfield size hfields more, rfl⟩
      | null | boolean | unsigned | signed | single | double | text | binary | extension =>
          exact extends_readScalar _ hbody more

theorem extends_skipScalar (head : Head) : Extends (skipScalar head) (skipScalar head) := by
  intro input found rest hread more
  cases head with
  | text size => exact (Bytes.extends_take? size).map (fun _ => ()) hread more
  | binary size => exact (Bytes.extends_take? size).map (fun _ => ()) hread more
  | list | map | extension => cases hread
  | null | boolean | unsigned | signed | single | double =>
      cases hread
      rfl

theorem extends_skipValue (depth : Nat) : Extends (skipValue depth) (skipValue depth) := by
  induction depth with
  | zero =>
      intro input found rest hread more
      simp only [skipValue, Option.bind_eq_bind, Option.bind_eq_some_iff, Prod.exists] at hread ⊢
      obtain ⟨head, after, hhead, hscalar⟩ := hread
      exact ⟨head, _, extends_readHead hhead more, extends_skipScalar head hscalar more⟩
  | succ depth ih =>
      intro input found rest hread more
      simp only [skipValue, Option.bind_eq_bind, Option.bind_eq_some_iff, Prod.exists] at hread ⊢
      obtain ⟨head, after, hhead, hbody⟩ := hread
      refine ⟨head, _, extends_readHead hhead more, ?_⟩
      cases head with
      | list size => exact (extends_readMany ih size).map (fun _ => ()) hbody more
      | map size =>
          exact (extends_readMany (extends_readPair ih fun _ => ih) size).map (fun _ => ()) hbody more
      | extension size => exact (Bytes.extends_take? (size + 1)).map (fun _ => ()) hbody more
      | null | boolean | unsigned | signed | single | double | text | binary =>
          exact extends_skipScalar _ hbody more

end Pack

end DocumentStore
