import DocumentStore.Proofs.Keyed

/-!
# Edits under one name

An edit puts one item under a name, takes one out, or does nothing.  It leaves the items of all other
names, and edits under two names can be made in either order.
-/

namespace DocumentStore

inductive Edit (α : Type) where
  | keep
  | put (item : α)
  | drop

namespace Edit

variable {α β : Type}

def map (f : α → β) : Edit α → Edit β
  | keep => keep
  | put item => put (f item)
  | drop => drop

def apply (name : String) : Edit α → Keyed α → Keyed α
  | keep, entries => entries
  | put item, entries => Keyed.insert name item entries
  | drop, entries => Keyed.erase name entries

theorem find?_apply_of_ne {name key : String} (hne : key ≠ name) (edit : Edit α)
    (entries : Keyed α) : Keyed.find? key (edit.apply name entries) = Keyed.find? key entries := by
  cases edit with
  | keep => rfl
  | put item => rw [apply, Keyed.find?_insert, if_neg hne]
  | drop => rw [apply, Keyed.find?_erase_of_ne hne]

theorem sorted_apply {name : String} {entries : Keyed α} (hsorted : Keyed.Sorted entries)
    (edit : Edit α) : Keyed.Sorted (edit.apply name entries) := by
  cases edit with
  | keep => exact hsorted
  | put item => exact Keyed.sorted_insert hsorted
  | drop => exact Keyed.sorted_erase hsorted

/-- What an edit leaves under its name depends only on what was there. -/
theorem find?_apply_self {name : String} {entries other : Keyed α}
    (hentries : Keyed.Sorted entries) (hother : Keyed.Sorted other)
    (hsame : Keyed.find? name entries = Keyed.find? name other) (edit : Edit α) :
    Keyed.find? name (edit.apply name entries) = Keyed.find? name (edit.apply name other) := by
  cases edit with
  | keep => exact hsame
  | put item => rw [apply, apply, Keyed.find?_insert_self, Keyed.find?_insert_self]
  | drop => rw [apply, apply, hentries.find?_erase_self, hother.find?_erase_self]

theorem apply_comm {name other : String} (hne : name ≠ other) {entries : Keyed α}
    (hsorted : Keyed.Sorted entries) (first second : Edit α) :
    second.apply other (first.apply name entries) =
      first.apply name (second.apply other entries) := by
  have hfirst : Keyed.Sorted (first.apply name entries) := sorted_apply hsorted first
  have hsecond : Keyed.Sorted (second.apply other entries) := sorted_apply hsorted second
  refine (sorted_apply hfirst second).ext (sorted_apply hsecond first) fun key => ?_
  by_cases hkey : key = name
  · subst hkey
    rw [find?_apply_of_ne hne]
    exact find?_apply_self hsorted hsecond (find?_apply_of_ne hne second entries).symm first
  · rw [find?_apply_of_ne hkey]
    by_cases hother : key = other
    · subst hother
      exact find?_apply_self hfirst hsorted (find?_apply_of_ne (Ne.symm hne) first entries) second
    · rw [find?_apply_of_ne hother, find?_apply_of_ne hother, find?_apply_of_ne hkey]

theorem mapItems_apply (f : α → β) (name : String) (edit : Edit α) (entries : Keyed α) :
    Keyed.mapItems f (edit.apply name entries) =
      (edit.map f).apply name (Keyed.mapItems f entries) := by
  cases edit with
  | keep => rfl
  | put item => exact (Keyed.insert_mapItems f name item entries).symm
  | drop => exact (Keyed.erase_mapItems f name entries).symm

end Edit

end DocumentStore
