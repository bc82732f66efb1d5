import DocumentStore.Disk.Basic
import DocumentStore.Proofs.Disk.Tree
import DocumentStore.Proofs.Edit

/-!
# The contents of a disk

The contents of a disk are its folders and files without their serial numbers.  A refill of a folder
changes the contents as it changes the tree.
-/

namespace DocumentStore

namespace Entry

mutual
/-- The entry with all files of one serial number. -/
def contents : Entry → Entry
  | file _ content => file 0 content
  | folder entries => folder (contentsAll entries)

def contentsAll : List (String × Entry) → List (String × Entry)
  | [] => []
  | (name, entry) :: rest => (name, entry.contents) :: contentsAll rest
end

theorem contentsAll_eq_mapItems (entries : Keyed Entry) :
    contentsAll entries = Keyed.mapItems contents entries := by
  induction entries with
  | nil => rfl
  | cons entry rest ih =>
      obtain ⟨name, item⟩ := entry
      rw [contentsAll, ih]
      rfl

theorem contentsAll_refill (inner : Keyed Entry) (path : List String) (entries : Keyed Entry) :
    contentsAll (refill inner path entries) =
      refill (contentsAll inner) path (contentsAll entries) := by
  induction path generalizing entries with
  | nil => rfl
  | cons name rest ih =>
      have hfind : Keyed.find? name (contentsAll entries) =
          (Keyed.find? name entries).map contents := by
        rw [contentsAll_eq_mapItems, Keyed.find?_mapItems]
      rw [refill, refill, hfind]
      cases hnext : Keyed.find? name entries with
      | none => rfl
      | some next =>
          cases next with
          | file serial content => rfl
          | folder found =>
              simp only [Option.map_some, contents]
              rw [← ih, contentsAll_eq_mapItems, contentsAll_eq_mapItems entries,
                ← Keyed.insert_mapItems, contents]

theorem sorted_contentsAll {entries : Keyed Entry} (hentries : Keyed.Sorted entries) :
    Keyed.Sorted (contentsAll entries) := by
  rw [contentsAll_eq_mapItems, Keyed.Sorted, Keyed.names_mapItems]
  exact hentries

end Entry

/-- The disks have the same folders and files; their files may have other serial numbers. -/
def Disk.SameContents (disk other : Disk) : Prop :=
  Entry.contentsAll disk.entries = Entry.contentsAll other.entries

end DocumentStore
