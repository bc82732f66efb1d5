import DocumentStore.Proofs.Disk.Tree
import DocumentStore.Disk.Basic

/-!
# The outline of a disk

The outline of a disk has its folders and the names of its files, but neither contents nor serial
numbers.  Whether an operation is refused depends on the outline alone, and so does the outline that
it leaves behind.
-/

namespace DocumentStore

namespace Entry

mutual
/-- The entry with all files empty and of one serial number. -/
def outline : Entry → Entry
  | file _ _ => file 0 []
  | folder entries => folder (outlineAll entries)

def outlineAll : List (String × Entry) → List (String × Entry)
  | [] => []
  | (name, entry) :: rest => (name, entry.outline) :: outlineAll rest
end

theorem outlineAll_eq_map (entries : Keyed Entry) :
    outlineAll entries = entries.map fun entry => (entry.1, entry.2.outline) := by
  induction entries with
  | nil => rfl
  | cons entry rest ih =>
      obtain ⟨name, item⟩ := entry
      rw [outlineAll, ih, List.map_cons]

@[simp] theorem isFolder_outline (entry : Entry) : entry.outline.isFolder = entry.isFolder := by
  cases entry <;> rfl

theorem find?_outlineAll (name : String) (entries : Keyed Entry) :
    Keyed.find? name (outlineAll entries) = (Keyed.find? name entries).map outline := by
  rw [outlineAll_eq_map]
  exact Keyed.find?_mapItems outline name entries

theorem insert_outlineAll (name : String) (entry : Entry) (entries : Keyed Entry) :
    Keyed.insert name entry.outline (outlineAll entries) =
      outlineAll (Keyed.insert name entry entries) := by
  rw [outlineAll_eq_map, outlineAll_eq_map]
  exact Keyed.insert_mapItems outline name entry entries

theorem erase_outlineAll (name : String) (entries : Keyed Entry) :
    Keyed.erase name (outlineAll entries) = outlineAll (Keyed.erase name entries) := by
  rw [outlineAll_eq_map, outlineAll_eq_map]
  exact Keyed.erase_mapItems outline name entries

theorem find_outline (path : List String) (entry : Entry) :
    find path entry.outline = (find path entry).map outline := by
  induction path generalizing entry with
  | nil => rfl
  | cons name rest ih =>
      cases entry with
      | file serial content => rfl
      | folder entries =>
          rw [outline, find, find, find?_outlineAll]
          cases checkEntryName name with
          | error refusal => rfl
          | ok =>
              cases Keyed.find? name entries with
              | none => rfl
              | some next => exact ih next

end Entry

open Entry (outline outlineAll)

theorem alter_outline {change other : Option Entry → Except Refusal (Option Entry)}
    (hchange : ∀ present, other (present.map outline) = (change present).map (Option.map outline))
    (path : List String) (entries : Keyed Entry) :
    alter other path (outlineAll entries) = (alter change path entries).map outlineAll := by
  induction path generalizing entries with
  | nil => rfl
  | cons name rest ih =>
      cases rest with
      | nil =>
          rw [alter, alter, Entry.find?_outlineAll, hchange]
          cases checkEntryName name with
          | error refusal => rfl
          | ok =>
              cases change (Keyed.find? name entries) with
              | error refusal => rfl
              | ok present =>
                  cases present with
                  | none => exact congrArg Except.ok (Entry.erase_outlineAll name entries)
                  | some entry =>
                      exact congrArg Except.ok (Entry.insert_outlineAll name entry entries)
      | cons step later =>
          rw [alter, alter, Entry.find?_outlineAll]
          cases checkEntryName name with
          | error refusal => rfl
          | ok =>
              cases Keyed.find? name entries with
              | none => rfl
              | some next =>
                  cases next with
                  | file serial content => rfl
                  | folder inner =>
                      simp only [Option.map_some, outline, bind, Except.bind, ih]
                      cases alter change (step :: later) inner with
                      | error refusal => rfl
                      | ok below =>
                          have hinsert := Entry.insert_outlineAll name (.folder below) entries
                          exact congrArg Except.ok hinsert

namespace Disk

def outline (disk : Disk) : Disk :=
  { disk with entries := Entry.outlineAll disk.entries, nextSerial := 0 }

theorem permit_outline (location : Location) (disk : Disk) :
    disk.outline.permit location = disk.permit location := rfl

theorem find_outline (path : List String) (disk : Disk) :
    disk.outline.find path = (disk.find path).map Entry.outline :=
  Entry.find_outline path (.folder disk.entries)

theorem resolve_outline (location : Location) (disk : Disk) :
    disk.outline.resolve location = disk.resolve location := by
  have hstep : disk.outline.step = disk.step := by
    funext path name
    rw [step, step, find_outline]
    cases disk.find path with
    | error refusal => rfl
    | ok entry => cases entry <;> rfl
  rw [resolve, hstep, ← resolve]

theorem lookup_outline (location : Location) (disk : Disk) :
    disk.outline.lookup location = (disk.lookup location).map Entry.outline := by
  rw [lookup, resolve_outline, lookup]
  cases disk.resolve location with
  | error refusal => rfl
  | ok path => exact find_outline path disk

theorem has_outline (location : Location) (disk : Disk) :
    disk.outline.has location = disk.has location := by
  rw [has, lookup_outline, has]
  cases disk.lookup location <;> rfl

theorem list_outline (location : Location) (disk : Disk) :
    disk.outline.list location = (disk.list location).map Entry.outlineAll := by
  rw [list, lookup_outline, list]
  cases disk.lookup location with
  | error refusal => rfl
  | ok entry => cases entry <;> rfl

theorem change_outline {change other : Option Entry → Except Refusal (Option Entry)}
    (hchange : ∀ present,
      other (present.map Entry.outline) = (change present).map (Option.map Entry.outline))
    (location : Location) (disk : Disk) :
    (disk.change location change).map outline = disk.outline.change location other := by
  rw [Disk.change, Disk.change, permit_outline, resolve_outline]
  cases disk.permit location with
  | error refusal => rfl
  | ok =>
      cases disk.resolve location with
      | error refusal => rfl
      | ok path =>
          simp only [bind, Except.bind, outline, alter_outline hchange]
          cases alter change path disk.entries <;> rfl

theorem create_outline (location : Location) (content : Bytes) (disk : Disk) :
    (disk.create location content).map outline = disk.outline.change location fun
      | none => .ok (some (.file 0 []))
      | some _ => .error .alreadyExists := by
  rw [create, ← change_outline]
  · cases disk.change location _ <;> rfl
  · intro present
    cases present <;> rfl

theorem remove_outline (location : Location) (disk : Disk) :
    (disk.remove location).map outline = disk.outline.remove location := by
  refine change_outline (fun present => ?_) location disk
  rcases present with _ | _ | _ <;> rfl

theorem rename_outline (source target : Location) (disk : Disk) :
    (disk.rename source target).map outline = disk.outline.rename source target := by
  have hreplaceable : ∀ entry present, replaceable entry.outline (present.map Entry.outline) =
      (replaceable entry present).map (Option.map Entry.outline) := by
    intro entry present
    rcases entry with _ | _ <;> rcases present with _ | _ | _ | _ <;> rfl
  rw [rename, rename, permit_outline, permit_outline, resolve_outline, resolve_outline]
  simp only [map_bind_eq, find_outline, bind_map_eq]
  refine bind_congr fun _ => bind_congr fun _ => bind_congr fun path => bind_congr fun goal =>
    bind_congr fun entry => ?_
  rw [Entry.isFolder_outline]
  split_ifs with hsame hinside
  · rfl
  · rfl
  · simp only [map_bind_eq]
    have hentries : disk.outline.entries = outlineAll disk.entries := rfl
    have hgone : ∀ present : Option Entry, (Except.ok none : Except Refusal (Option Entry)) =
        (Except.ok none).map (Option.map Entry.outline) := fun _ => rfl
    rw [hentries, alter_outline (hreplaceable entry), bind_map_eq]
    apply bind_congr
    intro replaced
    rw [alter_outline hgone, bind_map_eq]
    rfl

end Disk

end DocumentStore
