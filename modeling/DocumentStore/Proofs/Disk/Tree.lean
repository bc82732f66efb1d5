import DocumentStore.Disk.Tree
import DocumentStore.Proofs.Keyed
import DocumentStore.Proofs.Result

/-!
# Changes of a tree

A change at a path is a change of the folder that holds its last step.  `Entry.refill` gives the
folder at a path other entries, and `alter` is a refill with one entry put in or taken out.  Refills
at one path cancel each other, and they keep all folders if the changed folder keeps its own.
-/

namespace DocumentStore

/-- The name of an entry: neither empty nor dots, and without a slash. -/
structure IsSimpleName (name : String) : Prop where
  ne_empty : name ≠ ""
  ne_dot : name ≠ "."
  ne_dots : name ≠ ".."
  noSlash : '/' ∉ name.toList

instance (name : String) : Decidable (IsSimpleName name) :=
  decidable_of_iff (name ≠ "" ∧ name ≠ "." ∧ name ≠ ".." ∧ '/' ∉ name.toList)
    ⟨fun ⟨hempty, hdot, hdots, hslash⟩ => ⟨hempty, hdot, hdots, hslash⟩,
      fun hname => ⟨hname.ne_empty, hname.ne_dot, hname.ne_dots, hname.noSlash⟩⟩

namespace Entry

/-! ## Well-formed trees -/

mutual
/-- The entries of every folder in the tree stand in name order, and files have simple names. -/
def WellFormed : Entry → Prop
  | file _ _ => True
  | folder entries => Keyed.Sorted entries ∧ AllWellFormed entries

def AllWellFormed : List (String × Entry) → Prop
  | [] => True
  | (name, entry) :: rest =>
    (entry.isFolder = false → IsSimpleName name) ∧ entry.WellFormed ∧ AllWellFormed rest
end

theorem wellFormed_folder_iff (entries : Keyed Entry) :
    (folder entries).WellFormed ↔ Keyed.Sorted entries ∧
      ∀ entry ∈ entries, (entry.2.isFolder = false → IsSimpleName entry.1) ∧
        entry.2.WellFormed := by
  have hall : ∀ entries : List (String × Entry), AllWellFormed entries ↔
      ∀ entry ∈ entries, (entry.2.isFolder = false → IsSimpleName entry.1) ∧
        entry.2.WellFormed := by
    intro entries
    induction entries with
    | nil => simp [AllWellFormed]
    | cons entry rest ih =>
        obtain ⟨name, item⟩ := entry
        rw [AllWellFormed, ih, List.forall_mem_cons, and_assoc]
  rw [WellFormed, hall]

theorem WellFormed.sorted {entries : Keyed Entry} (hentries : (folder entries).WellFormed) :
    Keyed.Sorted entries :=
  ((wellFormed_folder_iff entries).mp hentries).1

theorem WellFormed.insert {name : String} {entry : Entry} {entries : Keyed Entry}
    (hentries : (folder entries).WellFormed) (hentry : entry.WellFormed)
    (hname : entry.isFolder = false → IsSimpleName name) :
    (folder (Keyed.insert name entry entries)).WellFormed := by
  rw [wellFormed_folder_iff] at hentries ⊢
  refine ⟨Keyed.sorted_insert hentries.1, ?_⟩
  rintro ⟨key, item⟩ hmem
  rcases Keyed.mem_insert hmem with heq | hold
  · cases heq
    exact ⟨hname, hentry⟩
  · exact hentries.2 _ hold

theorem WellFormed.erase {entries : Keyed Entry} (hentries : (folder entries).WellFormed)
    (name : String) : (folder (Keyed.erase name entries)).WellFormed := by
  rw [wellFormed_folder_iff] at hentries ⊢
  exact ⟨Keyed.sorted_erase hentries.1, fun entry hmem =>
    hentries.2 entry (Keyed.mem_of_mem_erase hmem)⟩

theorem WellFormed.eraseAll {entries : Keyed Entry} (hentries : (folder entries).WellFormed)
    (names : List String) : (folder (Keyed.eraseAll names entries)).WellFormed := by
  induction names generalizing entries with
  | nil => exact hentries
  | cons name rest ih => exact ih (hentries.erase name)

theorem WellFormed.find? {name : String} {entry : Entry} {entries : Keyed Entry}
    (hentries : (folder entries).WellFormed) (hfind : Keyed.find? name entries = some entry) :
    entry.WellFormed :=
  (((wellFormed_folder_iff entries).mp hentries).2 _ (Keyed.mem_of_find?_eq_some hfind)).2

theorem WellFormed.simpleName {name : String} {serial : Nat} {content : Bytes}
    {entries : Keyed Entry} (hentries : (folder entries).WellFormed)
    (hfind : Keyed.find? name entries = some (file serial content)) : IsSimpleName name :=
  (((wellFormed_folder_iff entries).mp hentries).2 _ (Keyed.mem_of_find?_eq_some hfind)).1 rfl

/-! ## Paths -/

theorem find_cons_eq_ok_iff {name : String} {rest : List String} {entries : Keyed Entry}
    {entry : Entry} :
    find (name :: rest) (folder entries) = .ok entry ↔
      checkEntryName name = .ok () ∧
        ∃ next, Keyed.find? name entries = some next ∧ find rest next = .ok entry := by
  rw [find, bind_eq_ok_iff]
  constructor
  · rintro ⟨⟨⟩, hname, hrest⟩
    cases hnext : Keyed.find? name entries with
    | none => simp [hnext] at hrest
    | some next => exact ⟨hname, next, rfl, by simpa [hnext] using hrest⟩
  · rintro ⟨hname, next, hnext, hrest⟩
    exact ⟨(), hname, by simpa [hnext] using hrest⟩

/-- A folder behind a step is a folder behind the entry of that name. -/
theorem find_cons_folder {name : String} {rest : List String} {entries inner : Keyed Entry}
    (hfind : find (name :: rest) (folder entries) = .ok (folder inner)) :
    checkEntryName name = .ok () ∧ ∃ next, Keyed.find? name entries = some (folder next) ∧
      find rest (folder next) = .ok (folder inner) := by
  obtain ⟨hname, next, hnext, hrest⟩ := find_cons_eq_ok_iff.mp hfind
  cases next with
  | file serial content => cases rest <;> simp [find] at hrest
  | folder next => exact ⟨hname, next, hnext, hrest⟩

theorem find_append (first second : List String) (entry : Entry) :
    find (first ++ second) entry = (find first entry >>= find second) := by
  induction first generalizing entry with
  | nil => rfl
  | cons name rest ih =>
      cases entry with
      | file serial content => rfl
      | folder entries =>
          rw [List.cons_append, find, find]
          cases checkEntryName name with
          | error refusal => rfl
          | ok =>
              cases hnext : Keyed.find? name entries with
              | none => simp [bind, Except.bind]
              | some next => simpa [bind, Except.bind, hnext] using ih next

theorem WellFormed.find {path : List String} {entry found : Entry} (hentry : entry.WellFormed)
    (hfind : find path entry = .ok found) : found.WellFormed := by
  induction path generalizing entry with
  | nil =>
      cases hfind
      exact hentry
  | cons name rest ih =>
      cases entry with
      | file serial content => simp [Entry.find] at hfind
      | folder entries =>
          obtain ⟨-, next, hnext, hrest⟩ := find_cons_eq_ok_iff.mp hfind
          exact ih (hentry.find? hnext) hrest

/-! ## Refills -/

def refill (inner : Keyed Entry) : List String → Keyed Entry → Keyed Entry
  | [], _ => inner
  | name :: rest, entries =>
    match Keyed.find? name entries with
    | some (folder next) => Keyed.insert name (folder (refill inner rest next)) entries
    | _ => entries

theorem refill_cons {name : String} {rest : List String} {entries next : Keyed Entry}
    (hnext : Keyed.find? name entries = some (folder next)) (inner : Keyed Entry) :
    refill inner (name :: rest) entries =
      Keyed.insert name (folder (refill inner rest next)) entries := by
  rw [refill, hnext]

theorem find_refill {path : List String} {entries old : Keyed Entry}
    (hfind : find path (folder entries) = .ok (folder old)) (inner : Keyed Entry) :
    find path (folder (refill inner path entries)) = .ok (folder inner) := by
  induction path generalizing entries with
  | nil => rfl
  | cons name rest ih =>
      obtain ⟨hname, next, hnext, hrest⟩ := find_cons_folder hfind
      rw [refill_cons hnext, find_cons_eq_ok_iff]
      exact ⟨hname, _, Keyed.find?_insert_self .., ih hrest⟩

theorem refill_self {path : List String} {entries inner : Keyed Entry}
    (hentries : (folder entries).WellFormed)
    (hfind : find path (folder entries) = .ok (folder inner)) :
    refill inner path entries = entries := by
  induction path generalizing entries with
  | nil =>
      cases hfind
      rfl
  | cons name rest ih =>
      obtain ⟨-, next, hnext, hrest⟩ := find_cons_folder hfind
      rw [refill_cons hnext, ih (hentries.find? hnext) hrest]
      exact hentries.sorted.insert_find? hnext

theorem refill_refill {path : List String} {entries old : Keyed Entry}
    (hentries : (folder entries).WellFormed)
    (hfind : find path (folder entries) = .ok (folder old)) (first second : Keyed Entry) :
    refill second path (refill first path entries) = refill second path entries := by
  induction path generalizing entries with
  | nil => rfl
  | cons name rest ih =>
      obtain ⟨-, next, hnext, hrest⟩ := find_cons_folder hfind
      rw [refill_cons hnext, refill_cons (Keyed.find?_insert_self ..), refill_cons hnext,
        ih (hentries.find? hnext) hrest,
        hentries.sorted.insert_insert]

theorem WellFormed.refill {path : List String} {entries inner : Keyed Entry}
    (hentries : (folder entries).WellFormed) (hinner : (folder inner).WellFormed) :
    (folder (refill inner path entries)).WellFormed := by
  induction path generalizing entries with
  | nil => exact hinner
  | cons name rest ih =>
      unfold Entry.refill
      split
      next next hnext => exact hentries.insert (ih (hentries.find? hnext)) (by simp [isFolder])
      next => exact hentries

/-- Every folder among the entries is still there, as it was. -/
def KeepsFolders (old new : Keyed Entry) : Prop :=
  ∀ name inner, Keyed.find? name old = some (folder inner) →
    Keyed.find? name new = some (folder inner)

/-- A refill that keeps the folders of the refilled folder keeps all folders of the tree. -/
theorem find_folder_refill {path : List String} {entries old inner : Keyed Entry}
    (hfind : find path (folder entries) = .ok (folder old)) (hkeeps : KeepsFolders old inner)
    {other : List String} {found : Keyed Entry}
    (hother : find other (folder entries) = .ok (folder found)) :
    ∃ later, find other (folder (refill inner path entries)) = .ok (folder later) := by
  induction path generalizing entries other with
  | nil =>
      cases hfind
      cases other with
      | nil => exact ⟨inner, rfl⟩
      | cons name rest =>
          obtain ⟨hname, next, hnext, hrest⟩ := find_cons_folder hother
          exact ⟨found, find_cons_eq_ok_iff.mpr ⟨hname, _, hkeeps name next hnext, hrest⟩⟩
  | cons name rest ih =>
      obtain ⟨hname, next, hnext, hrest⟩ := find_cons_folder hfind
      rw [refill_cons hnext]
      cases other with
      | nil => exact ⟨_, rfl⟩
      | cons key later =>
          obtain ⟨hkey, after, hafter, hlater⟩ := find_cons_folder hother
          by_cases heq : key = name
          · subst heq
            obtain rfl : next = after := by simpa [hnext] using hafter
            obtain ⟨last, hlast⟩ := ih hrest hlater
            exact ⟨last, find_cons_eq_ok_iff.mpr ⟨hkey, _, Keyed.find?_insert_self .., hlast⟩⟩
          · have hsame : Keyed.find? key (Keyed.insert name (folder (refill inner rest next))
                entries) = some (folder after) := by
              rw [Keyed.find?_insert, if_neg heq, hafter]
            exact ⟨found, find_cons_eq_ok_iff.mpr ⟨hkey, _, hsame, hlater⟩⟩

end Entry

open Entry (refill)

/-! ## Changes -/

def put (name : String) : Option Entry → Keyed Entry → Keyed Entry
  | some entry, entries => Keyed.insert name entry entries
  | none, entries => Keyed.erase name entries

theorem find?_put_of_ne {name key : String} (hne : key ≠ name) (present : Option Entry)
    (entries : Keyed Entry) :
    Keyed.find? key (put name present entries) = Keyed.find? key entries := by
  cases present with
  | none => exact Keyed.find?_erase_of_ne hne entries
  | some entry => rw [put, Keyed.find?_insert, if_neg hne]

theorem find?_put_self {entries : Keyed Entry} (hentries : Keyed.Sorted entries) (name : String)
    (present : Option Entry) : Keyed.find? name (put name present entries) = present := by
  cases present with
  | none => exact hentries.find?_erase_self
  | some entry => exact Keyed.find?_insert_self ..

theorem Entry.WellFormed.put {entries : Keyed Entry} (hentries : (folder entries).WellFormed)
    {name : String} (hname : IsSimpleName name) {present : Option Entry}
    (hpresent : ∀ entry, present = some entry → entry.WellFormed) :
    (folder (put name present entries)).WellFormed := by
  cases present with
  | none => exact hentries.erase name
  | some entry => exact hentries.insert (hpresent entry rfl) fun _ => hname

theorem alter_append {dir : List String} {entries inner : Keyed Entry}
    (hfind : Entry.find dir (.folder entries) = .ok (.folder inner)) (name : String)
    (change : Option Entry → Except Refusal (Option Entry)) :
    alter change (dir ++ [name]) entries = (do
      checkEntryName name
      let present ← change (Keyed.find? name inner)
      return refill (put name present inner) dir entries) := by
  induction dir generalizing entries with
  | nil =>
      cases hfind
      rw [List.nil_append, alter]
      cases checkEntryName name with
      | error refusal => rfl
      | ok =>
          simp only [bind, Except.bind]
          cases change (Keyed.find? name inner) with
          | error refusal => rfl
          | ok present => cases present <;> rfl
  | cons first rest ih =>
      obtain ⟨hname, next, hnext, hrest⟩ := Entry.find_cons_folder hfind
      obtain ⟨step, later, hlater⟩ : ∃ step later, rest ++ [name] = step :: later :=
        List.exists_cons_of_ne_nil (by simp)
      have hinner := ih hrest
      rw [hlater] at hinner
      rw [List.cons_append, hlater, alter, hname]
      simp only [hnext, hinner, bind, Except.bind]
      cases checkEntryName name with
      | error refusal => rfl
      | ok =>
          cases change (Keyed.find? name inner) with
          | error refusal => rfl
          | ok present =>
              simp only [pure, Except.pure, Entry.refill_cons hnext]

/-- A change happens in the folder that holds the last step of its path. -/
theorem alter_eq_ok {change : Option Entry → Except Refusal (Option Entry)} {path : List String}
    {entries changed : Keyed Entry} (halter : alter change path entries = .ok changed) :
    ∃ dir name inner present, path = dir ++ [name] ∧
      Entry.find dir (.folder entries) = .ok (.folder inner) ∧ checkEntryName name = .ok () ∧
      change (Keyed.find? name inner) = .ok present ∧
      changed = refill (put name present inner) dir entries := by
  have hfolder : ∃ dir name inner, path = dir ++ [name] ∧
      Entry.find dir (.folder entries) = .ok (.folder inner) := by
    induction path generalizing entries changed with
    | nil => simp [alter] at halter
    | cons name rest ih =>
        cases rest with
        | nil => exact ⟨[], name, entries, rfl, rfl⟩
        | cons step later =>
            rw [alter, bind_eq_ok_iff] at halter
            obtain ⟨⟨⟩, hname, hbody⟩ := halter
            split at hbody
            next next hnext =>
                obtain ⟨below, hbelow, -⟩ := bind_eq_ok_iff.mp hbody
                obtain ⟨dir, last, inner, hpath, hfind⟩ := ih hbelow
                refine ⟨name :: dir, last, inner, by rw [hpath, List.cons_append], ?_⟩
                exact Entry.find_cons_eq_ok_iff.mpr ⟨hname, _, hnext, hfind⟩
            next => simp at hbody
            next => simp at hbody
  obtain ⟨dir, name, inner, rfl, hfind⟩ := hfolder
  rw [alter_append hfind] at halter
  simp only [bind_eq_ok_iff] at halter
  obtain ⟨⟨⟩, hname, present, hchange, heq⟩ := halter
  cases heq
  exact ⟨dir, name, inner, present, rfl, hfind, hname, hchange, rfl⟩

end DocumentStore
