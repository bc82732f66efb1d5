import DocumentStore.Keyed
import Mathlib.Data.String.Basic
import Mathlib.Tactic

/-!
# Laws of entries in name order

What a look-up sees after an insertion or a removal needs no order of the names.  The order makes
a list of entries the only one with its look-ups (`Keyed.Sorted.ext`), so two histories that leave
the same items under the same names leave the same list.
-/

namespace DocumentStore

namespace Keyed

variable {α : Type}

@[simp] theorem find?_nil (name : String) : find? name ([] : Keyed α) = none := rfl

theorem find?_cons (name key : String) (item : α) (rest : Keyed α) :
    find? name ((key, item) :: rest) = if key = name then some item else find? name rest := rfl

theorem find?_insert (name key : String) (item : α) (entries : Keyed α) :
    find? key (insert name item entries) =
      if key = name then some item else find? key entries := by
  induction entries with
  | nil =>
      by_cases hkey : key = name
      · simp [insert, find?, hkey]
      · simp [insert, find?, hkey, Ne.symm hkey]
  | cons entry rest ih =>
      obtain ⟨other, old⟩ := entry
      by_cases hlt : name < other
      · by_cases hkey : key = name
        · simp [insert, hlt, find?, hkey]
        · simp [insert, hlt, find?, hkey, Ne.symm hkey]
      · by_cases heq : other = name
        · by_cases hkey : key = name
          · simp [insert, heq, find?, hkey]
          · simp [insert, heq, find?, hkey, Ne.symm hkey]
        · simp only [insert, if_neg hlt, if_neg heq, find?_cons, ih]
          by_cases hother : other = key
          · subst hother
            simp [heq]
          · simp [hother]

@[simp] theorem find?_insert_self (name : String) (item : α) (entries : Keyed α) :
    find? name (insert name item entries) = some item := by
  simp [find?_insert]

theorem find?_erase_of_ne {name key : String} (hne : key ≠ name) (entries : Keyed α) :
    find? key (erase name entries) = find? key entries := by
  induction entries with
  | nil => rfl
  | cons entry rest ih =>
      obtain ⟨other, old⟩ := entry
      simp only [erase]
      split_ifs with heq
      · subst heq
        simp [find?, Ne.symm hne]
      · simp [find?, ih]

theorem erase_insert_of_find?_none {name : String} {entries : Keyed α}
    (habsent : find? name entries = none) (item : α) :
    erase name (insert name item entries) = entries := by
  induction entries with
  | nil => simp [insert, erase]
  | cons entry rest ih =>
      obtain ⟨other, old⟩ := entry
      simp only [find?] at habsent
      split_ifs at habsent with heq
      simp only [insert]
      split_ifs with hlt
      · simp [erase]
      · simp [erase, heq, ih habsent]

theorem erase_of_find?_none {name : String} {entries : Keyed α}
    (habsent : find? name entries = none) : erase name entries = entries := by
  induction entries with
  | nil => rfl
  | cons entry rest ih =>
      obtain ⟨other, old⟩ := entry
      simp only [find?] at habsent
      split_ifs at habsent with heq
      rw [erase, if_neg heq, ih habsent]

theorem mem_names_of_mem {name : String} {item : α} {entries : Keyed α}
    (hmem : (name, item) ∈ entries) : name ∈ names entries :=
  List.mem_map.mpr ⟨_, hmem, rfl⟩

theorem mem_of_find?_eq_some {name : String} {item : α} {entries : Keyed α}
    (hfind : find? name entries = some item) : (name, item) ∈ entries := by
  induction entries with
  | nil => simp [find?] at hfind
  | cons entry rest ih =>
      obtain ⟨other, old⟩ := entry
      simp only [find?] at hfind
      split_ifs at hfind with heq
      · cases hfind
        simp [heq]
      · exact List.mem_cons_of_mem _ (ih hfind)

theorem find?_eq_none_iff (name : String) (entries : Keyed α) :
    find? name entries = none ↔ name ∉ names entries := by
  induction entries with
  | nil => simp [names]
  | cons entry rest ih =>
      obtain ⟨other, old⟩ := entry
      by_cases heq : other = name
      · simp [find?, names, heq]
      · have hrest : name ∉ names ((other, old) :: rest) ↔ name ∉ names rest := by
          simp [names, Ne.symm heq]
        rw [hrest, ← ih, find?_cons, if_neg heq]

theorem mem_names_insert {name key : String} {item : α} {entries : Keyed α} :
    key ∈ names (insert name item entries) ↔ key = name ∨ key ∈ names entries := by
  rw [← not_iff_not, not_or, ← find?_eq_none_iff, ← find?_eq_none_iff, find?_insert]
  split_ifs with hkey <;> simp [hkey]

theorem mem_insert {name key : String} {item found : α} {entries : Keyed α}
    (hmem : (key, found) ∈ insert name item entries) :
    (key, found) = (name, item) ∨ (key, found) ∈ entries := by
  induction entries with
  | nil => simpa [insert] using hmem
  | cons entry rest ih =>
      obtain ⟨other, old⟩ := entry
      simp only [insert] at hmem
      split_ifs at hmem with hlt heq
      · simpa using hmem
      · rcases List.mem_cons.mp hmem with hhead | htail
        · exact Or.inl hhead
        · exact Or.inr (List.mem_cons_of_mem _ htail)
      · rcases List.mem_cons.mp hmem with hhead | htail
        · exact Or.inr (by simp [hhead])
        · rcases ih htail with hnew | hold
          · exact Or.inl hnew
          · exact Or.inr (List.mem_cons_of_mem _ hold)

theorem mem_of_mem_erase {name : String} {entry : String × α} {entries : Keyed α}
    (hmem : entry ∈ erase name entries) : entry ∈ entries := by
  induction entries with
  | nil => simp [erase] at hmem
  | cons head rest ih =>
      obtain ⟨other, old⟩ := head
      simp only [erase] at hmem
      split_ifs at hmem with heq
      · exact List.mem_cons_of_mem _ hmem
      · rcases List.mem_cons.mp hmem with hhead | htail
        · simp [hhead]
        · exact List.mem_cons_of_mem _ (ih htail)

/-! ## Sorted entries -/

@[simp] theorem sorted_nil : Sorted ([] : Keyed α) :=
  List.Pairwise.nil

theorem sorted_cons {name : String} {item : α} {rest : Keyed α} :
    Sorted ((name, item) :: rest) ↔ (∀ key ∈ names rest, name < key) ∧ Sorted rest :=
  List.pairwise_cons

theorem sorted_insert {name : String} {item : α} {entries : Keyed α}
    (hsorted : Sorted entries) : Sorted (insert name item entries) := by
  induction entries with
  | nil => exact sorted_cons.mpr ⟨by simp [names], sorted_nil⟩
  | cons entry rest ih =>
      obtain ⟨other, old⟩ := entry
      obtain ⟨hfirst, hrest⟩ := sorted_cons.mp hsorted
      simp only [insert]
      split_ifs with hlt heq
      · refine sorted_cons.mpr ⟨fun key hkey => ?_, hsorted⟩
        rcases List.mem_cons.mp hkey with hhead | htail
        · exact hhead ▸ hlt
        · exact lt_trans hlt (hfirst key htail)
      · subst heq
        exact sorted_cons.mpr ⟨hfirst, hrest⟩
      · have hother : other < name := lt_of_le_of_ne (not_lt.mp hlt) heq
        refine sorted_cons.mpr ⟨fun key hkey => ?_, ih hrest⟩
        rcases mem_names_insert.mp hkey with hname | hold
        · exact hname ▸ hother
        · exact hfirst key hold

theorem sorted_erase {name : String} {entries : Keyed α}
    (hsorted : Sorted entries) : Sorted (erase name entries) := by
  induction entries with
  | nil => exact sorted_nil
  | cons entry rest ih =>
      obtain ⟨other, old⟩ := entry
      obtain ⟨hfirst, hrest⟩ := sorted_cons.mp hsorted
      simp only [erase]
      split_ifs with heq
      · exact hrest
      · refine sorted_cons.mpr ⟨fun key hkey => ?_, ih hrest⟩
        obtain ⟨found, hmem, rfl⟩ := List.mem_map.mp hkey
        exact hfirst _ (mem_names_of_mem (mem_of_mem_erase hmem))

theorem Sorted.find?_erase_self {name : String} {entries : Keyed α} (hsorted : Sorted entries) :
    find? name (erase name entries) = none := by
  induction entries with
  | nil => rfl
  | cons entry rest ih =>
      obtain ⟨other, old⟩ := entry
      obtain ⟨hfirst, hrest⟩ := sorted_cons.mp hsorted
      simp only [erase]
      split_ifs with heq
      · subst heq
        rw [find?_eq_none_iff]
        intro hmem
        exact lt_irrefl _ (hfirst other hmem)
      · rw [find?_cons, if_neg heq, ih hrest]

theorem Sorted.find?_erase {name : String} {entries : Keyed α} (hsorted : Sorted entries)
    (key : String) :
    find? key (erase name entries) = if key = name then none else find? key entries := by
  split_ifs with heq
  · subst heq
    exact hsorted.find?_erase_self
  · exact find?_erase_of_ne heq entries

theorem Sorted.find?_eq_some_iff {name : String} {item : α} {entries : Keyed α}
    (hsorted : Sorted entries) : find? name entries = some item ↔ (name, item) ∈ entries := by
  constructor
  · exact mem_of_find?_eq_some
  · intro hmem
    induction entries with
    | nil => simp at hmem
    | cons entry rest ih =>
        obtain ⟨other, old⟩ := entry
        obtain ⟨hfirst, hrest⟩ := sorted_cons.mp hsorted
        rcases List.mem_cons.mp hmem with hhead | htail
        · cases hhead
          simp [find?]
        · have hne : other ≠ name := (hfirst name (mem_names_of_mem htail)).ne
          rw [find?_cons, if_neg hne, ih hrest htail]

/-- Sorted entries are determined by their look-ups. -/
theorem Sorted.ext {left right : Keyed α} (hleft : Sorted left) (hright : Sorted right)
    (hsame : ∀ name, find? name left = find? name right) : left = right := by
  have hmem : ∀ entry, entry ∈ left ↔ entry ∈ right := by
    intro ⟨name, item⟩
    rw [← hleft.find?_eq_some_iff, ← hright.find?_eq_some_iff, hsame]
  have hnodup : ∀ {entries : Keyed α}, Sorted entries → entries.Nodup := fun hsorted =>
    List.Nodup.of_map Prod.fst (List.Pairwise.imp (fun hlt => ne_of_lt hlt) hsorted)
  have hpairs : ∀ {entries : Keyed α}, Sorted entries →
      entries.Pairwise fun first second => first.1 < second.1 := fun hsorted =>
    List.pairwise_map.mp hsorted
  refine List.Perm.eq_of_pairwise (fun first second _ _ hlt hgt => ?_) (hpairs hleft)
    (hpairs hright) ((List.perm_ext_iff_of_nodup (hnodup hleft) (hnodup hright)).mpr hmem)
  exact absurd hgt (lt_asymm hlt)

theorem Sorted.insert_find? {name : String} {item : α} {entries : Keyed α}
    (hsorted : Sorted entries) (hfind : find? name entries = some item) :
    insert name item entries = entries := by
  apply (sorted_insert hsorted).ext hsorted
  intro key
  rw [find?_insert]
  split_ifs with heq
  · rw [heq, hfind]
  · rfl

theorem Sorted.insert_insert {name : String} {first second : α} {entries : Keyed α}
    (hsorted : Sorted entries) :
    insert name second (insert name first entries) = insert name second entries := by
  apply (sorted_insert (sorted_insert hsorted)).ext (sorted_insert hsorted)
  intro key
  simp only [find?_insert]
  split_ifs <;> rfl

theorem sorted_foldl_insert {entries changes : Keyed α} (hsorted : Sorted entries) :
    Sorted (changes.foldl (fun found entry => insert entry.1 entry.2 found) entries) := by
  induction changes generalizing entries with
  | nil => exact hsorted
  | cons change rest ih => exact ih (sorted_insert hsorted)

theorem sorted_ofList (entries : List (String × α)) : Sorted (ofList entries) :=
  sorted_foldl_insert sorted_nil

theorem sorted_merge {entries changes : Keyed α} (hsorted : Sorted entries) :
    Sorted (merge entries changes) :=
  sorted_foldl_insert hsorted

theorem mem_merge {entry : String × α} {entries changes : Keyed α}
    (hmem : entry ∈ merge entries changes) : entry ∈ entries ∨ entry ∈ changes := by
  induction changes generalizing entries with
  | nil => exact Or.inl hmem
  | cons change rest ih =>
      rcases ih hmem with hinserted | hrest
      · rcases mem_insert hinserted with hchange | hold
        · have hentry : entry = change := hchange
          exact Or.inr (by simp [hentry])
        · exact Or.inl hold
      · exact Or.inr (List.mem_cons_of_mem _ hrest)

theorem mem_of_mem_ofList {entry : String × α} {entries : List (String × α)}
    (hmem : entry ∈ ofList entries) : entry ∈ entries :=
  (mem_merge hmem).resolve_left (by simp)

theorem find?_merge_of_notMem {name : String} {entries changes : Keyed α}
    (habsent : name ∉ names changes) : find? name (merge entries changes) = find? name entries := by
  induction changes generalizing entries with
  | nil => rfl
  | cons change rest ih =>
      simp only [names, List.map_cons, List.mem_cons, not_or] at habsent
      change find? name (merge (insert change.1 change.2 entries) rest) = _
      rw [ih habsent.2, find?_insert, if_neg habsent.1]

theorem mem_names_merge {name : String} {entries changes : Keyed α} :
    name ∈ names (merge entries changes) ↔ name ∈ names entries ∨ name ∈ names changes := by
  induction changes generalizing entries with
  | nil => simp [merge, names]
  | cons change rest ih =>
      change name ∈ names (merge (insert change.1 change.2 entries) rest) ↔ _
      have hchanges : name ∈ names (change :: rest) ↔ name = change.1 ∨ name ∈ names rest :=
        List.mem_cons
      rw [ih, mem_names_insert, hchanges]
      tauto

theorem mem_names_ofList {name : String} {entries : List (String × α)} :
    name ∈ names (ofList entries) ↔ name ∈ entries.map Prod.fst := by
  have hmerge : ofList entries = merge [] entries := rfl
  rw [hmerge, mem_names_merge]
  simp [names]

theorem Sorted.find?_merge {changes : Keyed α} (hsorted : Sorted changes) (name : String)
    (entries : Keyed α) :
    find? name (merge entries changes) = (find? name changes).or (find? name entries) := by
  induction changes generalizing entries with
  | nil => rfl
  | cons change rest ih =>
      obtain ⟨key, item⟩ := change
      obtain ⟨hfirst, hrest⟩ := sorted_cons.mp hsorted
      change find? name (merge (insert key item entries) rest) = _
      rw [ih hrest, find?_insert, find?_cons]
      by_cases heq : key = name
      · subst heq
        have habsent : find? key rest = none :=
          (find?_eq_none_iff key rest).mpr fun hmem => String.lt_irrefl key (hfirst key hmem)
        simp [habsent]
      · simp [heq, Ne.symm heq]

private theorem insert_append {entries : Keyed α} {name : String} (item : α)
    (hlast : ∀ key ∈ names entries, key < name) :
    insert name item entries = entries ++ [(name, item)] := by
  induction entries with
  | nil => rfl
  | cons entry rest ih =>
      obtain ⟨other, old⟩ := entry
      have hother : other < name := hlast other (by simp [names])
      have hrest : ∀ key ∈ names rest, key < name := fun key hkey =>
        hlast key (List.mem_cons_of_mem _ hkey)
      simp [insert, not_lt_of_gt hother, hother.ne, ih hrest]

theorem Sorted.ofList_eq {entries : Keyed α} (hsorted : Sorted entries) :
    ofList entries = entries := by
  have happend : ∀ (todo done : Keyed α), Sorted (done ++ todo) →
      todo.foldl (fun found entry => insert entry.1 entry.2 found) done = done ++ todo := by
    intro todo
    induction todo with
    | nil => simp
    | cons entry rest ih =>
        intro done hall
        have hlast : ∀ key ∈ names done, key < entry.1 := by
          intro key hkey
          rw [Sorted, names, List.map_append, List.pairwise_append] at hall
          exact hall.2.2 key hkey entry.1 (by simp)
        have hassoc : done ++ entry :: rest = (done ++ [entry]) ++ rest := by simp
        rw [List.foldl_cons, insert_append entry.2 hlast, hassoc]
        exact ih _ (hassoc ▸ hall)
  simpa [ofList] using happend entries [] (by simpa using hsorted)

/-! ## Several names -/

def eraseAll (names : List String) (entries : Keyed α) : Keyed α :=
  names.foldl (fun left name => erase name left) entries

theorem sorted_eraseAll {names : List String} {entries : Keyed α} (hsorted : Sorted entries) :
    Sorted (eraseAll names entries) := by
  induction names generalizing entries with
  | nil => exact hsorted
  | cons name rest ih => exact ih (sorted_erase hsorted)

theorem Sorted.find?_eraseAll {entries : Keyed α} (hsorted : Sorted entries)
    (names : List String) (key : String) :
    find? key (eraseAll names entries) = if key ∈ names then none else find? key entries := by
  induction names generalizing entries with
  | nil => simp [eraseAll]
  | cons name rest ih =>
      have herased : Sorted (erase name entries) := sorted_erase hsorted
      rw [eraseAll, List.foldl_cons, ← eraseAll, ih herased, hsorted.find?_erase]
      by_cases hkey : key = name <;> simp [hkey]

theorem Sorted.mem_names_eraseAll {entries : Keyed α} (hsorted : Sorted entries)
    {names : List String} {key : String} :
    key ∈ Keyed.names (eraseAll names entries) ↔ key ∉ names ∧ key ∈ Keyed.names entries := by
  rw [← not_iff_not, ← find?_eq_none_iff, hsorted.find?_eraseAll, not_and]
  by_cases hkey : key ∈ names <;> simp [hkey, find?_eq_none_iff]

/-! ## Changes of all items -/

def mapItems {β : Type} (f : α → β) (entries : Keyed α) : Keyed β :=
  entries.map fun entry => (entry.1, f entry.2)

section MapItems

variable {β : Type} (f : α → β)

theorem names_mapItems (entries : Keyed α) : names (mapItems f entries) = names entries := by
  rw [names, mapItems, List.map_map]
  rfl

theorem find?_mapItems (name : String) (entries : Keyed α) :
    find? name (mapItems f entries) = (find? name entries).map f := by
  induction entries with
  | nil => rfl
  | cons entry rest ih =>
      change find? name ((entry.1, f entry.2) :: mapItems f rest) = _
      simp only [find?, ih]
      split_ifs <;> rfl

theorem insert_mapItems (name : String) (item : α) (entries : Keyed α) :
    insert name (f item) (mapItems f entries) = mapItems f (insert name item entries) := by
  induction entries with
  | nil => rfl
  | cons entry rest ih =>
      change insert name (f item) ((entry.1, f entry.2) :: mapItems f rest) = _
      simp only [insert, ih]
      split_ifs <;> rfl

theorem erase_mapItems (name : String) (entries : Keyed α) :
    erase name (mapItems f entries) = mapItems f (erase name entries) := by
  induction entries with
  | nil => rfl
  | cons entry rest ih =>
      change erase name ((entry.1, f entry.2) :: mapItems f rest) = _
      simp only [erase, ih]
      split_ifs <;> rfl

theorem ofList_mapItems (entries : List (String × α)) :
    ofList (mapItems f entries) = mapItems f (ofList entries) := by
  have hfold : ∀ found : Keyed α,
      (mapItems f entries).foldl (fun found entry => insert entry.1 entry.2 found)
          (mapItems f found) =
        mapItems f (entries.foldl (fun found entry => insert entry.1 entry.2 found) found) := by
    induction entries with
    | nil => exact fun _ => rfl
    | cons entry rest ih =>
        intro found
        change (mapItems f rest).foldl _ (insert entry.1 (f entry.2) (mapItems f found)) = _
        rw [insert_mapItems]
        exact ih (insert entry.1 entry.2 found)
  exact hfold []

end MapItems

end Keyed

end DocumentStore
