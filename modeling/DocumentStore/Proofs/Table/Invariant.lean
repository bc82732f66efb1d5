import DocumentStore.Table.Basic
import DocumentStore.Proofs.Result
import DocumentStore.Proofs.Value

/-!
# The id invariant of tables

In a valid table every record has an integer or a text as its id, the ids in use are those of the
records, none repeats, and the counter stands above all integer ids unless it has reached its end.
Rebuilding a table from its parts accepts exactly the parts of valid tables, and every operation on
tables keeps a table valid.
-/

namespace DocumentStore

/-- The key of a record, if its id is an integer or a text. -/
def Record.key? (record : Record) : Option Key :=
  Key.ofValue? record.id

namespace Key

/-- The counter does not give this key out any more. -/
def Below (nextId : Int64) : Key → Prop
  | integer n => n < nextId ∨ nextId = Int64.maxValue
  | text _ => True

/-- The counter after this key has come into use. -/
def reserve (nextId : Int64) : Key → Int64
  | integer n => if nextId ≤ n then nextAfter n else nextId
  | text _ => nextId

end Key

structure Table.Valid (table : Table) : Prop where
  keyed : ∀ record ∈ table.records, ∃ key, record.key? = some key
  ids_eq : table.ids = table.records.filterMap Record.key?
  distinct : table.ids.Nodup
  below : ∀ key ∈ table.ids, key.Below table.nextId

/-! ## The counter -/

theorem le_nextAfter (n : Int64) : n < nextAfter n ∨ nextAfter n = Int64.maxValue := by
  unfold nextAfter
  split_ifs with hmax
  · exact Or.inr hmax
  · left
    have hne : n.toInt ≠ Int64.maxValue.toInt := fun heq => hmax (Int64.toInt_inj.mp heq)
    have hlow := n.le_toInt
    have hhigh := n.toInt_lt
    rw [Int64.toInt_maxValue] at hne
    have hone : (1 : Int64).toInt = 1 := rfl
    rw [Int64.lt_iff_toInt_lt, Int64.toInt_add, hone,
      Int.bmod_eq_of_le (by omega) (by omega)]
    omega

theorem Key.Below.of_le {nextId later : Int64} {key : Key} (hbelow : key.Below nextId)
    (hle : nextId ≤ later) : key.Below later := by
  cases key with
  | text s => trivial
  | integer n =>
      rcases hbelow with hlt | hmax
      · left
        rw [Int64.lt_iff_toInt_lt] at hlt ⊢
        rw [Int64.le_iff_toInt_le] at hle
        omega
      · right
        subst hmax
        have hhigh := later.toInt_lt
        rw [Int64.le_iff_toInt_le, Int64.toInt_maxValue] at hle
        rw [← Int64.toInt_inj, Int64.toInt_maxValue]
        omega

theorem le_of_nextAfter {nextId n : Int64} (hle : nextId ≤ n) : nextId ≤ nextAfter n := by
  have hhigh := nextId.toInt_lt
  rw [Int64.le_iff_toInt_le] at hle ⊢
  rcases le_nextAfter n with hlt | hmax
  · rw [Int64.lt_iff_toInt_lt] at hlt
    omega
  · rw [hmax, Int64.toInt_maxValue]
    omega

theorem Key.le_reserve (nextId : Int64) (key : Key) : nextId ≤ key.reserve nextId := by
  cases key with
  | text s => exact Int64.le_refl nextId
  | integer n =>
      simp only [Key.reserve]
      split_ifs with hle
      · exact le_of_nextAfter hle
      · exact Int64.le_refl nextId

theorem Key.below_reserve (nextId : Int64) (key : Key) : key.Below (key.reserve nextId) := by
  cases key with
  | text s => trivial
  | integer n =>
      simp only [Key.reserve, Key.Below]
      split_ifs with hle
      · exact le_nextAfter n
      · exact Or.inl (Int64.not_le.mp hle)

theorem Key.not_below_iff {nextId n : Int64} :
    ¬ Key.Below nextId (.integer n) ↔ nextId ≤ n ∧ nextId ≠ Int64.maxValue := by
  rw [Key.Below, not_or, Int64.not_lt]

/-! ## Rebuilding a table from its parts -/

namespace Table

/-- What is wrong with a record that comes after records with the keys `seen`.  The kind of its id
is looked at first, then the counter, and then the keys before. -/
inductive Flaw (nextId : Int64) (seen : List Key) (position : Nat) (record : Record) :
    TableFault → Prop
  | idKind (unkeyed : record.key? = none) :
      Flaw nextId seen position record (.idKind position record.id.kind)
  | staleCounter {n : Int64} (keyed : record.key? = some (.integer n))
      (stale : ¬ Key.Below nextId (.integer n)) :
      Flaw nextId seen position record (.staleCounter position n nextId)
  | duplicateId {key : Key} (keyed : record.key? = some key) (below : key.Below nextId)
      (held : key ∈ seen) : Flaw nextId seen position record (.duplicateId position record.id)

theorem fits_or_flawed (nextId : Int64) (seen : List Key) (position : Nat) (record : Record) :
    (∃ key, record.key? = some key ∧ key.Below nextId ∧ key ∉ seen) ∨
      ∃ fault, Flaw nextId seen position record fault := by
  cases hkey : record.key? with
  | none => exact Or.inr ⟨_, .idKind hkey⟩
  | some key =>
      by_cases hbelow : key.Below nextId
      · by_cases hseen : key ∈ seen
        · exact Or.inr ⟨_, .duplicateId hkey hbelow hseen⟩
        · exact Or.inl ⟨key, rfl, hbelow, hseen⟩
      · cases key with
        | integer n => exact Or.inr ⟨_, .staleCounter hkey hbelow⟩
        | text s => exact absurd trivial hbelow

section Steps

variable {nextId : Int64} {seen : List Key} {position : Nat} {record : Record} {fault : TableFault}
  {key : Key}

theorem Flaw.mem_of_below (hflaw : Flaw nextId seen position record fault)
    (hkey : record.key? = some key) (hbelow : key.Below nextId) : key ∈ seen := by
  cases hflaw with
  | idKind unkeyed => simp [unkeyed] at hkey
  | staleCounter keyed stale =>
      cases hkey.symm.trans keyed
      exact absurd hbelow stale
  | duplicateId keyed below held =>
      cases hkey.symm.trans keyed
      exact held

theorem collectIds_of_flaw (hflaw : Flaw nextId seen position record fault) (rest : List Record) :
    collectIds nextId position seen (record :: rest) = .error fault := by
  cases hflaw with
  | idKind unkeyed =>
      have hid : Key.ofValue? record.id = none := unkeyed
      simp only [collectIds, hid]
  | @staleCounter n keyed stale =>
      have hid : Key.ofValue? record.id = some (.integer n) := keyed
      simp only [collectIds, hid, if_pos (Key.not_below_iff.mp stale)]
  | @duplicateId key keyed below held =>
      have hid : Key.ofValue? record.id = some key := keyed
      cases key with
      | integer n =>
          have hrunning := fun hstale => Key.not_below_iff.mpr hstale below
          simp [collectIds, hid, if_neg hrunning, held]
      | text s => simp [collectIds, hid, held]

/-- Both kinds of keys end in the same look-up, and only integers meet the counter. -/
theorem collectIds_of_fits (hkey : record.key? = some key) (hbelow : key.Below nextId)
    (hnew : key ∉ seen) (position : Nat) (rest : List Record) :
    collectIds nextId position seen (record :: rest) =
      (collectIds nextId (position + 1) (key :: seen) rest).map (key :: ·) := by
  have hid : Key.ofValue? record.id = some key := hkey
  cases key with
  | integer n =>
      have hrunning := fun hstale => Key.not_below_iff.mpr hstale hbelow
      simp [collectIds, hid, if_neg hrunning, hnew]
  | text s => simp [collectIds, hid, hnew]

end Steps

/-- Ids are collected exactly if there is one for each record, they are new, they do not repeat and
they lie below the counter. -/
theorem collectIds_eq_ok_iff (nextId : Int64) (position : Nat) (seen ids : List Key)
    (records : List Record) :
    collectIds nextId position seen records = .ok ids ↔
      (∀ record ∈ records, ∃ key, record.key? = some key) ∧
        ids = records.filterMap Record.key? ∧ ids.Nodup ∧
        (∀ key ∈ ids, key ∉ seen) ∧ ∀ key ∈ ids, key.Below nextId := by
  induction records generalizing position seen ids with
  | nil =>
      simp only [collectIds, Except.ok.injEq, List.filterMap_nil]
      constructor
      · rintro rfl
        simp
      · rintro ⟨-, rfl, -⟩
        rfl
  | cons record rest ih =>
      rcases fits_or_flawed nextId seen position record with
        ⟨key, hkey, hbelow, hseen⟩ | ⟨fault, hflaw⟩
      · rw [collectIds_of_fits hkey hbelow hseen, map_eq_ok_iff]
        simp only [ih, List.filterMap_cons, hkey, List.forall_mem_cons]
        constructor
        · rintro ⟨later, ⟨hkeyed, rfl, hnodup, hnew, hlow⟩, rfl⟩
          refine ⟨⟨⟨key, rfl⟩, hkeyed⟩, rfl, ?_, ?_, ?_⟩
          · exact List.nodup_cons.mpr ⟨fun hmem => hnew key hmem (by simp), hnodup⟩
          · exact List.forall_mem_cons.mpr
              ⟨hseen, fun other hother hmem => hnew other hother (List.mem_cons_of_mem _ hmem)⟩
          · exact List.forall_mem_cons.mpr ⟨hbelow, hlow⟩
        · rintro ⟨⟨-, hkeyed⟩, rfl, hnodup, hnew, hlow⟩
          obtain ⟨hfirst, hrest⟩ := List.nodup_cons.mp hnodup
          refine ⟨_, ⟨hkeyed, rfl, hrest, ?_, (List.forall_mem_cons.mp hlow).2⟩, rfl⟩
          intro other hother hmem
          rcases List.mem_cons.mp hmem with rfl | hold
          · exact hfirst hother
          · exact hnew other (List.mem_cons_of_mem _ hother) hold
      · rw [collectIds_of_flaw hflaw]
        simp only [reduceCtorEq, false_iff]
        rintro ⟨hkeyed, rfl, -, hnew, hlow⟩
        obtain ⟨key, hkey⟩ := hkeyed record (by simp)
        have hmem : key ∈ (record :: rest).filterMap Record.key? := by simp [hkey]
        exact hnew key hmem (hflaw.mem_of_below hkey (hlow key hmem))

theorem ofParts?_eq_ok_iff (records : List Record) (nextId : Int64) (table : Table) :
    ofParts? records nextId = .ok table ↔
      table.Valid ∧ table.records = records ∧ table.nextId = nextId := by
  have hparts : ofParts? records nextId = .ok table ↔
      ∃ ids, collectIds nextId 0 [] records = .ok ids ∧ ⟨records, ids, nextId⟩ = table := by
    simp only [ofParts?, bind_eq_ok_iff, pure_eq_ok_iff]
  rw [hparts]
  constructor
  · rintro ⟨ids, hids, rfl⟩
    obtain ⟨hkeyed, hids_eq, hdistinct, -, hbelow⟩ := (collectIds_eq_ok_iff ..).mp hids
    exact ⟨⟨hkeyed, hids_eq, hdistinct, hbelow⟩, rfl, rfl⟩
  · rintro ⟨hvalid, rfl, rfl⟩
    exact ⟨table.ids, (collectIds_eq_ok_iff ..).mpr
      ⟨hvalid.keyed, hvalid.ids_eq, hvalid.distinct, by simp, hvalid.below⟩, rfl⟩

theorem Valid.ofParts?_eq {table : Table} (hvalid : table.Valid) :
    ofParts? table.records table.nextId = .ok table :=
  (ofParts?_eq_ok_iff ..).mpr ⟨hvalid, rfl, rfl⟩

theorem valid_empty : empty.Valid :=
  ⟨by simp [empty], rfl, List.nodup_nil, by simp [empty]⟩

end Table

end DocumentStore
