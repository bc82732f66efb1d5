import DocumentStore.Proofs.Table.Change
import Mathlib.Logic.Relation

/-!
# Tables reached by their operations

`Table.Change` is one operation on a table and `Table.Reaches` any number of them.  Validity and
every property of stored fields that storable values have are kept all the way.
-/

namespace DocumentStore

namespace Record

theorem Holds.insert {property : Value → Prop} {record : Record} (hrecord : record.Holds property)
    {name : String} {item : Value} (hitem : property item) :
    Holds property ⟨Keyed.insert name item record.fields⟩ := by
  refine ⟨Keyed.sorted_insert hrecord.sorted, ?_⟩
  rintro ⟨key, found⟩ hmem
  rcases Keyed.mem_insert hmem with hnew | hold
  · cases hnew
    exact hitem
  · exact hrecord.fields _ hold

theorem Holds.merge {property : Value → Prop} {record : Record} (hrecord : record.Holds property)
    {changes : Keyed Value} (hchanges : ∀ change ∈ changes, property change.2) :
    (record.merge changes).Holds property := by
  refine ⟨Keyed.sorted_merge hrecord.sorted, fun field hfield => ?_⟩
  rcases Keyed.mem_merge hfield with hold | hnew
  · exact hrecord.fields field hold
  · exact hchanges field hnew

/-- Changes without an id keep the id of a record. -/
theorem id_merge {record : Record} {changes : Keyed Value}
    (hid : Keyed.contains idField changes = false) : (record.merge changes).id = record.id := by
  have habsent : idField ∉ Keyed.names changes := by
    rw [← Keyed.find?_eq_none_iff]
    simpa [Keyed.contains] using hid
  simp [id, field, get?, merge, Keyed.find?_merge_of_notMem habsent]

theorem key?_merge {record : Record} {changes : Keyed Value}
    (hid : Keyed.contains idField changes = false) :
    (record.merge changes).key? = record.key? := by
  rw [key?, key?, id_merge hid]

end Record

/-- Lists and maps in the value are sorted, and a table may store it. -/
structure Value.Storable (value : Value) : Prop where
  sorted : value.Sorted
  finite : value.isFinite = true
  depth : value.depth ≤ maxNesting

namespace Table

/-! ## Validity -/

theorem Valid.push {table prepared : Table} {name : String} {fields : Value} {record : Record}
    (hvalid : table.Valid) (hprepare : table.prepare name fields = .ok (record, prepared)) :
    (prepared.push record).Valid := by
  obtain ⟨entries, key, -, -, hkey, hfree, rfl, -⟩ := prepare_eq_ok hprepare
  have hid : Key.ofValue? record.id = some key := hkey
  have hids : (Table.push record { table with nextId := key.reserve table.nextId }).ids =
      table.ids ++ [key] := by
    simp [Table.push, hid]
  constructor
  · intro other hother
    rcases List.mem_append.mp hother with hold | hnew
    · exact hvalid.keyed other hold
    · rw [List.mem_singleton.mp hnew]
      exact ⟨key, hkey⟩
  · rw [hids, hvalid.ids_eq]
    simp [Table.push, hkey]
  · rw [hids]
    exact List.nodup_append.mpr ⟨hvalid.distinct, List.nodup_singleton key, by
      intro other hother found hfound heq
      rw [List.mem_singleton.mp hfound] at heq
      exact hfree (heq ▸ hother)⟩
  · intro other hother
    rw [hids] at hother
    rcases List.mem_append.mp hother with hold | hnew
    · exact (hvalid.below other hold).of_le (key.le_reserve table.nextId)
    · rw [List.mem_singleton.mp hnew]
      exact key.below_reserve table.nextId

theorem Valid.update {ε : Type} {test : Record → Except ε Bool} {changes : Keyed Value}
    {table merged : Table} {count : Nat} (hvalid : table.Valid)
    (hid : Keyed.contains idField changes = false)
    (hupdate : table.updateWhere test changes = .ok (count, merged)) : merged.Valid := by
  obtain ⟨-, rfl⟩ := updateWhere_eq_ok hupdate
  have hkey : ∀ record, Record.key? (updated test changes record) = record.key? := by
    intro record
    unfold updated
    split_ifs
    · exact Record.key?_merge hid
    · rfl
  constructor
  · intro record hrecord
    obtain ⟨old, hold, rfl⟩ := List.mem_map.mp hrecord
    rw [hkey]
    exact hvalid.keyed old hold
  · rw [List.filterMap_map]
    simp only [Function.comp_def, hkey]
    exact hvalid.ids_eq
  · exact hvalid.distinct
  · exact hvalid.below

theorem Valid.eq_of_key? {table : Table} (hvalid : table.Valid) {first second : Record}
    (hfirst : first ∈ table.records) (hsecond : second ∈ table.records)
    (hkey : first.key? = second.key?) : first = second := by
  have hdistinct := hvalid.distinct
  rw [hvalid.ids_eq] at hdistinct
  have hkeyed := hvalid.keyed
  generalize table.records = records at hfirst hsecond hdistinct hkeyed
  induction records with
  | nil => simp at hfirst
  | cons record rest ih =>
      obtain ⟨key, hrecord⟩ := hkeyed record (by simp)
      rw [List.filterMap_cons, hrecord] at hdistinct
      obtain ⟨hnew, hrest⟩ := List.nodup_cons.mp hdistinct
      have hother : ∀ other ∈ rest, other.key? ≠ some key := fun other hother heq =>
        hnew (List.mem_filterMap.mpr ⟨other, hother, heq⟩)
      rcases List.mem_cons.mp hfirst with rfl | hfirstRest <;>
        rcases List.mem_cons.mp hsecond with rfl | hsecondRest
      · rfl
      · exact absurd (hkey.symm.trans hrecord) (hother second hsecondRest)
      · exact absurd (hkey.trans hrecord) (hother first hfirstRest)
      · exact ih hfirstRest hsecondRest hrest fun other hmem =>
          hkeyed other (List.mem_cons_of_mem _ hmem)

theorem Valid.remove {ε : Type} {test : Record → Except ε Bool} {table kept : Table}
    {count : Nat} (hvalid : table.Valid)
    (hremove : table.removeWhere test = .ok (count, kept)) : kept.Valid := by
  obtain ⟨-, rfl⟩ := removeWhere_eq_ok hremove
  -- Keys do not repeat, so a key is freed exactly if its own record goes.
  have hfreed : ∀ record ∈ table.records, ∀ key, record.key? = some key →
      (key ∈ (table.records.filter (accepts test)).filterMap Record.key? ↔
        accepts test record = true) := by
    intro record hrecord key hkey
    rw [List.mem_filterMap]
    constructor
    · rintro ⟨other, hother, hsame⟩
      obtain ⟨hmem, haccepts⟩ := List.mem_filter.mp hother
      rwa [hvalid.eq_of_key? hrecord hmem (hkey.trans hsame.symm)]
    · intro haccepts
      exact ⟨record, List.mem_filter.mpr ⟨hrecord, haccepts⟩, hkey⟩
  generalize (table.records.filter (accepts test)).filterMap Record.key? = freed at hfreed ⊢
  constructor
  · intro record hrecord
    exact hvalid.keyed record (List.mem_filter.mp hrecord).1
  · simp only
    rw [hvalid.ids_eq, List.filter_filterMap, List.filterMap_filter]
    apply List.filterMap_congr
    intro record hrecord
    obtain ⟨key, hkey⟩ := hvalid.keyed record hrecord
    have hiff := hfreed record hrecord key hkey
    by_cases haccepts : accepts test record = true
    · simp [hkey, haccepts, hiff.mpr haccepts]
    · have hnot : key ∉ freed := fun hmem => haccepts (hiff.mp hmem)
      simp [hkey, haccepts, hnot]
  · exact hvalid.distinct.filter _
  · intro key hkey
    exact hvalid.below key (List.mem_filter.mp hkey).1

theorem valid_clear (table : Table) : table.clear.Valid :=
  ⟨by simp [Table.clear], rfl, List.nodup_nil, by simp [Table.clear]⟩

/-! ## Fields -/

section Fields

variable {property : Value → Prop}

theorem Holds.push {table prepared : Table} {name : String} {fields : Value} {record : Record}
    (hproperty : ∀ value : Value, value.Storable → property value)
    (htable : table.Holds property) (hfields : fields.Sorted)
    (hprepare : table.prepare name fields = .ok (record, prepared)) :
    (prepared.push record).Holds property := by
  obtain ⟨entries, key, rfl, hstorable, -, -, rfl, hrecord⟩ := prepare_eq_ok hprepare
  rw [Value.sorted_map_iff] at hfields
  rw [checkStorable_eq_ok_iff] at hstorable
  have hentries : Record.Holds property ⟨entries⟩ := by
    refine ⟨hfields.1, fun field hfield => hproperty _ ?_⟩
    obtain ⟨hfinite, hdepth⟩ := hstorable field.2 (List.mem_map.mpr ⟨field, hfield, rfl⟩)
    exact ⟨hfields.2 field hfield, hfinite, hdepth⟩
  have hnew : record.Holds property := by
    rcases hrecord with hsame | ⟨-, -, hinserted⟩
    · obtain rfl : record = ⟨entries⟩ := by rw [← hsame]
      exact hentries
    · obtain rfl : record = ⟨Keyed.insert idField key.toValue entries⟩ := by rw [← hinserted]
      refine hentries.insert (hproperty _ ?_)
      cases key <;> exact ⟨trivial, rfl, Nat.zero_le _⟩
  intro other hother
  rcases List.mem_append.mp hother with hold | hlast
  · exact htable other hold
  · rwa [List.mem_singleton.mp hlast]

theorem Holds.update {ε : Type} {test : Record → Except ε Bool} {changes : Keyed Value}
    {table merged : Table} {count : Nat} (htable : table.Holds property)
    (hchanges : ∀ change ∈ changes, property change.2)
    (hupdate : table.updateWhere test changes = .ok (count, merged)) :
    merged.Holds property := by
  obtain ⟨-, rfl⟩ := updateWhere_eq_ok hupdate
  intro record hrecord
  obtain ⟨old, hold, rfl⟩ := List.mem_map.mp hrecord
  unfold updated
  split_ifs
  · exact (htable old hold).merge hchanges
  · exact htable old hold

theorem Holds.remove {ε : Type} {test : Record → Except ε Bool} {table kept : Table}
    {count : Nat} (htable : table.Holds property)
    (hremove : table.removeWhere test = .ok (count, kept)) : kept.Holds property := by
  obtain ⟨-, rfl⟩ := removeWhere_eq_ok hremove
  exact fun record hrecord => htable record (List.mem_filter.mp hrecord).1

theorem Holds.clear {table : Table} : table.clear.Holds property := by
  intro record hrecord
  simp [Table.clear] at hrecord

theorem holds_empty : empty.Holds property := by
  intro record hrecord
  simp [empty] at hrecord

end Fields

/-! ## Runs of operations -/

/-- One successful operation on a table: a record is prepared and appended, some records are
changed, some are removed, or all are. -/
inductive Change (table : Table) : Table → Prop
  | push {name : String} {fields : Value} {record : Record} {prepared : Table}
      (sorted : fields.Sorted) (prepare : table.prepare name fields = .ok (record, prepared)) :
      Change table (prepared.push record)
  | update {ε : Type} {test : Record → Except ε Bool} {changes : Keyed Value} {count : Nat}
      {merged : Table} (noId : Keyed.contains idField changes = false)
      (sorted : ∀ change ∈ changes, change.2.Sorted)
      (storable : checkStorable (changes.map Prod.snd) = .ok ())
      (update : table.updateWhere test changes = .ok (count, merged)) : Change table merged
  | remove {ε : Type} {test : Record → Except ε Bool} {count : Nat} {kept : Table}
      (remove : table.removeWhere test = .ok (count, kept)) : Change table kept
  | clear : Change table table.clear

/-- Any number of operations lead from the one table to the other. -/
abbrev Reaches : Table → Table → Prop :=
  Relation.ReflTransGen Change

theorem Valid.change {table next : Table} (hvalid : table.Valid) (hchange : table.Change next) :
    next.Valid := by
  cases hchange with
  | push sorted prepare => exact hvalid.push prepare
  | update noId sorted storable update => exact hvalid.update noId update
  | remove remove => exact hvalid.remove remove
  | clear => exact valid_clear table

theorem Valid.reaches {start table : Table} (hvalid : start.Valid) (hreaches : start.Reaches table) :
    table.Valid := by
  induction hreaches with
  | refl => exact hvalid
  | tail _ hchange ih => exact ih.change hchange

theorem Holds.change {property : Value → Prop}
    (hproperty : ∀ value : Value, value.Storable → property value) {table next : Table}
    (htable : table.Holds property) (hchange : table.Change next) : next.Holds property := by
  cases hchange with
  | push sorted prepare => exact htable.push hproperty sorted prepare
  | update noId sorted storable update =>
      rw [checkStorable_eq_ok_iff] at storable
      refine htable.update (fun change hmem => hproperty _ ?_) update
      obtain ⟨hfinite, hdepth⟩ := storable change.2 (List.mem_map.mpr ⟨change, hmem, rfl⟩)
      exact ⟨sorted change hmem, hfinite, hdepth⟩
  | remove remove => exact htable.remove remove
  | clear => exact Holds.clear

theorem Holds.reaches {property : Value → Prop}
    (hproperty : ∀ value : Value, value.Storable → property value) {start table : Table}
    (hstart : start.Holds property) (hreaches : start.Reaches table) : table.Holds property := by
  induction hreaches with
  | refl => exact hstart
  | tail _ hchange ih => exact ih.change hproperty hchange

end Table

end DocumentStore
