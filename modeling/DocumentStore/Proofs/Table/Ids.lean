import DocumentStore.Proofs.Table.Reach

/-!
# Ids of a valid table

In a valid table the keys in use are the ids of the records, one for one, so whether an id is in use
is read off the records.  Preparing a record comes down to two equations, one for fields with an id
and one for fields without.
-/

namespace DocumentStore

namespace Key

theorem ofValue?_eq_some_iff {value : Value} {key : Key} :
    ofValue? value = some key ↔ key.toValue = value := by
  cases value <;> cases key <;> simp [ofValue?, toValue, eq_comm]

@[simp] theorem ofValue?_toValue (key : Key) : ofValue? key.toValue = some key :=
  ofValue?_eq_some_iff.mpr rfl

theorem toValue_injective : Function.Injective toValue := by
  intro first second heq
  have hkeys := congrArg ofValue? heq
  simpa using hkeys

end Key

namespace Record

theorem key?_eq_some_iff {record : Record} {key : Key} :
    record.key? = some key ↔ record.id = key.toValue := by
  rw [key?, Key.ofValue?_eq_some_iff, eq_comm]

end Record

namespace Table

variable {table : Table}

/-- The ids of the records in their order. -/
def recordIds (table : Table) : List Value :=
  table.records.map Record.id

theorem Valid.recordIds_eq (hvalid : table.Valid) :
    table.recordIds = table.ids.map Key.toValue := by
  have hids : ∀ record ∈ table.records, record.key?.map Key.toValue = some record.id := by
    intro record hrecord
    obtain ⟨key, hkey⟩ := hvalid.keyed record hrecord
    rw [hkey, Option.map_some, Key.ofValue?_eq_some_iff.mp hkey]
  rw [recordIds, hvalid.ids_eq, List.map_filterMap, List.filterMap_congr hids]
  exact (congrFun List.filterMap_eq_map' _).symm

theorem Valid.mem_recordIds_iff (hvalid : table.Valid) (key : Key) :
    key.toValue ∈ table.recordIds ↔ key ∈ table.ids := by
  rw [hvalid.recordIds_eq, List.mem_map_of_injective Key.toValue_injective]

theorem Valid.nodup_recordIds (hvalid : table.Valid) : table.recordIds.Nodup := by
  rw [hvalid.recordIds_eq]
  exact hvalid.distinct.map Key.toValue_injective

theorem Valid.containsId_iff (hvalid : table.Valid) (id : Value) :
    table.containsId id = true ↔ id ∈ table.recordIds := by
  rw [hvalid.recordIds_eq, List.mem_map, containsId]
  cases hkey : Key.ofValue? id with
  | none =>
      simp only [Bool.false_eq_true, false_iff, not_exists, not_and]
      intro key _ heq
      rw [Key.ofValue?_eq_some_iff.mpr heq] at hkey
      cases hkey
  | some key =>
      have hvalue := Key.ofValue?_eq_some_iff.mp hkey
      simp only [List.contains_iff_mem]
      constructor
      · intro hmem
        exact ⟨key, hmem, hvalue⟩
      · rintro ⟨other, hmem, heq⟩
        rwa [Key.toValue_injective (hvalue.trans heq.symm)]

/-- Integer ids lie below the counter, and one that the counter cannot pass is the greatest. -/
theorem Valid.lt_nextId (hvalid : table.Valid) {n : Int64}
    (hmem : .integer n ∈ table.recordIds) : n < table.nextId ∨ table.nextId = Int64.maxValue :=
  hvalid.below (.integer n) ((hvalid.mem_recordIds_iff (.integer n)).mp hmem)

/-! ## Preparing -/

theorem prepare_of_find?_some (name : String) {fields : Keyed Value} {key : Key}
    (hid : Keyed.find? idField fields = some key.toValue) (table : Table) :
    table.prepare name (.map fields) =
      ((checkStorable (fields.map Prod.snd)).mapError .invalidRecord >>= fun _ =>
        if key ∈ table.ids then .error (.idCollision name key.toValue)
        else .ok (⟨fields⟩, { table with nextId := key.reserve table.nextId })) := by
  simp only [prepare]
  cases checkStorable (fields.map Prod.snd) with
  | error fault => rfl
  | ok =>
      simp only [hid, Key.ofValue?_toValue, List.contains_iff_mem]
      cases key <;> rfl

theorem prepare_of_find?_none (name : String) {fields : Keyed Value}
    (hid : Keyed.find? idField fields = none) (table : Table) :
    table.prepare name (.map fields) =
      ((checkStorable (fields.map Prod.snd)).mapError .invalidRecord >>= fun _ =>
        if .integer table.nextId ∈ table.ids then
          .error (.idCollision name (.integer table.nextId))
        else .ok (⟨Keyed.insert idField (.integer table.nextId) fields⟩,
          { table with nextId := nextAfter table.nextId })) := by
  simp only [prepare]
  cases checkStorable (fields.map Prod.snd) with
  | error fault => rfl
  | ok =>
      simp only [hid, List.contains_iff_mem]
      rfl

/-- The id that is given to a record without one is the counter, and no record has it. -/
theorem prepare_assigns {name : String} {fields : Keyed Value}
    (hid : Keyed.find? idField fields = none) {record : Record} {prepared : Table}
    (hprepare : table.prepare name (.map fields) = .ok (record, prepared)) :
    record.id = .integer table.nextId ∧ .integer table.nextId ∉ table.ids := by
  rw [prepare_of_find?_none name hid, bind_eq_ok_iff] at hprepare
  obtain ⟨⟨⟩, -, hbody⟩ := hprepare
  split_ifs at hbody with hheld
  cases hbody
  exact ⟨by simp [Record.id, Record.field, Record.get?], hheld⟩

end Table

end DocumentStore
