import DocumentStore.Proofs.Table.Selection

/-!
# Looking a record up by its id

The filter that asks for an id compares values, while the ids in use are kept as keys.  On integers
and texts the two agree, and in a valid table no id repeats.  So the filter selects one record if the
id is in use and none otherwise, and it never fails.
-/

namespace DocumentStore

/-- Keys are compared in the same way whether as keys or as values. -/
theorem Key.equivalent_toValue (first second : Key) :
    first.toValue.equivalent second.toValue = decide (first = second) := by
  cases first with
  | integer n =>
      cases second with
      | integer m =>
          change (n == m) = _
          rw [Bool.eq_iff_iff]
          simp
      | text s => rfl
  | text s =>
      cases second with
      | integer m => rfl
      | text other =>
          change (s == other) = _
          rw [Bool.eq_iff_iff]
          simp

namespace Record

theorem resolve_idField (record : Record) : record.resolve idField = record.id := by
  rw [resolve, id, field]
  cases hget : record.get? idField with
  | some value => rfl
  | none =>
      have hsplit : Chars.splitFirst '.' idField.toList = (idField.toList, none) := by decide
      simp only [hsplit, String.ofList_toList, field, hget]

end Record

/-- The filter that asks for an id. -/
def Filters.byId (key : Key) : Filters :=
  Filters.empty.add idField key.toValue

namespace Predicate

/-- The predicate that an id is this one. -/
def hasId (key : Key) : Predicate :=
  ⟨idField, .eq key.toValue⟩

theorem byId_eq (key : Key) : Filters.byId key = .ok [hasId key] := by
  have hkey : ofKey idField key.toValue = .ok (hasId key) := by
    cases key <;> with_unfolding_all rfl
  rw [Filters.byId, Filters.empty, Filters.add, hkey]
  rfl

/-- On a record with an id the predicate does not fail, and it asks for the key of the record. -/
theorem matchesAll_hasId {record : Record} {own : Key} (hown : record.key? = some own) (key : Key) :
    matchesAll [hasId key] record = .ok (decide (own = key)) := by
  have hevaluate : (hasId key).evaluate record = .ok (decide (own = key)) := by
    rw [evaluate, hasId, Record.resolve_idField, Record.key?_eq_some_iff.mp hown]
    simp only [Test.accepts?, Key.equivalent_toValue]
  rw [matchesAll, hevaluate]
  cases decide (own = key) <;> rfl

end Predicate

namespace Table

variable {table : Table} {key : Key}

theorem accepts_eq_true_iff {ε : Type} {test : Record → Except ε Bool} {record : Record} :
    accepts test record = true ↔ test record = .ok true := by
  rw [accepts]
  cases test record with
  | error error => simp
  | ok accepted => simp

theorem Valid.firstError?_hasId (hvalid : table.Valid) (key : Key) :
    firstError? (Predicate.matchesAll [Predicate.hasId key]) table.records = none := by
  rw [firstError?, List.findSome?_eq_none_iff]
  intro record hrecord
  obtain ⟨own, hown⟩ := hvalid.keyed record hrecord
  rw [Predicate.matchesAll_hasId hown]

theorem Valid.accepts_hasId (hvalid : table.Valid) {record : Record}
    (hrecord : record ∈ table.records) :
    accepts (Predicate.matchesAll [Predicate.hasId key]) record = true ↔
      record.id = key.toValue := by
  obtain ⟨own, hown⟩ := hvalid.keyed record hrecord
  rw [accepts_eq_true_iff, Predicate.matchesAll_hasId hown, Except.ok.injEq, decide_eq_true_eq,
    Record.key?_eq_some_iff.mp hown]
  constructor
  · intro heq
    rw [heq]
  · intro hid
    exact Key.toValue_injective hid

/-- The record with this id stands between others that have other ids. -/
structure Singles (table : Table) (id : Value) (before : List Record) (record : Record)
    (after : List Record) : Prop where
  records_eq : table.records = before ++ record :: after
  id_eq : record.id = id
  others : ∀ other ∈ before ++ after, other.id ≠ id

theorem Valid.singles_of_mem (hvalid : table.Valid) {record : Record}
    (hrecord : record ∈ table.records) :
    ∃ before after, table.Singles record.id before record after := by
  obtain ⟨before, after, hsplit⟩ := List.append_of_mem hrecord
  have hdistinct := hvalid.nodup_recordIds
  rw [recordIds, hsplit, List.map_append, List.map_cons, List.nodup_middle, List.nodup_cons,
    ← List.map_append] at hdistinct
  refine ⟨before, after, hsplit, rfl, ?_⟩
  intro other hother heq
  exact hdistinct.1 (List.mem_map.mpr ⟨other, hother, heq⟩)

theorem Valid.exists_singles (hvalid : table.Valid) {id : Value}
    (hcontains : table.containsId id = true) :
    ∃ before record after, table.Singles id before record after := by
  obtain ⟨record, hrecord, rfl⟩ := List.mem_map.mp ((hvalid.containsId_iff id).mp hcontains)
  obtain ⟨before, after, hsingles⟩ := hvalid.singles_of_mem hrecord
  exact ⟨before, record, after, hsingles⟩

section Selected

variable {before after : List Record} {record : Record}

theorem Singles.mem (hsingles : table.Singles key.toValue before record after) :
    record ∈ table.records := by
  rw [hsingles.records_eq]
  exact List.mem_append_right before List.mem_cons_self

theorem Valid.accepts_singles (hvalid : table.Valid)
    (hsingles : table.Singles key.toValue before record after) :
    accepts (Predicate.matchesAll [Predicate.hasId key]) record = true ∧
      ∀ other ∈ before ++ after,
        accepts (Predicate.matchesAll [Predicate.hasId key]) other = false := by
  constructor
  · exact (hvalid.accepts_hasId hsingles.mem).mpr hsingles.id_eq
  · intro other hother
    have hmem : other ∈ table.records := by
      rw [hsingles.records_eq]
      rcases List.mem_append.mp hother with hbefore | hafter
      · exact List.mem_append_left _ hbefore
      · exact List.mem_append_right _ (List.mem_cons_of_mem _ hafter)
    rw [Bool.eq_false_iff, ne_eq, hvalid.accepts_hasId hmem]
    exact hsingles.others other hother

/-- The filter selects the one record with the id. -/
theorem Valid.filter_hasId (hvalid : table.Valid)
    (hsingles : table.Singles key.toValue before record after) :
    table.records.filter (accepts (Predicate.matchesAll [Predicate.hasId key])) = [record] := by
  obtain ⟨haccepts, hothers⟩ := hvalid.accepts_singles hsingles
  have hnone : ∀ part : List Record, (∀ other ∈ part, other ∈ before ++ after) →
      part.filter (accepts (Predicate.matchesAll [Predicate.hasId key])) = [] := by
    intro part hpart
    rw [List.filter_eq_nil_iff]
    intro other hother
    simp [hothers other (hpart other hother)]
  rw [hsingles.records_eq, List.filter_append, List.filter_cons_of_pos haccepts,
    hnone before fun other => List.mem_append_left _,
    hnone after fun other => List.mem_append_right _, List.nil_append]

/-- Removing the record leaves the others. -/
theorem Valid.filter_not_hasId (hvalid : table.Valid)
    (hsingles : table.Singles key.toValue before record after) :
    table.records.filter
        (fun other => !accepts (Predicate.matchesAll [Predicate.hasId key]) other) =
      before ++ after := by
  obtain ⟨haccepts, hothers⟩ := hvalid.accepts_singles hsingles
  have hall : ∀ part : List Record, (∀ other ∈ part, other ∈ before ++ after) →
      part.filter (fun other => !accepts (Predicate.matchesAll [Predicate.hasId key]) other) =
        part := by
    intro part hpart
    rw [List.filter_eq_self]
    intro other hother
    simp [hothers other (hpart other hother)]
  rw [hsingles.records_eq, List.filter_append, List.filter_cons_of_neg (by simp [haccepts]),
    hall before fun other => List.mem_append_left _,
    hall after fun other => List.mem_append_right _]

/-- An update changes the record at its place and leaves the others. -/
theorem Valid.map_updated_hasId (hvalid : table.Valid)
    (hsingles : table.Singles key.toValue before record after) (changes : Keyed Value) :
    table.records.map (updated (Predicate.matchesAll [Predicate.hasId key]) changes) =
      before ++ record.merge changes :: after := by
  obtain ⟨haccepts, hothers⟩ := hvalid.accepts_singles hsingles
  have hsame : ∀ part : List Record, (∀ other ∈ part, other ∈ before ++ after) →
      part.map (updated (Predicate.matchesAll [Predicate.hasId key]) changes) = part := by
    intro part hpart
    conv_rhs => rw [← List.map_id part]
    apply List.map_congr_left
    intro other hother
    simp [updated, hothers other (hpart other hother)]
  rw [hsingles.records_eq, List.map_append, List.map_cons,
    hsame before fun other => List.mem_append_left _,
    hsame after fun other => List.mem_append_right _, updated, if_pos haccepts]

end Selected

/-- The filter selects nothing if the id is not in use. -/
theorem Valid.filter_hasId_of_not_contains (hvalid : table.Valid)
    (hcontains : table.containsId key.toValue = false) :
    table.records.filter (accepts (Predicate.matchesAll [Predicate.hasId key])) = [] := by
  rw [List.filter_eq_nil_iff]
  intro record hrecord
  rw [hvalid.accepts_hasId hrecord]
  intro hid
  have hmem : key.toValue ∈ table.recordIds := List.mem_map.mpr ⟨record, hrecord, hid⟩
  rw [(hvalid.containsId_iff key.toValue).mpr hmem] at hcontains
  cases hcontains

end Table

end DocumentStore
