import DocumentStore.Table.Document
import DocumentStore.Table.Name
import DocumentStore.Proofs.Pack.RoundTrip
import DocumentStore.Proofs.Table.Reach

/-!
# The members of table documents

A document is put together from its members and taken apart again without loss.  What the readers
of both formats share is stated here: which values a field of a document can hold, and that the
members decide the document.
-/

namespace DocumentStore

namespace Format

/-- How deep a field may nest in a document of the format.  The document, its list of records and
the record are three more levels. -/
def fieldDepth : Format → Nat
  | json => 124
  | msgpack => 1020

/-- A field of a document of the format can hold the value: its maps are sorted, it does not nest
too deep, and its numbers are finite if the format has no other ones. -/
structure Holds (format : Format) (value : Value) : Prop where
  sorted : value.Sorted
  depth : value.depth ≤ format.fieldDepth
  finite : format = json → value.isFinite = true

theorem holds_of_storable (format : Format) (value : Value) (hvalue : value.Storable) :
    format.Holds value := by
  have hdepth : maxNesting ≤ format.fieldDepth := by
    cases format <;> decide
  exact ⟨hvalue.sorted, hvalue.depth.trans hdepth, fun _ => hvalue.finite⟩

end Format

theorem Record.sorted_toValue {property : Value → Prop} {record : Record}
    (hrecord : record.Holds property) (hsorted : ∀ value, property value → value.Sorted) :
    record.toValue.Sorted :=
  (Value.sorted_map_iff _).mpr
    ⟨hrecord.sorted, fun field hfield => hsorted _ (hrecord.fields field hfield)⟩

theorem Record.depth_toValue {property : Value → Prop} {record : Record}
    (hrecord : record.Holds property) {limit : Nat}
    (hdepth : ∀ value, property value → value.depth ≤ limit) :
    record.toValue.depth ≤ limit + 1 :=
  (Value.depth_map_le_iff _ _).mpr
    ⟨Nat.succ_pos limit, fun field hfield => hdepth _ (hrecord.fields field hfield)⟩

namespace Member

@[simp] theorem ofName?_name (member : Member) : ofName? member.name = some member := by
  cases member <;> decide

end Member

namespace Document

def members (document : Document) : List (Member × Value) :=
  [(.version, .integer (Int64.ofNat document.version)), (.table, .text document.table),
    (.nextId, .integer document.nextId),
    (.records, .list (document.records.map Record.toValue))]

theorem toValue_eq (document : Document) :
    document.toValue = .map (document.members.map fun entry => (entry.1.name, entry.2)) := rfl

@[simp] theorem records?_map_toValue (records : List Record) :
    records? (records.map Record.toValue) = some records := by
  induction records with
  | nil => rfl
  | cons record rest ih =>
      have hrest : (rest.map Record.toValue).mapM (fun item => item.fields?.map Record.mk) =
          some rest := ih
      rw [records?, List.map_cons, List.mapM_cons, hrest]
      rfl

theorem eq_of_records? {items : List Value} {records : List Record}
    (hrecords : records? items = some records) : items = records.map Record.toValue := by
  induction items generalizing records with
  | nil =>
      simp only [records?, List.mapM_nil, Option.pure_def, Option.some.injEq] at hrecords
      simp [← hrecords]
  | cons item rest ih =>
      simp only [records?, List.mapM_cons, Option.bind_eq_bind, Option.bind_eq_some_iff] at hrecords
      obtain ⟨record, hrecord, later, hlater, heq⟩ := hrecords
      obtain ⟨fields, hfields, rfl⟩ := Option.map_eq_some_iff.mp hrecord
      cases heq
      cases item with
      | map found =>
          cases hfields
          rw [List.map_cons, ← ih hlater]
          rfl
      | null | boolean | integer | float | text | list => simp [Value.fields?] at hfields

/-- A document from its four members in their order. -/
theorem ofMembers?_ordered (version table nextId records : Value) :
    ofMembers? [(.version, version), (.table, table), (.nextId, nextId), (.records, records)] =
      (do
        let version ← version.integer?
        let table ← table.text?
        let nextId ← nextId.integer?
        let items ← records.items?
        let records ← records? items
        if 0 ≤ version.toInt ∧ version.toInt < 0x100000000 then
          return ⟨version.toInt.toNat, table, nextId, records⟩
        else none) := by
  rw [ofMembers?, if_neg (not_not.mpr (by simp))]
  rfl

theorem toInt_version {version : Nat} (hversion : version < 2 ^ 32) :
    (Int64.ofNat version).toInt = version := by
  rw [← Int64.ofInt_eq_ofNat, Int64.toInt_ofInt_of_le (by omega) (by omega)]

theorem ofMembers?_members {document : Document} (hversion : document.version < 2 ^ 32) :
    ofMembers? document.members = some document := by
  have hrange : 0 ≤ (document.version : Int) ∧ (document.version : Int) < 0x100000000 := by omega
  rw [members, ofMembers?_ordered]
  simp only [Option.bind_eq_bind, Option.bind_some, Value.integer?, Value.text?, Value.items?,
    records?_map_toValue, toInt_version hversion, Int.toNat_natCast]
  rw [if_pos hrange]
  rfl

theorem records_of_ofMembers? {members : List (Member × Value)} {document : Document}
    (hmembers : ofMembers? members = some document) :
    (Member.records, Value.list (document.records.map Record.toValue)) ∈ members := by
  by_cases hnodup : (members.map Prod.fst).Nodup
  swap
  · rw [ofMembers?, if_pos hnodup] at hmembers
    simp at hmembers
  rw [ofMembers?, if_neg (not_not.mpr hnodup)] at hmembers
  simp only [Option.bind_eq_bind, Option.pure_def, Option.bind_eq_some_iff] at hmembers
  obtain ⟨_, _, version, _, _, _, table, _, _, _, nextId, _, found, hfound, items, hitems,
    records, hrecords, hdocument⟩ := hmembers
  split_ifs at hdocument
  cases hdocument
  obtain rfl := eq_of_records? hrecords
  cases found with
  | list inner =>
      cases hitems
      obtain ⟨before, after, rfl, -⟩ := List.lookup_eq_some_iff.mp hfound
      simp
  | null | boolean | integer | float | text | map => simp [Value.items?] at hitems

/-- Records that stand in sorted members which do not nest too deep have fields that the format can
hold. -/
theorem holds_of_members {format : Format} {document : Document}
    (hsorted : (Value.list (document.records.map Record.toValue)).Sorted)
    (hdepth : (Value.list (document.records.map Record.toValue)).depth ≤ format.fieldDepth + 2)
    (hfinite : format = .json →
      (Value.list (document.records.map Record.toValue)).isFinite = true) :
    ∀ record ∈ document.records, record.Holds format.Holds := by
  intro record hrecord
  have hmem : record.toValue ∈ document.records.map Record.toValue :=
    List.mem_map.mpr ⟨record, hrecord, rfl⟩
  have hrecordSorted := (Value.sorted_list_iff _).mp hsorted _ hmem
  have hrecordDepth := ((Value.depth_list_le_iff _ _).mp hdepth).2 _ hmem
  obtain ⟨hnames, hvalues⟩ := (Value.sorted_map_iff record.fields).mp hrecordSorted
  have hfieldDepth := ((Value.depth_map_le_iff record.fields _).mp hrecordDepth).2
  refine ⟨hnames, fun field hfield => ⟨hvalues field hfield, hfieldDepth field hfield, ?_⟩⟩
  intro hjson
  have hrecordFinite := (Value.isFinite_list_iff _).mp (hfinite hjson) _ hmem
  exact (Value.isFinite_map_iff record.fields).mp hrecordFinite field hfield

end Document

namespace Table

@[simp] theorem document_version (name : String) (table : Table) :
    (table.document name).version = formatVersion := rfl

theorem Valid.decode_eq {table : Table} (hvalid : table.Valid) {format : Format} {name : String}
    {input : Bytes} (hread : Document.read? format input = some (table.document name)) :
    decode format name input = .ok table := by
  have hparts : ofParts? (table.document name).records (table.document name).nextId = .ok table :=
    hvalid.ofParts?_eq
  have hname : (table.document name).table = name := rfl
  simp [decode, hread, hname, hparts, Except.mapError]

theorem eq_of_decode {format : Format} {name : String} {input : Bytes} {table : Table}
    (hdecode : decode format name input = .ok table) :
    table.Valid ∧ Document.read? format input = some (table.document name) := by
  simp only [decode] at hdecode
  split at hdecode
  next => simp at hdecode
  next found hread =>
      split_ifs at hdecode with hversion htable
      rw [not_not] at hversion htable
      have hparts : ofParts? found.records found.nextId = .ok table :=
        mapError_eq_ok_iff.mp hdecode
      obtain ⟨hvalid, hrecords, hnextId⟩ := (ofParts?_eq_ok_iff ..).mp hparts
      refine ⟨hvalid, hread.trans ?_⟩
      rw [Table.document, hrecords, hnextId, ← hversion, ← htable]

end Table

end DocumentStore
