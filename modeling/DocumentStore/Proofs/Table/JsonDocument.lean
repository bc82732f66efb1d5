import DocumentStore.Proofs.Json.Accepted
import DocumentStore.Proofs.Json.RoundTrip
import DocumentStore.Proofs.Table.Document

/-!
# Tables as JSON documents

A table that is written as a JSON document is read back as it was, in both layouts: the same records
in the same order with values of the same kinds, the same ids and the same counter.
-/

namespace DocumentStore

namespace Document

open Json (Layout EndsNumeral isBlank fieldBytes)

private def named (entry : Member × Value) : String × Value :=
  (entry.1.name, entry.2)

theorem readJsonMember_write (layout : Layout) {value : Value} (hsorted : value.Sorted)
    (hfinite : value.isFinite = true) (hdepth : value.depth ≤ Json.maxDepth - 1) (member : Member)
    {rest : Bytes} (hrest : EndsNumeral rest) :
    readJsonMember member.name
        (Json.skipBlanks (Bytes.ofChars (Json.write layout 1 value) ++ rest)) =
      some (some (member, value), rest) := by
  have hstart := (Json.startsValue_write layout 1 value).append rest
  rw [hstart.skipBlanks_eq, readJsonMember, Member.ofName?_name]
  simp only [Json.readValue_write layout 1 hsorted hfinite hdepth hrest]
  rfl

theorem readValue_of_readJsonMember {name : String} {input rest : Bytes} {member : Member}
    {value : Value} (hread : readJsonMember name input = some (some (member, value), rest)) :
    Json.readValue (Json.maxDepth - 1) input = some (value, rest) := by
  unfold readJsonMember at hread
  split at hread
  next found hname =>
      obtain ⟨⟨item, after⟩, hvalue, heq⟩ := Option.map_eq_some_iff.mp hread
      simp only [Prod.mk.injEq, Option.some.injEq] at heq
      obtain ⟨⟨-, rfl⟩, rfl⟩ := heq
      exact hvalue
  next hname =>
      obtain ⟨_, -, heq⟩ := Option.map_eq_some_iff.mp hread
      simp at heq

theorem ofJson?_write {document : Document} (layout : Layout)
    (hversion : document.version < 2 ^ 32)
    (hsorted : ∀ entry ∈ document.members, entry.2.Sorted)
    (hfinite : ∀ entry ∈ document.members, entry.2.isFinite = true)
    (hdepth : ∀ entry ∈ document.members, entry.2.depth ≤ Json.maxDepth - 1) :
    ofJson? (Bytes.ofChars (Json.write layout 0 document.toValue)) = some document := by
  obtain ⟨first, later, hmembers⟩ : ∃ first later, document.members = first :: later := ⟨_, _, rfl⟩
  have hfield : ∀ field ∈ named first :: later.map named, ∀ rest, EndsNumeral rest →
      ∀ lead : Bytes, (∀ byte ∈ lead, isBlank byte = true) →
        Json.readField Json.readText readJsonMember
          (lead ++ (fieldBytes layout 1 field ++ rest)) =
            some ((field.1, (Member.ofName? field.1).map fun member => (member, field.2)),
              rest) := by
    intro field hfield rest hrest lead hlead
    rw [← List.map_cons, ← hmembers] at hfield
    obtain ⟨entry, hentry, rfl⟩ := List.mem_map.mp hfield
    have hread := readJsonMember_write layout (hsorted entry hentry) (hfinite entry hentry)
      (hdepth entry hentry) entry.1 hrest
    simp only [fieldBytes, named, List.append_assoc, Member.ofName?_name, Option.map_some]
    exact Json.readField_append (Json.readText_quoted entry.1.name) hread layout hlead
  have hread := Json.readFields_members (Json.isBlank_lineBreak layout 1)
    (Json.isBlank_lineBreak layout 0) hfield (Json.isBlank_lineBreak layout 1) []
  have hfound : ((document.members.map named).map fun field =>
      (field.1, (Member.ofName? field.1).map fun member => (member, field.2))).filterMap Prod.snd =
        document.members := by
    rw [List.map_map, List.filterMap_map]
    have hsome : (Prod.snd ∘ (fun field : String × Value =>
        (field.1, (Member.ofName? field.1).map fun member => (member, field.2))) ∘ named) = some := by
      funext entry
      simp [named]
    rw [hsome]
    exact List.filterMap_some
  rw [hmembers, List.map_cons, List.map_cons] at hfound
  have htext : Bytes.ofChars (Json.write layout 0 document.toValue) =
      0x7b :: (Bytes.ofChars (Json.lineBreak layout 1) ++ (fieldBytes layout 1 (named first) ++
        Json.laterMembers (fieldBytes layout 1) (Bytes.ofChars (Json.lineBreak layout 1))
          (Bytes.ofChars (Json.lineBreak layout 0)) 0x7d [] (later.map named))) := by
    have hwrite := Json.ofChars_write_map layout 0 (named first) (later.map named) []
    rw [List.append_nil] at hwrite
    rw [toValue_eq, hmembers]
    exact hwrite
  rw [htext, ofJson?, Json.skipBlanks_cons rfl]
  simp only [hread, Option.bind_eq_bind, Option.bind_some, hfound, ← hmembers]
  exact ofMembers?_members hversion

theorem holds_of_ofJson? {input : Bytes} {document : Document}
    (hread : ofJson? input = some document) :
    ∀ record ∈ document.records, record.Holds Format.json.Holds := by
  have hrecords : (Value.list (document.records.map Record.toValue)).Sorted ∧
      (Value.list (document.records.map Record.toValue)).isFinite = true ∧
      (Value.list (document.records.map Record.toValue)).depth ≤ Json.maxDepth - 1 := by
    unfold ofJson? at hread
    split at hread
    next rest hinput =>
        simp only [Option.bind_eq_bind, Option.bind_eq_some_iff, Prod.exists] at hread
        obtain ⟨fields, last, hfields, hbody⟩ := hread
        split_ifs at hbody with hempty
        obtain ⟨⟨name, found⟩, hfield, hfound⟩ :=
          List.mem_filterMap.mp (records_of_ofMembers? hbody)
        obtain ⟨_, _, hpair⟩ := Json.mem_readFields hfields hfield
        obtain ⟨middle, hmember⟩ := Json.readField_eq_some hpair
        simp only at hfound hmember
        subst hfound
        exact Json.finite_of_readValue (readValue_of_readJsonMember hmember)
    next =>
        simp only [Option.bind_eq_bind, Option.bind_eq_some_iff] at hread
        obtain ⟨value, hvalue, items, hitems, hlist⟩ := hread
        simp only [Json.read?, Option.bind_eq_bind, Option.bind_eq_some_iff, Prod.exists] at hvalue
        obtain ⟨found, rest, hfound, hend⟩ := hvalue
        split_ifs at hend with hempty
        cases hend
        obtain ⟨hsorted, hfinite, hdepth⟩ := Json.finite_of_readValue hfound
        unfold ofList? at hlist
        split_ifs at hlist with hlength
        have hitem := (List.of_mem_zip (records_of_ofMembers? hlist)).2
        cases value with
        | list inner =>
            cases hitems
            exact ⟨(Value.sorted_list_iff _).mp hsorted _ hitem,
              (Value.isFinite_list_iff _).mp hfinite _ hitem,
              ((Value.depth_list_le_iff _ _).mp hdepth).2 _ hitem⟩
        | null | boolean | integer | float | text | map => simp [Value.items?] at hitems
  obtain ⟨hsorted, hfinite, hdepth⟩ := hrecords
  exact holds_of_members hsorted hdepth fun _ => hfinite

end Document

namespace Table

theorem decode_encode_json {table : Table} {name : String} (hvalid : table.Valid)
    (hholds : table.Holds Format.json.Holds) (indented : Bool) :
    decode .json name (table.encode .json indented name) = .ok table := by
  have hitems : ∀ item ∈ table.records.map Record.toValue,
      item.Sorted ∧ item.isFinite = true ∧ item.depth ≤ Format.json.fieldDepth + 1 := by
    intro item hitem
    obtain ⟨record, hrecord, rfl⟩ := List.mem_map.mp hitem
    have hfields := hholds record hrecord
    exact ⟨Record.sorted_toValue hfields fun _ hvalue => hvalue.sorted,
      (Value.isFinite_map_iff _).mpr fun field hfield => (hfields.fields field hfield).finite rfl,
      Record.depth_toValue hfields fun _ hvalue => hvalue.depth⟩
  have hsorted : (Value.list (table.records.map Record.toValue)).Sorted :=
    (Value.sorted_list_iff _).mpr fun item hitem => (hitems item hitem).1
  have hfinite : (Value.list (table.records.map Record.toValue)).isFinite = true :=
    (Value.isFinite_list_iff _).mpr fun item hitem => (hitems item hitem).2.1
  have hdepth : (Value.list (table.records.map Record.toValue)).depth ≤
      Format.json.fieldDepth + 2 :=
    (Value.depth_list_le_iff _ _).mpr ⟨by omega, fun item hitem => (hitems item hitem).2.2⟩
  have hmembers : (table.document name).members =
      [(.version, .integer (Int64.ofNat formatVersion)), (.table, .text name),
        (.nextId, .integer table.nextId),
        (.records, .list (table.records.map Record.toValue))] := rfl
  apply hvalid.decode_eq
  have htext : table.encode .json indented name = Bytes.ofChars
      (Json.write (if indented then .indented else .compact) 0 (table.document name).toValue) := by
    rw [encode, Document.write, Bytes.ofText_eq_ofChars, Json.print, String.toList_ofList]
  rw [htext]
  refine Document.ofJson?_write _ (by rw [document_version]; decide) ?_ ?_ ?_
  all_goals
    rw [hmembers]
    simp only [List.forall_mem_cons]
  · exact ⟨trivial, trivial, trivial, hsorted, by simp⟩
  · exact ⟨rfl, rfl, rfl, hfinite, by simp⟩
  · exact ⟨Nat.zero_le _, Nat.zero_le _, Nat.zero_le _, hdepth, by simp⟩

/-- A valid table of finite numbers whose fields nest at most 124 levels deep is read back from its
document.  Every table that operations reach from the empty one or from a decoded one is such a
table. -/
theorem decode_json_encode (name : String) (indented : Bool) :
    (∀ table : Table, table.Valid →
      table.Holds (fun value => value.Sorted ∧ value.isFinite = true ∧ value.depth ≤ 124) →
        decode .json name (table.encode .json indented name) = .ok table) ∧
    ∀ start table : Table,
      (start = empty ∨ ∃ owner input, decode .json owner input = .ok start) →
      start.Reaches table →
        decode .json name (table.encode .json indented name) = .ok table := by
  constructor
  · intro table hvalid hholds
    have hformat : table.Holds Format.json.Holds := fun record hrecord =>
      ⟨(hholds record hrecord).sorted, fun field hfield =>
        have hvalue := (hholds record hrecord).fields field hfield
        ⟨hvalue.1, hvalue.2.2, fun _ => hvalue.2.1⟩⟩
    exact decode_encode_json hvalid hformat indented
  · intro start table hstart hreaches
    have hbase : start.Valid ∧ start.Holds Format.json.Holds := by
      rcases hstart with rfl | ⟨owner, input, hdecode⟩
      · exact ⟨valid_empty, holds_empty⟩
      · obtain ⟨hvalid, hread⟩ := eq_of_decode hdecode
        exact ⟨hvalid, Document.holds_of_ofJson? hread⟩
    exact decode_encode_json (hbase.1.reaches hreaches)
      (hbase.2.reaches Format.json.holds_of_storable hreaches) indented

/-- A record with minus zero, one as an integer and as a double, and characters that are escaped. -/
private def escapedRecord : Record :=
  ⟨[("id", .text "a\"b\\"), ("one", .list [.integer 1, .float ⟨0x3ff0000000000000⟩]),
    ("t\n", .text "\u0001\u00e9"), ("zero", .float ⟨0x8000000000000000⟩)]⟩

theorem decode_json_encode_escaped :
    decode .json "users" (encode .json true "users" ⟨[escapedRecord], [.text "a\"b\\"], 1⟩) =
        .ok ⟨[escapedRecord], [.text "a\"b\\"], 1⟩ ∧
      decode .json "users" (encode .json true "users" empty.clear) = .ok empty.clear := by
  have hread := decode_json_encode "users" true
  constructor
  · refine hread.1 _ ((ofParts?_eq_ok_iff [escapedRecord] 1 _).mp rfl).1 ?_
    intro record hrecord
    rw [List.mem_singleton.mp hrecord]
    refine ⟨by simp only [escapedRecord, Keyed.Sorted, Keyed.names]; decide +kernel, ?_⟩
    simp [escapedRecord, Value.Sorted, Value.AllSorted, Value.depth, Value.itemsDepth,
      Value.isFinite, Value.allFinite]
    decide
  · exact hread.2 empty _ (Or.inl rfl) (Relation.ReflTransGen.single Change.clear)

end Table

end DocumentStore
