import DocumentStore.Proofs.Pack.Accepted
import DocumentStore.Proofs.Table.Document

/-!
# Tables as MessagePack documents

A table that is written as a MessagePack document is read back as it was: the same records in the
same order, the same ids and the same counter.
-/

namespace DocumentStore

namespace Document

theorem readPackKey_writeText (member : Member) (rest : Bytes) :
    readPackKey (Pack.writeText member.name ++ rest) = some (some member, rest) := by
  have hsize : (Bytes.ofText member.name).length < Pack.sizeLimit := by
    cases member <;> decide
  rw [readPackKey, Pack.readHead_writeText hsize]
  simp [Bytes.take?_append rfl]

theorem readPackMember_write {value : Value} (hsorted : value.Sorted) (hfits : Pack.Fits value)
    (hdepth : value.depth ≤ Pack.maxDepth - 1) (member : Member) (rest : Bytes) :
    readPackMember (some member) (Pack.write value ++ rest) =
      some (some (member, value), rest) := by
  rw [readPackMember, Pack.readValue_write hsorted hfits hdepth]
  rfl

theorem readValue_of_readPackMember {key : Option Member} {input rest : Bytes} {member : Member}
    {value : Value} (hread : readPackMember key input = some (some (member, value), rest)) :
    Pack.readValue (Pack.maxDepth - 1) input = some (value, rest) := by
  cases key with
  | none => simp [readPackMember] at hread
  | some found =>
      obtain ⟨⟨item, after⟩, hvalue, heq⟩ := Option.map_eq_some_iff.mp hread
      simp only [Prod.mk.injEq, Option.some.injEq] at heq
      obtain ⟨⟨-, rfl⟩, rfl⟩ := heq
      exact hvalue

theorem ofPack?_write {document : Document} (hversion : document.version < 2 ^ 32)
    (hsorted : ∀ entry ∈ document.members, entry.2.Sorted)
    (hfits : ∀ entry ∈ document.members, Pack.Fits entry.2)
    (hdepth : ∀ entry ∈ document.members, entry.2.depth ≤ Pack.maxDepth - 1) :
    ofPack? (Pack.write document.toValue) = some document := by
  have hentry : ∀ entry ∈ document.members, ∀ rest,
      Pack.readPair readPackKey readPackMember
        (Pack.writeText entry.1.name ++ Pack.write entry.2 ++ rest) =
          some ((some entry.1, some entry), rest) := by
    intro entry hentry rest
    exact Pack.readPair_append (readPackKey_writeText entry.1)
      (readPackMember_write (hsorted entry hentry) (hfits entry hentry) (hdepth entry hentry)
        entry.1) rest
  have hmany := Pack.readMany_flatMap
    (fun entry : Member × Value => (some entry.1, some entry)) hentry []
  have hlength : document.members.length < Pack.sizeLimit := by
    unfold Pack.sizeLimit
    simp [members]
  have hmap : (document.members.map fun entry : Member × Value =>
      ((some entry.1 : Option Member), some entry)).filterMap Prod.snd = document.members := by
    rw [List.filterMap_map]
    exact List.filterMap_some
  rw [toValue_eq, Pack.write, List.length_map, ofPack?, Pack.readHead_mapHeader hlength,
    Pack.writeFields_eq_flatMap, List.flatMap_map]
  rw [List.append_nil] at hmany
  simp only [Option.bind_eq_bind, Option.bind_some, hmany, hmap]
  exact ofMembers?_members hversion

theorem holds_of_ofPack? {input : Bytes} {document : Document}
    (hread : ofPack? input = some document) :
    ∀ record ∈ document.records, record.Holds Format.msgpack.Holds := by
  have hrecords : ∃ before after,
      Pack.readValue (Pack.maxDepth - 1) before =
        some (.list (document.records.map Record.toValue), after) := by
    simp only [ofPack?, Option.bind_eq_bind, Option.bind_eq_some_iff, Prod.exists] at hread
    obtain ⟨head, rest, -, hbody⟩ := hread
    split at hbody
    next size tail =>
        simp only [Option.bind_eq_some_iff, Prod.exists] at hbody
        obtain ⟨fields, last, hmany, hmembers⟩ := hbody
        obtain ⟨⟨key, found⟩, hfield, hfound⟩ :=
          List.mem_filterMap.mp (records_of_ofMembers? hmembers)
        obtain ⟨_, _, hpair⟩ := Pack.mem_readMany hmany hfield
        obtain ⟨middle, -, hmember⟩ := Pack.readPair_eq_some hpair
        simp only at hfound hmember
        subst hfound
        exact ⟨middle, _, readValue_of_readPackMember hmember⟩
    next size tail =>
        simp only [Option.bind_eq_some_iff, Prod.exists] at hbody
        obtain ⟨items, last, hmany, hmembers⟩ := hbody
        unfold ofList? at hmembers
        split_ifs at hmembers with hlength
        have hitem := (List.of_mem_zip (records_of_ofMembers? hmembers)).2
        exact Pack.mem_readMany hmany hitem
    next => simp at hbody
  obtain ⟨before, after, hvalue⟩ := hrecords
  obtain ⟨hsorted, hdepth⟩ := Pack.sorted_of_readValue hvalue
  exact holds_of_members hsorted hdepth (by simp)

end Document

theorem length_ofText_le {s : String} {count : Nat} (hs : s.toList.length ≤ count) :
    (Bytes.ofText s).length ≤ 4 * count := by
  rw [Bytes.ofText_eq_ofChars]
  have hchars : ∀ chars : List Char, (Bytes.ofChars chars).length ≤ 4 * chars.length := by
    intro chars
    induction chars with
    | nil => simp
    | cons c rest ih =>
        have hchar : (String.utf8EncodeChar c).length ≤ 4 := by
          rw [String.length_utf8EncodeChar]
          exact c.utf8Size_le_four
        rw [Bytes.ofChars_cons, List.length_append, List.length_cons]
        omega
  exact (hchars s.toList).trans (by omega)

theorem fits_of_isTableName {name : String} (hname : isTableName name = true) :
    Pack.Fits (.text name) := by
  simp only [isTableName, Bool.and_eq_true, decide_eq_true_eq] at hname
  have hlength := length_ofText_le hname.1.2
  rw [Pack.Fits, Pack.sizeLimit]
  unfold maxTableName at hlength
  omega

namespace Table

/-- Every text, name, list and map in the table, and the list of its records, is smaller than the
size that MessagePack can write. -/
def Fits (table : Table) : Prop :=
  Pack.Fits (.list (table.records.map Record.toValue))

theorem decode_encode_msgpack {table : Table} {name : String} (hname : isTableName name = true)
    (hvalid : table.Valid) (hholds : table.Holds Format.msgpack.Holds) (hfits : table.Fits)
    (indented : Bool) :
    decode .msgpack name (table.encode .msgpack indented name) = .ok table := by
  have hitems : ∀ item ∈ table.records.map Record.toValue,
      item.Sorted ∧ item.depth ≤ Format.msgpack.fieldDepth + 1 := by
    intro item hitem
    obtain ⟨record, hrecord, rfl⟩ := List.mem_map.mp hitem
    exact ⟨Record.sorted_toValue (hholds record hrecord) fun _ hvalue => hvalue.sorted,
      Record.depth_toValue (hholds record hrecord) fun _ hvalue => hvalue.depth⟩
  have hsorted : (Value.list (table.records.map Record.toValue)).Sorted :=
    (Value.sorted_list_iff _).mpr fun item hitem => (hitems item hitem).1
  have hdepth : (Value.list (table.records.map Record.toValue)).depth ≤
      Format.msgpack.fieldDepth + 2 :=
    (Value.depth_list_le_iff _ _).mpr ⟨by omega, fun item hitem => (hitems item hitem).2⟩
  have hmembers : (table.document name).members =
      [(.version, .integer (Int64.ofNat formatVersion)), (.table, .text name),
        (.nextId, .integer table.nextId),
        (.records, .list (table.records.map Record.toValue))] := rfl
  refine hvalid.decode_eq (Document.ofPack?_write (by rw [document_version]; decide) ?_ ?_ ?_)
  · rw [hmembers]
    simp only [List.forall_mem_cons]
    exact ⟨trivial, trivial, trivial, hsorted, by simp⟩
  · rw [hmembers]
    simp only [List.forall_mem_cons]
    exact ⟨trivial, fits_of_isTableName hname, trivial, hfits, by simp⟩
  · rw [hmembers]
    simp only [List.forall_mem_cons]
    exact ⟨Nat.zero_le _, Nat.zero_le _, Nat.zero_le _, hdepth, by simp⟩

/-- A valid table whose fields nest at most 1020 levels deep is read back from its document, whatever
numbers it holds.  Every table that operations reach from the empty one or from a decoded one is
such a table. -/
theorem decode_msgpack_encode {name : String} (hname : isTableName name = true) (indented : Bool) :
    (∀ table : Table, table.Valid →
      table.Holds (fun value => value.Sorted ∧ value.depth ≤ 1020) → table.Fits →
        decode .msgpack name (table.encode .msgpack indented name) = .ok table) ∧
    ∀ start table : Table,
      (start = empty ∨ ∃ owner input, decode .msgpack owner input = .ok start) →
      start.Reaches table → table.Fits →
        decode .msgpack name (table.encode .msgpack indented name) = .ok table := by
  constructor
  · intro table hvalid hholds hfits
    have hformat : table.Holds Format.msgpack.Holds := fun record hrecord =>
      ⟨(hholds record hrecord).sorted, fun field hfield =>
        have hvalue := (hholds record hrecord).fields field hfield
        ⟨hvalue.1, hvalue.2, by simp⟩⟩
    exact decode_encode_msgpack hname hvalid hformat hfits indented
  · intro start table hstart hreaches hfits
    have hbase : start.Valid ∧ start.Holds Format.msgpack.Holds := by
      rcases hstart with rfl | ⟨owner, input, hdecode⟩
      · exact ⟨valid_empty, holds_empty⟩
      · obtain ⟨hvalid, hread⟩ := eq_of_decode hdecode
        exact ⟨hvalid, Document.holds_of_ofPack? hread⟩
    exact decode_encode_msgpack hname (hbase.1.reaches hreaches)
      (hbase.2.reaches Format.msgpack.holds_of_storable hreaches) hfits indented

/-- A record with an infinite double and a nested list, as only a file can bring it in. -/
private def infiniteRecord : Record :=
  ⟨[("id", .integer 7), ("ratio", .float (.ofParts true Double.infinite)),
    ("tags", .list [.null, .list [.integer (-1), .text "\u00e9"]])]⟩

theorem decode_msgpack_encode_infinite :
    decode .msgpack "users" (encode .msgpack false "users" ⟨[infiniteRecord], [.integer 7], 8⟩) =
        .ok ⟨[infiniteRecord], [.integer 7], 8⟩ ∧
      decode .msgpack "users" (encode .msgpack false "users" empty.clear) = .ok empty.clear := by
  have hname : isTableName "users" = true := by decide
  have hread := decode_msgpack_encode hname false
  constructor
  · refine hread.1 _ ((ofParts?_eq_ok_iff [infiniteRecord] 8 _).mp rfl).1 ?_ ?_
    · intro record hrecord
      rw [List.mem_singleton.mp hrecord]
      refine ⟨by simp only [infiniteRecord, Keyed.Sorted, Keyed.names]; decide +kernel, ?_⟩
      simp [infiniteRecord, Value.Sorted, Value.AllSorted, Value.depth, Value.itemsDepth]
    · simp only [Fits, infiniteRecord, Record.toValue, List.map_cons, List.map_nil, Pack.Fits,
        Pack.AllFit, Pack.FieldsFit]
      decide
  · apply hread.2 empty _ (Or.inl rfl) (Relation.ReflTransGen.single Change.clear)
    simp [Fits, empty, clear, Pack.Fits, Pack.AllFit, Pack.sizeLimit]

end Table

end DocumentStore
