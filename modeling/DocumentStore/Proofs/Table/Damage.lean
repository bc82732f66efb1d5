import DocumentStore.Proofs.Table.Extent

/-!
# Damaged table files

A file that was cut short, that stands under the name of another table or that holds the other
format is reported as corrupt.  So is a JSON file with anything but blanks after its document.  A
MessagePack file is not: what follows its document is not looked at, and the next write of the table
drops it.
-/

namespace DocumentStore

namespace Table

variable {format : Format} {name : String} {table : Table}

theorem read?_torn (hname : isTableName name = true) (hfits : format = .msgpack → table.Fits)
    {indented : Bool} {torn more : Bytes} (htorn : torn ++ more = table.encode format indented name)
    (hmore : more ≠ []) : Document.read? format torn = none := by
  cases format with
  | json =>
      rw [encode, Document.write_json] at htorn
      exact Document.ofJson?_torn _ _ htorn hmore
  | msgpack => exact Document.ofPack?_torn (members_fit hname (hfits rfl)) htorn hmore

/-- Whatever is read from the file of a table belongs to that table. -/
theorem eq_of_read?_encode (hname : isTableName name = true)
    (hfits : format = .msgpack → table.Fits) {indented : Bool} {found : Document}
    (hread : Document.read? format (table.encode format indented name) = some found) :
    ∃ records, found = { table.document name with records } := by
  have hversion : (table.document name).version < 2 ^ 32 := by
    rw [document_version]
    decide
  cases format with
  | json =>
      rw [encode, Document.write_json, ← List.append_nil (Bytes.ofChars _)] at hread
      exact (Document.eq_of_ofJson?_write hversion _ hread).1
  | msgpack => exact Document.eq_of_ofPack?_write hversion (members_fit hname (hfits rfl)) hread

theorem read?_encode_other {other : Format} (hother : other ≠ format) (indented : Bool) :
    Document.read? other (table.encode format indented name) = none := by
  cases format <;> cases other
  · exact absurd rfl hother
  · exact Document.ofPack?_write_json _ indented
  · exact Document.ofJson?_write_msgpack _ indented
  · exact absurd rfl hother

/-! ## What comes after a document -/

theorem read?_encode_append_json {indented : Bool} {extra : Bytes}
    (hextra : ∃ byte ∈ extra, Json.isBlank byte = false) :
    Document.read? .json (table.encode .json indented name ++ extra) = none := by
  have hversion : (table.document name).version < 2 ^ 32 := by
    rw [document_version]
    decide
  rw [Document.read?, Option.eq_none_iff_forall_ne_some, encode, Document.write_json]
  intro found hread
  obtain ⟨byte, hbyte, hblank⟩ := hextra
  have hall := (Document.eq_of_ofJson?_write hversion _ hread).2 byte hbyte
  rw [hblank] at hall
  cases hall

theorem decode_append_msgpack {input : Bytes} (hdecode : decode .msgpack name input = .ok table)
    (extra : Bytes) : decode .msgpack name (input ++ extra) = .ok table := by
  obtain ⟨hvalid, hread⟩ := eq_of_decode hdecode
  exact hvalid.decode_eq (Document.ofPack?_append hread extra)

end Table

namespace TableFiles

theorem decode_of_read?_eq_none {files : TableFiles} {input : Bytes}
    (hread : Document.read? files.format input = none) (path name : String) :
    files.decode path name input = .error (.corruptFile path .unreadable) := by
  rw [decode, Table.decode, hread]
  rfl

theorem decode_of_read?_eq_some {files : TableFiles} {input : Bytes} {document : Document}
    (hread : Document.read? files.format input = some document)
    (hversion : document.version = formatVersion) {name : String} (hname : document.table ≠ name)
    (path : String) :
    files.decode path name input = .error (.corruptFile path (.otherTable document.table name)) := by
  simp [decode, Table.decode, hread, hversion, hname, Except.mapError]

/-- A torn or misplaced file never loads. -/
theorem torn_or_misplaced_is_corrupt (files : TableFiles) {name : String}
    (hname : isTableName name = true) {table : Table}
    (hfits : files.format = .msgpack → table.Fits) (path : String) :
    (∀ torn, torn <+: files.encode name table → torn ≠ files.encode name table → ∀ owner,
      files.decode path owner torn = .error (.corruptFile path .unreadable)) ∧
    (∀ owner, owner ≠ name →
      files.decode path owner (files.encode name table) =
          .error (.corruptFile path .unreadable) ∨
        files.decode path owner (files.encode name table) =
          .error (.corruptFile path (.otherTable name owner))) ∧
    ∀ other : TableFiles, other.format ≠ files.format → ∀ owner,
      other.decode path owner (files.encode name table) =
        .error (.corruptFile path .unreadable) := by
  refine ⟨?_, ?_, ?_⟩
  · rintro torn ⟨more, hmore⟩ hne owner
    have hrest : more ≠ [] := by
      rintro rfl
      exact hne (by rw [← hmore, List.append_nil])
    exact decode_of_read?_eq_none (Table.read?_torn hname hfits hmore hrest) path owner
  · intro owner howner
    cases hread : Document.read? files.format (files.encode name table) with
    | none => exact Or.inl (decode_of_read?_eq_none hread path owner)
    | some found =>
        obtain ⟨records, rfl⟩ := Table.eq_of_read?_encode hname hfits hread
        exact Or.inr (decode_of_read?_eq_some hread rfl howner.symm path)
  · intro other hother owner
    exact decode_of_read?_eq_none (Table.read?_encode_other hother files.indented) path owner

/-- A map in a list. -/
private def nestedTags : Value :=
  .list [.null, .map [("home", .text "a")]]

private def nested : Table :=
  ⟨[⟨[(idField, .integer 1), ("tags", nestedTags)]⟩], [.integer 1], 2⟩

private theorem fits_nested : nested.Fits := by
  simp only [Table.Fits, nested, nestedTags, Record.toValue, List.map_cons, List.map_nil,
    Pack.Fits, Pack.AllFit, Pack.FieldsFit]
  decide

/-- The record is added to the empty table. -/
private theorem reaches_nested : Table.empty.Reaches nested := by
  have hsorted : (Value.map [("tags", nestedTags)]).Sorted := by
    simp [nestedTags, Value.Sorted, Value.AllSorted, Value.FieldsSorted, Keyed.Sorted, Keyed.names]
  have hprepare : Table.empty.prepare "users" (.map [("tags", nestedTags)]) =
      .ok (⟨[(idField, .integer 1), ("tags", nestedTags)]⟩, ⟨[], [], 2⟩) := by
    with_unfolding_all rfl
  exact .single (.push hsorted hprepare)

/-- Without its last byte the file of the table is torn. -/
theorem torn_or_misplaced_is_corrupt_nested :
    let files : TableFiles := ⟨⟨["db"]⟩, .msgpack, false⟩
    let input := files.encode "users" nested
    files.decode "db/users.msgpack" "users" input.dropLast =
        .error (.corruptFile "db/users.msgpack" .unreadable) ∧
      files.decode "db/orders.msgpack" "orders" input ≠ .ok nested ∧
      (⟨⟨["db"]⟩, .json, false⟩ : TableFiles).decode "db/users.json" "users" input =
        .error (.corruptFile "db/users.json" .unreadable) := by
  intro files input
  have hname : isTableName "users" = true := by decide
  have hcorrupt := torn_or_misplaced_is_corrupt files hname fun _ => fits_nested
  refine ⟨?_, ?_, ?_⟩
  · refine (hcorrupt _).1 _ (List.dropLast_prefix input) ?_ "users"
    decide
  · rcases (hcorrupt "db/orders.msgpack").2.1 "orders" (by decide) with hread | hread <;>
      simp [input, hread]
  · exact (hcorrupt _).2.2 _ (by decide) "users"

/-! ## Bytes after the table -/

/-- Anything but blanks after a JSON document is reported.  After a MessagePack document nothing
is: the table is read as if the file ended there. -/
theorem extra_data_reported_in_json_only (files : TableFiles) {name : String}
    (hname : isTableName name = true) {start table : Table}
    (hstart : start = Table.empty ∨ ∃ owner input, Table.decode files.format owner input = .ok start)
    (hreaches : start.Reaches table) (hfits : files.format = .msgpack → table.Fits)
    (path : String) (extra : Bytes) :
    (files.format = .json → (∃ byte ∈ extra, Json.isBlank byte = false) →
      files.decode path name (files.encode name table ++ extra) =
        .error (.corruptFile path .unreadable)) ∧
    (files.format = .msgpack →
      files.decode path name (files.encode name table ++ extra) = .ok table) := by
  obtain ⟨folder, format, indented⟩ := files
  constructor
  · rintro rfl hextra
    exact decode_of_read?_eq_none (Table.read?_encode_append_json hextra) path name
  · rintro rfl
    have hreadable : start.Readable .msgpack := by
      rcases hstart with rfl | ⟨owner, input, hdecode⟩
      · exact Table.readable_empty .msgpack
      · exact Table.readable_of_decode hdecode
    have hdecode := (hreadable.reaches hreaches).decode_encode hname hfits indented
    rw [decode, encode, Table.decode_append_msgpack hdecode extra]
    rfl

theorem extra_data_reported_in_json_only_nested :
    let json : TableFiles := ⟨⟨["db"]⟩, .json, true⟩
    let msgpack : TableFiles := ⟨⟨["db"]⟩, .msgpack, false⟩
    json.decode "db/users.json" "users" (json.encode "users" nested ++ [0x7d]) =
        .error (.corruptFile "db/users.json" .unreadable) ∧
      msgpack.decode "db/users.msgpack" "users" (msgpack.encode "users" nested ++ [0xc0]) =
        .ok nested := by
  intro json msgpack
  have hname : isTableName "users" = true := by decide
  exact ⟨(extra_data_reported_in_json_only json hname (Or.inl rfl) reaches_nested
      (fun _ => fits_nested) "db/users.json" [0x7d]).1 rfl ⟨0x7d, by decide, by decide⟩,
    (extra_data_reported_in_json_only msgpack hname (Or.inl rfl) reaches_nested
      (fun _ => fits_nested) "db/users.msgpack" [0xc0]).2 rfl⟩

/-- A MessagePack file with a second object after its table is accepted, and the next write of that
table is the file without it. -/
theorem second_object_dropped :
    let files : TableFiles := ⟨⟨["db"]⟩, .msgpack, false⟩
    let input := files.encode "users" Table.empty ++ [0xc0]
    Json.isBlank 0xc0 = false ∧
      files.decode "db/users.msgpack" "users" input = .ok Table.empty ∧
      files.encode "users" Table.empty ≠ input := by
  intro files input
  have hname : isTableName "users" = true := by decide
  have hdecode := Table.decode_encode_msgpack hname Table.valid_empty Table.holds_empty
    (show Table.empty.Fits from ⟨by decide, trivial⟩) false
  refine ⟨by decide, ?_, by simp [input]⟩
  rw [decode, show files.format = .msgpack from rfl]
  simp only [input, encode]
  rw [show files.format = .msgpack from rfl, Table.decode_append_msgpack hdecode]
  rfl

end TableFiles

end DocumentStore
