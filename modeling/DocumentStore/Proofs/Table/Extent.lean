import DocumentStore.Proofs.Json.Extension
import DocumentStore.Proofs.Json.Written
import DocumentStore.Proofs.Pack.Extension
import DocumentStore.Proofs.Pack.Written
import DocumentStore.Proofs.Table.Agreement
import Mathlib.Data.List.TakeWhile

/-!
# Where table documents end

Whatever is read from a written document is that document but for its records, and it is read up to
the end.  So a file that is cut short is refused, and so is one that stands under the name of
another table or in the place of the other format.  What comes after a document is refused in JSON
and not looked at in MessagePack.
-/

namespace DocumentStore

namespace Document

open Json (Layout EndsNumeral isBlank fieldBytes)

/-! ## Members -/

/-- The member is found with a value that can stand for the written one. -/
def Recalls (entry : Member × Value) (found : Option (Member × Value)) : Prop :=
  ∃ item : Value, found = some (entry.1, item) ∧ item.StandsFor entry.2

/-- The members decide all of a document but its records. -/
theorem eq_of_recalls {κ : Type} {document found : Document}
    {fields : List (κ × Option (Member × Value))} (hversion : document.version < 2 ^ 32)
    (hfields : List.Forall₂ (fun entry field => Recalls entry field.2) document.members fields)
    (hfound : ofMembers? (fields.filterMap Prod.snd) = some found) :
    ∃ records, found = { document with records } := by
  have hmembers : ∃ item, fields.filterMap Prod.snd =
      [(.version, .integer (Int64.ofNat document.version)), (.table, .text document.table),
        (.nextId, .integer document.nextId), (.records, item)] := by
    unfold members at hfields
    rcases hfields with _ | ⟨⟨version, hv, hversionValue⟩, hfields⟩
    rcases hfields with _ | ⟨⟨table, ht, htable⟩, hfields⟩
    rcases hfields with _ | ⟨⟨nextId, hn, hnextId⟩, hfields⟩
    rcases hfields with _ | ⟨⟨item, hi, -⟩, hfields⟩
    cases hfields
    refine ⟨item, ?_⟩
    rw [hversionValue rfl rfl] at hv
    rw [htable rfl rfl] at ht
    rw [hnextId rfl rfl] at hn
    simp [hv, ht, hn, hi]
  obtain ⟨item, hmembers⟩ := hmembers
  rw [hmembers, ofMembers?_ordered] at hfound
  simp only [Value.integer?, Value.text?, Option.bind_eq_bind, Option.bind_some,
    Option.bind_eq_some_iff, toInt_version hversion, Int.toNat_natCast] at hfound
  obtain ⟨items, -, records, -, hfound⟩ := hfound
  split_ifs at hfound
  exact ⟨records, (Option.some.inj hfound).symm⟩

/-! ## JSON -/

theorem extendsPast_readJsonMember (name : String) :
    ExtendsPast (readJsonMember name) (readJsonMember name) := by
  intro input found rest hread hrest more
  unfold readJsonMember at hread ⊢
  cases hname : Member.ofName? name with
  | some member =>
      rw [hname] at hread
      exact (Json.extendsPast_readValue _).map (fun value => some (member, value)) hread hrest more
  | none =>
      rw [hname] at hread
      have hdepth : input.length ≤ (input ++ more).length := by simp
      exact (Json.extendsPast_skipValue hdepth).map (fun _ => none) hread hrest more

theorem readJsonMember_nil (name : String) : readJsonMember name [] = none := by
  unfold readJsonMember
  cases Member.ofName? name with
  | some member => rw [Json.readValue_nil]; rfl
  | none => rw [Json.skipValue_nil]; rfl

/-- The fields of a document, each with its name. -/
def readJsonFields (input : Bytes) : Option (List (String × Option (Member × Value)) × Bytes) :=
  Json.readFields (Json.readField Json.readText readJsonMember) input.length input

theorem extends_readJsonFields : Extends readJsonFields readJsonFields := by
  intro input fields rest hread more
  have hfield := Json.extendsPast_readField Json.extends_readText extendsPast_readJsonMember
    readJsonMember_nil
  have hlength : input.length ≤ (input ++ more).length := by simp
  exact Json.extends_readFields hfield hlength hread more

theorem ofJson?_brace (input : Bytes) :
    ofJson? (0x7b :: input) = (readJsonFields input).bind fun read =>
      if (Json.skipBlanks read.2).isEmpty then ofMembers? (read.1.filterMap Prod.snd)
      else none := by
  rw [ofJson?, Json.skipBlanks_cons rfl]
  rfl

theorem yields_readJsonMember (layout : Layout) (entry : Member × Value) {rest : Bytes}
    (hrest : EndsNumeral rest) :
    Yields (readJsonMember entry.1.name) (Recalls entry)
      (Json.skipBlanks (Bytes.ofChars (Json.write layout 1 entry.2) ++ rest)) rest := by
  have hstart := (Json.startsValue_write layout 1 entry.2).append rest
  have hvalue := Json.yields_readValue_write layout 1 entry.2 (Json.maxDepth - 1) hrest
  rw [hstart.skipBlanks_eq]
  intro found after hread
  rw [readJsonMember, Member.ofName?_name] at hread
  exact (hvalue.map _ (fun value => some (entry.1, value)) fun item hitem => ⟨item, rfl, hitem⟩) hread

/-- The bytes of a member in a JSON document. -/
def memberBytes (layout : Layout) (entry : Member × Value) : Bytes :=
  fieldBytes layout 1 (entry.1.name, entry.2)

theorem yields_readField_member (layout : Layout) (entry : Member × Value) {rest : Bytes}
    (hrest : EndsNumeral rest) {lead : Bytes} (hlead : ∀ byte ∈ lead, isBlank byte = true) :
    Yields (Json.readField Json.readText readJsonMember) (fun field => Recalls entry field.2)
      (lead ++ (memberBytes layout entry ++ rest)) rest := by
  have hread := Json.yields_readField readJsonMember
    (Json.readText_quoted entry.1.name) (yields_readJsonMember layout entry hrest) layout hlead
  rw [memberBytes, fieldBytes, List.append_assoc, List.append_assoc]
  exact hread.mono fun _ hfound => hfound.2

/-- A written document after its opening brace, and where its fields end. -/
theorem exists_jsonFields (layout : Layout) (document : Document) :
    ∃ body, Bytes.ofChars (Json.write layout 0 document.toValue) = 0x7b :: body ∧
      ∀ rest, Yields readJsonFields
        (List.Forall₂ (fun entry field => Recalls entry field.2) document.members)
        (body ++ rest) rest := by
  obtain ⟨first, later, hmembers⟩ : ∃ first later, document.members = first :: later := ⟨_, _, rfl⟩
  have hwrite : ∀ rest, Bytes.ofChars (Json.write layout 0 document.toValue) ++ rest =
      0x7b :: (Bytes.ofChars (Json.lineBreak layout 1) ++ (memberBytes layout first ++
        Json.laterMembers (memberBytes layout) (Bytes.ofChars (Json.lineBreak layout 1))
          (Bytes.ofChars (Json.lineBreak layout 0)) 0x7d rest later)) := by
    intro rest
    cases hmembers
    exact Json.ofChars_write_map layout 0 _ _ rest
  have hbody := hwrite []
  rw [List.append_nil] at hbody
  refine ⟨_, hbody, fun rest => ?_⟩
  have htext := hwrite rest
  rw [hbody, List.cons_append] at htext
  rw [(List.cons.inj htext).2, hmembers]
  intro fields after hread
  rw [readJsonFields, Json.readFields_eq] at hread
  exact Json.yields_readMembers (Or.inr rfl) (Json.isBlank_lineBreak layout 1)
    (Json.isBlank_lineBreak layout 0)
    (fun entry _ rest hrest lead hlead => yields_readField_member layout entry hrest hlead) _
    (Json.isBlank_lineBreak layout 1) rest hread

/-- Only blanks are accepted after a written document. -/
theorem eq_of_ofJson?_write {document found : Document} (hversion : document.version < 2 ^ 32)
    (layout : Layout) {rest : Bytes}
    (hread : ofJson? (Bytes.ofChars (Json.write layout 0 document.toValue) ++ rest) = some found) :
    (∃ records, found = { document with records }) ∧ ∀ byte ∈ rest, isBlank byte = true := by
  obtain ⟨body, hwrite, hfields⟩ := exists_jsonFields layout document
  rw [hwrite, List.cons_append, ofJson?_brace, Option.bind_eq_some_iff] at hread
  obtain ⟨⟨fields, after⟩, hread, hend⟩ := hread
  obtain ⟨hrecalls, rfl⟩ := hfields rest hread
  split_ifs at hend with hblank
  refine ⟨eq_of_recalls hversion hrecalls hend, ?_⟩
  rw [List.isEmpty_iff, Json.skipBlanks, List.dropWhile_eq_nil_iff] at hblank
  exact hblank

theorem ofJson?_torn (layout : Layout) (document : Document) {torn more : Bytes}
    (htorn : torn ++ more = Bytes.ofChars (Json.write layout 0 document.toValue))
    (hmore : more ≠ []) : ofJson? torn = none := by
  obtain ⟨body, hwrite, hfields⟩ := exists_jsonFields layout document
  rw [hwrite] at htorn
  cases torn with
  | nil => rfl
  | cons byte torn =>
      obtain ⟨rfl, rfl⟩ := List.cons.inj htorn
      have hend := hfields []
      rw [List.append_nil] at hend
      rw [ofJson?_brace, extends_readJsonFields.eq_none hmore hend, Option.bind_none]

/-! ## MessagePack -/

theorem extends_readPackKey : Extends readPackKey readPackKey := by
  intro input key rest hread more
  simp only [readPackKey, Option.bind_eq_bind, Option.bind_eq_some_iff, Prod.exists] at hread ⊢
  obtain ⟨head, after, hhead, hbody⟩ := hread
  refine ⟨head, _, Pack.extends_readHead hhead more, ?_⟩
  cases head with
  | text | binary =>
      simp only [Option.bind_eq_some_iff, Prod.exists] at hbody ⊢
      obtain ⟨bytes, last, htake, heq⟩ := hbody
      cases heq
      exact ⟨bytes, _, Bytes.extends_take? _ htake more, rfl⟩
  | unsigned n =>
      cases hbody
      rfl
  | null | boolean | signed | single | double | list | map | extension => cases hbody

theorem extends_readPackMember (key : Option Member) :
    Extends (readPackMember key) (readPackMember key) := by
  cases key with
  | none => exact (Pack.extends_skipValue _).map fun _ => none
  | some member => exact (Pack.extends_readValue _).map fun value => some (member, value)

/-- The members of a MessagePack document, each with what its key names. -/
def readPackFields (size : Nat) (input : Bytes) :
    Option (List (Option Member × Option (Member × Value)) × Bytes) :=
  Pack.readMany (Pack.readPair readPackKey readPackMember) size input

theorem extends_readPackFields (size : Nat) :
    Extends (readPackFields size) (readPackFields size) :=
  Pack.extends_readMany (Pack.extends_readPair extends_readPackKey extends_readPackMember) size

/-- What follows a MessagePack document is not looked at. -/
theorem ofPack?_append {input : Bytes} {document : Document} (hread : ofPack? input = some document)
    (more : Bytes) : ofPack? (input ++ more) = some document := by
  simp only [ofPack?, Option.bind_eq_bind, Option.bind_eq_some_iff, Prod.exists] at hread ⊢
  obtain ⟨head, after, hhead, hbody⟩ := hread
  refine ⟨head, _, Pack.extends_readHead hhead more, ?_⟩
  cases head with
  | map size =>
      simp only [Option.bind_eq_some_iff, Prod.exists] at hbody ⊢
      obtain ⟨fields, last, hfields, hmembers⟩ := hbody
      exact ⟨fields, _, extends_readPackFields size hfields more, hmembers⟩
  | list size =>
      simp only [Option.bind_eq_some_iff, Prod.exists] at hbody ⊢
      obtain ⟨items, last, hitems, hmembers⟩ := hbody
      exact ⟨items, _, Pack.extends_readMany (Pack.extends_readValue _) size hitems more, hmembers⟩
  | null | boolean | unsigned | signed | single | double | text | binary | extension => cases hbody

theorem yields_readPackFields {document : Document}
    (hfits : ∀ entry ∈ document.members, Pack.Fits entry.2) (rest : Bytes) :
    Yields (readPackFields document.members.length)
      (List.Forall₂ (fun entry field => Recalls entry field.2) document.members)
      ((document.members.flatMap fun entry =>
        Pack.writeText entry.1.name ++ Pack.write entry.2) ++ rest) rest := by
  refine Pack.yields_readMany (fun entry hentry rest => ?_) rest
  have hmember : ∀ rest, Yields (readPackMember (some entry.1)) (Recalls entry)
      (Pack.write entry.2 ++ rest) rest := fun rest =>
    (Pack.yields_readValue_write (hfits entry hentry) _ rest).map _
      (fun value => some (entry.1, value)) fun item hitem => ⟨item, rfl, hitem⟩
  exact (Pack.yields_readPair readPackMember (readPackKey_writeText entry.1) hmember rest).mono
    fun _ hfound => hfound.2

theorem write_toValue (document : Document) :
    Pack.write document.toValue = Pack.mapHeader document.members.length ++
      document.members.flatMap fun entry => Pack.writeText entry.1.name ++ Pack.write entry.2 := by
  rw [toValue_eq, Pack.write, List.length_map, Pack.writeFields_eq_flatMap, List.flatMap_map]

theorem ofPack?_mapHeader {size : Nat} (hsize : size < Pack.sizeLimit) (input : Bytes) :
    ofPack? (Pack.mapHeader size ++ input) = (readPackFields size input).bind fun read =>
      ofMembers? (read.1.filterMap Prod.snd) := by
  rw [ofPack?, Pack.readHead_mapHeader hsize]
  rfl

theorem length_members_lt (document : Document) : document.members.length < Pack.sizeLimit := by
  unfold Pack.sizeLimit
  simp [members]

theorem eq_of_ofPack?_write {document found : Document} (hversion : document.version < 2 ^ 32)
    (hfits : ∀ entry ∈ document.members, Pack.Fits entry.2)
    (hread : ofPack? (Pack.write document.toValue) = some found) :
    ∃ records, found = { document with records } := by
  rw [write_toValue, ofPack?_mapHeader document.length_members_lt, Option.bind_eq_some_iff] at hread
  obtain ⟨⟨fields, after⟩, hread, hmembers⟩ := hread
  have hend := yields_readPackFields hfits []
  rw [List.append_nil] at hend
  exact eq_of_recalls hversion (hend hread).1 hmembers

theorem ofPack?_torn {document : Document}
    (hfits : ∀ entry ∈ document.members, Pack.Fits entry.2) {torn more : Bytes}
    (htorn : torn ++ more = Pack.write document.toValue) (hmore : more ≠ []) :
    ofPack? torn = none := by
  have hsmall : Pack.mapHeader document.members.length = [0x84] := rfl
  rw [write_toValue, hsmall, List.singleton_append] at htorn
  cases torn with
  | nil => rfl
  | cons byte torn =>
      obtain ⟨rfl, hbody⟩ := List.cons.inj htorn
      have hend := yields_readPackFields hfits []
      rw [List.append_nil, ← hbody] at hend
      have hnone := (extends_readPackFields _).eq_none hmore hend
      have hread := ofPack?_mapHeader document.length_members_lt torn
      rw [hsmall, hnone] at hread
      exact hread

/-! ## Both formats -/

theorem write_json (document : Document) (indented : Bool) :
    document.write .json indented = Bytes.ofChars
      (Json.write (if indented then .indented else .compact) 0 document.toValue) := by
  rw [write, Bytes.ofText_eq_ofChars, Json.print, String.toList_ofList]

theorem ofPack?_write_json (document : Document) (indented : Bool) :
    ofPack? (document.write .json indented) = none := by
  obtain ⟨body, hwrite, -⟩ :=
    exists_jsonFields (if indented then .indented else .compact) document
  rw [write_json, hwrite]
  rfl

theorem ofJson?_write_msgpack (document : Document) (indented : Bool) :
    ofJson? (document.write .msgpack indented) = none := by
  have hsmall : Pack.mapHeader document.members.length = [0x84] := rfl
  have hread : ∀ input, Json.readValue Json.maxDepth (0x84 :: input) = none := by
    intro input
    rw [Json.readValue_scalar (by decide) (by decide)]
    rfl
  rw [write, write_toValue, hsmall, List.singleton_append, ofJson?, Json.skipBlanks_cons rfl]
  simp [Json.read?, Json.skipBlanks_cons, Json.isBlank, hread]

end Document

namespace Table

theorem members_fit {table : Table} {name : String} (hname : isTableName name = true)
    (hfits : table.Fits) : ∀ entry ∈ (table.document name).members, Pack.Fits entry.2 := by
  rw [show (table.document name).members =
      [(.version, .integer (Int64.ofNat formatVersion)), (.table, .text name),
        (.nextId, .integer table.nextId),
        (.records, .list (table.records.map Record.toValue))] from rfl]
  simp only [List.forall_mem_cons]
  exact ⟨trivial, fits_of_isTableName hname, trivial, hfits, by simp⟩

end Table

end DocumentStore
