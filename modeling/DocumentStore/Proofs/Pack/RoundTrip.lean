import DocumentStore.Proofs.Pack.Head
import DocumentStore.Proofs.Value

/-!
# MessagePack values are read back

`readValue_write`: a written value followed by anything is read back with what follows, provided
that its maps are sorted, that no size exceeds four bytes and that it nests no deeper than the
reader allows.  Doubles come back bit by bit.
-/

namespace DocumentStore

namespace Pack

mutual
/-- Every text, name, list and map in the value is smaller than the size limit. -/
def Fits : Value → Prop
  | .text s => (Bytes.ofText s).length < sizeLimit
  | .list items => items.length < sizeLimit ∧ AllFit items
  | .map fields => fields.length < sizeLimit ∧ FieldsFit fields
  | _ => True

def AllFit : List Value → Prop
  | [] => True
  | item :: rest => Fits item ∧ AllFit rest

def FieldsFit : List (String × Value) → Prop
  | [] => True
  | (name, item) :: rest =>
    (Bytes.ofText name).length < sizeLimit ∧ Fits item ∧ FieldsFit rest
end

theorem allFit_iff (items : List Value) : AllFit items ↔ ∀ item ∈ items, Fits item := by
  induction items with
  | nil => simp [AllFit]
  | cons item rest ih => simp [AllFit, ih]

theorem fieldsFit_iff (fields : List (String × Value)) :
    FieldsFit fields ↔
      ∀ field ∈ fields, (Bytes.ofText field.1).length < sizeLimit ∧ Fits field.2 := by
  induction fields with
  | nil => simp [FieldsFit]
  | cons field rest ih =>
      obtain ⟨name, item⟩ := field
      rw [FieldsFit, ih, List.forall_mem_cons, and_assoc]

theorem writeItems_eq_flatMap (items : List Value) : writeItems items = items.flatMap write := by
  induction items with
  | nil => rfl
  | cons item rest ih => simp [writeItems, ih]

theorem writeFields_eq_flatMap (fields : List (String × Value)) :
    writeFields fields = fields.flatMap fun field => writeText field.1 ++ write field.2 := by
  induction fields with
  | nil => rfl
  | cons field rest ih =>
      obtain ⟨name, item⟩ := field
      simp [writeFields, ih]

/-! ## Parts -/

theorem readText_ofText (s : String) (rest : Bytes) :
    readText (Bytes.ofText s).length (Bytes.ofText s ++ rest) = some (s, rest) := by
  simp [readText, Bytes.take?_append rfl]

theorem readName_writeText {s : String} (hsize : (Bytes.ofText s).length < sizeLimit)
    (rest : Bytes) : readName (writeText s ++ rest) = some (s, rest) := by
  rw [readName, readHead_writeText hsize]
  exact readText_ofText s rest

theorem readMany_flatMap {α β : Type} {item : Bytes → Option (α × Bytes)} {encode : β → Bytes}
    (found : β → α) {entries : List β}
    (hitem : ∀ entry ∈ entries, ∀ rest,
      item (encode entry ++ rest) = some (found entry, rest)) (rest : Bytes) :
    readMany item entries.length (entries.flatMap encode ++ rest) =
      some (entries.map found, rest) := by
  induction entries with
  | nil => rfl
  | cons entry entries ih =>
      have hfirst := hitem entry (by simp) (entries.flatMap encode ++ rest)
      have hrest := ih fun other hother => hitem other (List.mem_cons_of_mem _ hother)
      simp only [List.length_cons, List.flatMap_cons, List.append_assoc, readMany, hfirst,
        Option.bind_eq_bind, Option.bind_some, hrest]
      rfl

theorem readPair_append {α β : Type} {key : Bytes → Option (α × Bytes)}
    {item : α → Bytes → Option (β × Bytes)} {first second : Bytes} {a : α} {b : β}
    (hkey : ∀ rest, key (first ++ rest) = some (a, rest))
    (hitem : ∀ rest, item a (second ++ rest) = some (b, rest)) (rest : Bytes) :
    readPair key item (first ++ second ++ rest) = some ((a, b), rest) := by
  simp [readPair, hkey, hitem]

/-! ## Scalars -/

theorem readScalar_integerHead (n : Int64) (rest : Bytes) :
    readScalar (integerHead n.toInt) rest = some (.integer n, rest) := by
  have hlow := n.le_toInt
  have hhigh := n.toInt_lt
  by_cases hsign : 0 ≤ n.toInt
  · have hback : Int64.ofNat n.toInt.toNat = n := by
      rw [← Int64.ofInt_eq_ofNat, Int.toNat_of_nonneg hsign, Int64.ofInt_toInt]
    simp only [integerHead, if_pos hsign, readScalar]
    rw [if_pos (by omega), hback]
  · simp only [integerHead, if_neg hsign, readScalar, Int64.ofInt_toInt]

theorem readHead_writeDouble (x : Double) (rest : Bytes) :
    readHead (0xcb :: Bytes.bigEndian 8 x.bits.toNat ++ rest) = some (.double x.bits, rest) := by
  have hsize : x.bits.toNat < 256 ^ 8 := x.bits.toNat_lt
  have hread := headOf_bigEndian 8 hsize (fun n => Head.double (UInt64.ofNat n)) rest
  rwa [UInt64.ofNat_toNat] at hread

/-- Reading a scalar does not depend on how deep containers may nest. -/
theorem readValue_of_readHead (head : Head) {input rest after : Bytes} {value : Value}
    (hhead : readHead input = some (head, rest))
    (hscalar : readScalar head rest = some (value, after)) (depth : Nat) :
    readValue depth input = some (value, after) := by
  cases depth with
  | zero => simp [readValue, hhead, hscalar]
  | succ depth =>
      rw [readValue, hhead]
      cases head with
      | list size => cases hscalar
      | map size => cases hscalar
      | null | boolean | unsigned | signed | single | double | text | binary | extension =>
          exact hscalar

/-! ## Values -/

theorem readValue_write {value : Value} {depth : Nat} (hsorted : value.Sorted)
    (hfits : Fits value) (hdepth : value.depth ≤ depth) (rest : Bytes) :
    readValue depth (write value ++ rest) = some (value, rest) := by
  induction value using Value.nested generalizing depth rest with
  | null => exact readValue_of_readHead .null rfl rfl depth
  | boolean truth =>
      cases truth with
      | false => exact readValue_of_readHead (.boolean false) rfl rfl depth
      | true => exact readValue_of_readHead (.boolean true) rfl rfl depth
  | integer n =>
      exact readValue_of_readHead _ (readHead_writeInteger n.le_toInt n.toInt_lt rest)
        (readScalar_integerHead n rest) depth
  | float x => exact readValue_of_readHead _ (readHead_writeDouble x rest) rfl depth
  | text s =>
      have hread : readScalar (.text (Bytes.ofText s).length) (Bytes.ofText s ++ rest) =
          some (.text s, rest) := by
        rw [readScalar, readText_ofText]
        rfl
      exact readValue_of_readHead _ (readHead_writeText hfits rest) hread depth
  | list items ih =>
      rw [Value.sorted_list_iff] at hsorted
      rw [Fits, allFit_iff] at hfits
      obtain ⟨hpos, hitems⟩ := (Value.depth_list_le_iff items depth).mp hdepth
      obtain ⟨inner, rfl⟩ : ∃ inner, depth = inner + 1 := ⟨depth - 1, by omega⟩
      have hitem : ∀ item ∈ items, ∀ rest,
          readValue inner (write item ++ rest) = some (item, rest) := fun item hitem rest =>
        ih item hitem (hsorted item hitem) (hfits.2 item hitem) (hitems item hitem) rest
      have hmany := readMany_flatMap id hitem rest
      rw [write, List.append_assoc, readValue, readHead_listHeader hfits.1,
        writeItems_eq_flatMap]
      simp [hmany]
  | map fields ih =>
      rw [Value.sorted_map_iff] at hsorted
      rw [Fits, fieldsFit_iff] at hfits
      obtain ⟨hpos, hitems⟩ := (Value.depth_map_le_iff fields depth).mp hdepth
      obtain ⟨inner, rfl⟩ : ∃ inner, depth = inner + 1 := ⟨depth - 1, by omega⟩
      have hfield : ∀ field ∈ fields, ∀ rest,
          readPair readName (fun _ => readValue inner)
            (writeText field.1 ++ write field.2 ++ rest) = some (field, rest) := by
        intro field hfield rest
        exact readPair_append (readName_writeText (hfits.2 field hfield).1)
          (ih field hfield (hsorted.2 field hfield) (hfits.2 field hfield).2
            (hitems field hfield)) rest
      have hmany := readMany_flatMap id hfield rest
      rw [write, List.append_assoc, readValue, readHead_mapHeader hfits.1,
        writeFields_eq_flatMap]
      simp [hmany, hsorted.1.ofList_eq]

end Pack

end DocumentStore
