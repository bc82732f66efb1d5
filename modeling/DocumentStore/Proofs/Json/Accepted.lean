import DocumentStore.Proofs.Json.Grammar
import DocumentStore.Proofs.Value

/-!
# What the JSON reader accepts

Every value that is read has sorted maps and finite doubles, and it nests no deeper than the reader
was told to go.
-/

namespace DocumentStore

namespace Json

theorem mem_readMembers {α : Type} {close : UInt8} {member : Bytes → Option (α × Bytes)}
    {fuel : Nat} {input rest : Bytes} {members : List α}
    (hread : readMembers close member fuel input = some (members, rest)) {found : α}
    (hfound : found ∈ members) : ∃ before after, member before = some (found, after) := by
  induction fuel generalizing input rest members with
  | zero => cases hread
  | succ fuel ih =>
      obtain ⟨_, first, middle, later, heq, rfl, hfirst, hbody⟩ := readMembers_eq_some hread
      cases heq
      rcases List.mem_cons.mp hfound with rfl | hmem
      · exact ⟨input, middle, hfirst⟩
      · rcases hbody with ⟨-, rfl⟩ | ⟨tail, -, hlater⟩
        · cases hmem
        · exact ih hlater hmem

theorem mem_readItems {α : Type} {item : Bytes → Option (α × Bytes)} {fuel : Nat}
    {input rest : Bytes} {items : List α}
    (hread : readItems item fuel input = some (items, rest)) {found : α} (hfound : found ∈ items) :
    ∃ before after, item before = some (found, after) := by
  rw [readItems_eq] at hread
  obtain ⟨before, after, hitem⟩ := mem_readMembers hread hfound
  exact ⟨skipBlanks before, after, hitem⟩

theorem mem_readFields {α : Type} {field : Bytes → Option (α × Bytes)} {fuel : Nat}
    {input rest : Bytes} {fields : List α}
    (hread : readFields field fuel input = some (fields, rest)) {found : α}
    (hfound : found ∈ fields) : ∃ before after, field before = some (found, after) := by
  rw [readFields_eq] at hread
  exact mem_readMembers hread hfound

theorem readField_eq_some {α β : Type} {name : Bytes → Option (α × Bytes)}
    {item : α → Bytes → Option (β × Bytes)} {input rest : Bytes} {found : α × β}
    (hread : readField name item input = some (found, rest)) :
    ∃ middle, item found.1 middle = some (found.2, rest) := by
  unfold readField at hread
  split at hread
  next tail htail =>
      simp only [Option.bind_eq_bind, Option.bind_eq_some_iff, Prod.exists] at hread
      obtain ⟨key, after, -, hbody⟩ := hread
      split at hbody
      next last hlast =>
          simp only [Option.bind_eq_some_iff, Prod.exists] at hbody
          obtain ⟨value, after, hitem, heq⟩ := hbody
          cases heq
          exact ⟨_, hitem⟩
      next => simp at hbody
  next => simp at hread

theorem finite_of_toValue? {numeral : Numeral} {value : Value}
    (hvalue : numeral.toValue? = some value) :
    value.Sorted ∧ value.isFinite = true ∧ value.depth = 0 := by
  simp only [Numeral.toValue?] at hvalue
  generalize (if numeral.negative = true then _ else _ : Int) = n at hvalue
  split_ifs at hvalue with hinteger hfinite
  · cases hvalue
    exact ⟨trivial, rfl, rfl⟩
  · cases hvalue
    exact ⟨trivial, hfinite, rfl⟩

theorem finite_of_readScalar {input rest : Bytes} {value : Value}
    (hread : readScalar input = some (value, rest)) :
    value.Sorted ∧ value.isFinite = true ∧ value.depth = 0 := by
  rw [readScalar.eq_def] at hread
  split at hread
  iterate 4
    next =>
      obtain ⟨read, -, heq⟩ := Option.map_eq_some_iff.mp hread
      cases heq
      exact ⟨trivial, rfl, rfl⟩
  next =>
      simp only [Option.bind_eq_bind, Option.bind_eq_some_iff, Prod.exists] at hread
      obtain ⟨numeral, after, -, found, hfound, heq⟩ := hread
      cases heq
      exact finite_of_toValue? hfound

theorem finite_of_readValue {depth : Nat} {input rest : Bytes} {value : Value}
    (hread : readValue depth input = some (value, rest)) :
    value.Sorted ∧ value.isFinite = true ∧ value.depth ≤ depth := by
  induction depth generalizing input rest value with
  | zero =>
      obtain ⟨hsorted, hfinite, hdepth⟩ := finite_of_readScalar hread
      exact ⟨hsorted, hfinite, hdepth.le⟩
  | succ depth ih =>
      rw [readValue.eq_def] at hread
      simp only at hread
      split at hread
      next tail =>
          split at hread
          next last hlast =>
              cases hread
              exact ⟨trivial, rfl, Nat.succ_pos depth⟩
          next =>
              simp only [Option.bind_eq_bind, Option.bind_eq_some_iff, Prod.exists] at hread
              obtain ⟨items, last, hitems, heq⟩ := hread
              cases heq
              have hitem : ∀ item ∈ items,
                  item.Sorted ∧ item.isFinite = true ∧ item.depth ≤ depth := by
                intro item hmem
                obtain ⟨_, _, hread⟩ := mem_readItems hitems hmem
                exact ih hread
              refine ⟨(Value.sorted_list_iff items).mpr fun item hmem => (hitem item hmem).1,
                (Value.isFinite_list_iff items).mpr fun item hmem => (hitem item hmem).2.1, ?_⟩
              exact (Value.depth_list_le_iff items _).mpr
                ⟨Nat.succ_pos depth, fun item hmem => (hitem item hmem).2.2⟩
      next tail =>
          split at hread
          next last hlast =>
              cases hread
              exact ⟨⟨List.Pairwise.nil, trivial⟩, rfl, Nat.succ_pos depth⟩
          next =>
              simp only [Option.bind_eq_bind, Option.bind_eq_some_iff, Prod.exists] at hread
              obtain ⟨fields, last, hfields, heq⟩ := hread
              cases heq
              have hfield : ∀ field ∈ Keyed.ofList fields,
                  field.2.Sorted ∧ field.2.isFinite = true ∧ field.2.depth ≤ depth := by
                intro field hmem
                obtain ⟨_, _, hread⟩ := mem_readFields hfields (Keyed.mem_of_mem_ofList hmem)
                obtain ⟨_, hitem⟩ := readField_eq_some hread
                exact ih hitem
              refine ⟨(Value.sorted_map_iff _).mpr
                ⟨Keyed.sorted_ofList fields, fun field hmem => (hfield field hmem).1⟩,
                (Value.isFinite_map_iff _).mpr fun field hmem => (hfield field hmem).2.1, ?_⟩
              exact (Value.depth_map_le_iff _ _).mpr
                ⟨Nat.succ_pos depth, fun field hmem => (hfield field hmem).2.2⟩
      next =>
          obtain ⟨hsorted, hfinite, hdepth⟩ := finite_of_readScalar hread
          exact ⟨hsorted, hfinite, by omega⟩

end Json

end DocumentStore
