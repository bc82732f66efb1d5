import DocumentStore.Pack.Reader
import DocumentStore.Proofs.Value

/-!
# What the MessagePack reader accepts

Every value that is read has sorted maps and nests no deeper than the reader was told to go.
-/

namespace DocumentStore

namespace Pack

theorem mem_readMany {α : Type} {item : Bytes → Option (α × Bytes)} {count : Nat}
    {input rest : Bytes} {items : List α}
    (hread : readMany item count input = some (items, rest)) {found : α} (hfound : found ∈ items) :
    ∃ before after, item before = some (found, after) := by
  induction count generalizing input rest items with
  | zero =>
      simp only [readMany, Option.some.injEq, Prod.mk.injEq] at hread
      simp [← hread.1] at hfound
  | succ count ih =>
      simp only [readMany, Option.bind_eq_bind, Option.bind_eq_some_iff, Prod.exists] at hread
      obtain ⟨first, after, hfirst, later, last, hlater, heq⟩ := hread
      simp only [pure, Option.some.injEq, Prod.mk.injEq] at heq
      rw [← heq.1] at hfound
      rcases List.mem_cons.mp hfound with rfl | htail
      · exact ⟨input, after, hfirst⟩
      · exact ih hlater htail

theorem readPair_eq_some {α β : Type} {key : Bytes → Option (α × Bytes)}
    {item : α → Bytes → Option (β × Bytes)} {input rest : Bytes} {found : α × β}
    (hread : readPair key item input = some (found, rest)) :
    ∃ middle, key input = some (found.1, middle) ∧ item found.1 middle = some (found.2, rest) := by
  simp only [readPair, Option.bind_eq_bind, Option.bind_eq_some_iff, Prod.exists] at hread
  obtain ⟨a, middle, hkey, b, last, hitem, heq⟩ := hread
  simp only [pure, Option.some.injEq, Prod.mk.injEq] at heq
  obtain ⟨rfl, rfl⟩ := heq
  exact ⟨middle, hkey, hitem⟩

theorem sorted_of_readScalar {head : Head} {input rest : Bytes} {value : Value}
    (hread : readScalar head input = some (value, rest)) : value.Sorted ∧ value.depth = 0 := by
  have htext : ∀ size : Nat, (readText size input).map (fun read => (Value.text read.1, read.2)) =
      some (value, rest) → value.Sorted ∧ value.depth = 0 := by
    intro size hmap
    obtain ⟨read, -, heq⟩ := Option.map_eq_some_iff.mp hmap
    cases heq
    exact ⟨trivial, rfl⟩
  cases head with
  | list | map | extension => simp [readScalar] at hread
  | text size => exact htext size hread
  | binary size => exact htext size hread
  | unsigned n =>
      simp only [readScalar] at hread
      split_ifs at hread <;> cases hread <;> exact ⟨trivial, rfl⟩
  | null | boolean | signed | single | double =>
      cases hread
      exact ⟨trivial, rfl⟩

theorem sorted_of_readValue {depth : Nat} {input rest : Bytes} {value : Value}
    (hread : readValue depth input = some (value, rest)) :
    value.Sorted ∧ value.depth ≤ depth := by
  induction depth generalizing input rest value with
  | zero =>
      simp only [readValue, Option.bind_eq_bind, Option.bind_eq_some_iff, Prod.exists] at hread
      obtain ⟨head, after, -, hscalar⟩ := hread
      obtain ⟨hsorted, hdepth⟩ := sorted_of_readScalar hscalar
      exact ⟨hsorted, hdepth.le⟩
  | succ depth ih =>
      simp only [readValue, Option.bind_eq_bind, Option.bind_eq_some_iff, Prod.exists] at hread
      obtain ⟨head, after, -, hbody⟩ := hread
      split at hbody
      next size tail =>
          simp only [Option.bind_eq_some_iff, Prod.exists] at hbody
          obtain ⟨items, last, hmany, heq⟩ := hbody
          cases heq
          have hitems : ∀ item ∈ items, item.Sorted ∧ item.depth ≤ depth := fun item hitem =>
            let ⟨_, _, hitemRead⟩ := mem_readMany hmany hitem
            ih hitemRead
          refine ⟨(Value.sorted_list_iff items).mpr fun item hitem => (hitems item hitem).1, ?_⟩
          exact (Value.depth_list_le_iff items _).mpr
            ⟨Nat.succ_pos depth, fun item hitem => (hitems item hitem).2⟩
      next size tail =>
          simp only [Option.bind_eq_some_iff, Prod.exists] at hbody
          obtain ⟨fields, last, hmany, heq⟩ := hbody
          cases heq
          have hfields : ∀ field ∈ Keyed.ofList fields,
              field.2.Sorted ∧ field.2.depth ≤ depth := by
            intro field hfield
            obtain ⟨_, _, hpair⟩ := mem_readMany hmany (Keyed.mem_of_mem_ofList hfield)
            obtain ⟨_, -, hitem⟩ := readPair_eq_some hpair
            exact ih hitem
          refine ⟨(Value.sorted_map_iff _).mpr
            ⟨Keyed.sorted_ofList fields, fun field hfield => (hfields field hfield).1⟩, ?_⟩
          exact (Value.depth_map_le_iff _ _).mpr
            ⟨Nat.succ_pos depth, fun field hfield => (hfields field hfield).2⟩
      next =>
          obtain ⟨hsorted, hdepth⟩ := sorted_of_readScalar hbody
          exact ⟨hsorted, by omega⟩

end Pack

end DocumentStore
