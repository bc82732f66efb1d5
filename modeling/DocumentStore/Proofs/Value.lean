import DocumentStore.Value.Basic
import DocumentStore.Proofs.Keyed

/-!
# Values as trees

`Value.nested` is the induction over values whose hypotheses speak of the members of a list or a
map.  The traversals of a value are restated over members, and `Value.depth` counts the lists and
maps that are nested in a value; `exceedsDepth` compares it with a limit.
-/

namespace DocumentStore

namespace Value

/-- Induction over values: a list or map is reached from all its members. -/
@[elab_as_elim]
theorem nested {motive : Value → Prop} (null : motive .null)
    (boolean : ∀ truth, motive (.boolean truth)) (integer : ∀ n, motive (.integer n))
    (float : ∀ x, motive (.float x)) (text : ∀ s, motive (.text s))
    (list : ∀ items, (∀ item ∈ items, motive item) → motive (.list items))
    (map : ∀ fields : List (String × Value), (∀ field ∈ fields, motive field.2) →
      motive (.map fields))
    (value : Value) : motive value := by
  refine @Value.rec motive (fun items => ∀ item ∈ items, motive item)
    (fun fields => ∀ field ∈ fields, motive field.2) (fun field => motive field.2)
    null boolean integer float text (fun items ih => list items ih) (fun fields ih => map fields ih)
    (by simp) ?_ (by simp) ?_ (fun _ _ ih => ih) value
  · intro head tail hhead htail
    exact List.forall_mem_cons.mpr ⟨hhead, htail⟩
  · intro head tail hhead htail
    exact List.forall_mem_cons.mpr ⟨hhead, htail⟩

/-! ## Traversals over members -/

theorem allSorted_iff (items : List Value) : AllSorted items ↔ ∀ item ∈ items, item.Sorted := by
  induction items with
  | nil => simp [AllSorted]
  | cons item rest ih => simp [AllSorted, ih]

theorem fieldsSorted_iff (fields : List (String × Value)) :
    FieldsSorted fields ↔ ∀ field ∈ fields, field.2.Sorted := by
  induction fields with
  | nil => simp [FieldsSorted]
  | cons field rest ih =>
      obtain ⟨name, item⟩ := field
      rw [FieldsSorted, ih, List.forall_mem_cons]

theorem sorted_list_iff (items : List Value) :
    (list items).Sorted ↔ ∀ item ∈ items, item.Sorted := by
  rw [Sorted, allSorted_iff]

theorem sorted_map_iff (fields : List (String × Value)) :
    (map fields).Sorted ↔ Keyed.Sorted fields ∧ ∀ field ∈ fields, field.2.Sorted := by
  rw [Sorted, fieldsSorted_iff]

theorem allFinite_iff (items : List Value) :
    allFinite items = true ↔ ∀ item ∈ items, item.isFinite = true := by
  induction items with
  | nil => simp [allFinite]
  | cons item rest ih => simp [allFinite, ih]

theorem fieldsFinite_iff (fields : List (String × Value)) :
    fieldsFinite fields = true ↔ ∀ field ∈ fields, field.2.isFinite = true := by
  induction fields with
  | nil => simp [fieldsFinite]
  | cons field rest ih =>
      obtain ⟨name, item⟩ := field
      rw [fieldsFinite, Bool.and_eq_true, ih, List.forall_mem_cons]

theorem isFinite_list_iff (items : List Value) :
    (list items).isFinite = true ↔ ∀ item ∈ items, item.isFinite = true := by
  rw [isFinite, allFinite_iff]

theorem isFinite_map_iff (fields : List (String × Value)) :
    (map fields).isFinite = true ↔ ∀ field ∈ fields, field.2.isFinite = true := by
  rw [isFinite, fieldsFinite_iff]

/-! ## Depth -/

mutual
/-- How many lists and maps are nested in the value at most. -/
def depth : Value → Nat
  | list items => itemsDepth items + 1
  | map fields => fieldsDepth fields + 1
  | _ => 0

def itemsDepth : List Value → Nat
  | [] => 0
  | item :: rest => max item.depth (itemsDepth rest)

def fieldsDepth : List (String × Value) → Nat
  | [] => 0
  | (_, item) :: rest => max item.depth (fieldsDepth rest)
end

theorem itemsDepth_le_iff (items : List Value) (limit : Nat) :
    itemsDepth items ≤ limit ↔ ∀ item ∈ items, item.depth ≤ limit := by
  induction items with
  | nil => simp [itemsDepth]
  | cons item rest ih => simp [itemsDepth, ih]

theorem fieldsDepth_le_iff (fields : List (String × Value)) (limit : Nat) :
    fieldsDepth fields ≤ limit ↔ ∀ field ∈ fields, field.2.depth ≤ limit := by
  induction fields with
  | nil => simp [fieldsDepth]
  | cons field rest ih =>
      obtain ⟨name, item⟩ := field
      rw [fieldsDepth, max_le_iff, ih, List.forall_mem_cons]

theorem depth_list_le_iff (items : List Value) (limit : Nat) :
    (list items).depth ≤ limit ↔ 0 < limit ∧ ∀ item ∈ items, item.depth ≤ limit - 1 := by
  rw [depth, ← itemsDepth_le_iff]
  omega

theorem depth_map_le_iff (fields : List (String × Value)) (limit : Nat) :
    (map fields).depth ≤ limit ↔ 0 < limit ∧ ∀ field ∈ fields, field.2.depth ≤ limit - 1 := by
  rw [depth, ← fieldsDepth_le_iff]
  omega

private theorem anyExceedsDepth_eq_false_iff (items : List Value) (limit : Nat) :
    anyExceedsDepth items limit = false ↔ ∀ item ∈ items, item.exceedsDepth limit = false := by
  induction items with
  | nil => simp [anyExceedsDepth]
  | cons item rest ih => simp [anyExceedsDepth, ih]

private theorem fieldsExceedDepth_eq_false_iff (fields : List (String × Value)) (limit : Nat) :
    fieldsExceedDepth fields limit = false ↔
      ∀ field ∈ fields, field.2.exceedsDepth limit = false := by
  induction fields with
  | nil => simp [fieldsExceedDepth]
  | cons field rest ih =>
      obtain ⟨name, item⟩ := field
      rw [fieldsExceedDepth, Bool.or_eq_false_iff, ih, List.forall_mem_cons]

/-- The descent that stops at the limit decides whether the depth is within it. -/
theorem exceedsDepth_eq_false_iff (value : Value) (limit : Nat) :
    value.exceedsDepth limit = false ↔ value.depth ≤ limit := by
  induction value using nested generalizing limit with
  | null | boolean | integer | float | text => simp [exceedsDepth, depth]
  | list items ih =>
      rw [exceedsDepth, Bool.or_eq_false_iff, anyExceedsDepth_eq_false_iff, depth_list_le_iff]
      apply and_congr (by simp [Nat.pos_iff_ne_zero])
      exact forall₂_congr fun item hitem => ih item hitem _
  | map fields ih =>
      rw [exceedsDepth, Bool.or_eq_false_iff, fieldsExceedDepth_eq_false_iff, depth_map_le_iff]
      apply and_congr (by simp [Nat.pos_iff_ne_zero])
      exact forall₂_congr fun field hfield => ih field hfield _

/-! ## Values that stand for others -/

/-- A finite scalar is stood for by itself only. -/
def StandsFor (found value : Value) : Prop :=
  value.depth = 0 → value.isFinite = true → found = value

end Value

end DocumentStore
