import DocumentStore.Proofs.Table.Change

/-!
# Values that may be stored

Two recursions guard a table: one looks for numbers that are not finite, the other counts down a
limit of levels.  Here they are compared with what they stand for, the parts that occur anywhere
inside a value and its depth, and the check of a whole record with its first field, in name order,
that may not be stored.
-/

namespace DocumentStore

theorem Double.isFinite_eq_false_iff (x : Double) :
    x.isFinite = false ↔ x.isNaN = true ∨ x.magnitude = infinite := by
  simp only [isFinite, isNaN, decide_eq_false_iff_not, decide_eq_true_eq]
  omega

namespace Value

/-- The part is the value, or it stands anywhere inside. -/
inductive Inside (part : Value) : Value → Prop
  | self : Inside part part
  | item {items : List Value} {item : Value} (mem : item ∈ items) (inside : Inside part item) :
      Inside part (.list items)
  | field {fields : List (String × Value)} {field : String × Value} (mem : field ∈ fields)
      (inside : Inside part field.2) : Inside part (.map fields)

/-- A NaN or an infinity stands somewhere in the value. -/
def NonFinite (value : Value) : Prop :=
  ∃ x : Double, Inside (.float x) value ∧ (x.isNaN = true ∨ x.magnitude = Double.infinite)

theorem isFinite_of_inside {part value : Value} (hinside : Inside part value)
    (hfinite : value.isFinite = true) : part.isFinite = true := by
  induction hinside with
  | self => exact hfinite
  | item mem inside ih => exact ih ((isFinite_list_iff _).mp hfinite _ mem)
  | field mem inside ih => exact ih ((isFinite_map_iff _).mp hfinite _ mem)

theorem isFinite_eq_false_iff (value : Value) : value.isFinite = false ↔ value.NonFinite := by
  constructor
  · induction value using nested with
    | null | boolean | integer | text => simp [isFinite]
    | float x =>
        intro hfinite
        exact ⟨x, .self, (Double.isFinite_eq_false_iff x).mp hfinite⟩
    | list items ih =>
        intro hfinite
        have hsome : ∃ item ∈ items, item.isFinite = false := by
          by_contra hnone
          push Not at hnone
          have hall := (isFinite_list_iff items).mpr fun item hitem => by simpa using hnone item hitem
          exact Bool.false_ne_true (hfinite.symm.trans hall)
        obtain ⟨item, hitem, hpart⟩ := hsome
        obtain ⟨x, hinside, hx⟩ := ih item hitem hpart
        exact ⟨x, .item hitem hinside, hx⟩
    | map fields ih =>
        intro hfinite
        have hsome : ∃ field ∈ fields, field.2.isFinite = false := by
          by_contra hnone
          push Not at hnone
          have hall := (isFinite_map_iff fields).mpr fun field hfield => by
            simpa using hnone field hfield
          exact Bool.false_ne_true (hfinite.symm.trans hall)
        obtain ⟨field, hfield, hpart⟩ := hsome
        obtain ⟨x, hinside, hx⟩ := ih field hfield hpart
        exact ⟨x, .field hfield hinside, hx⟩
  · rintro ⟨x, hinside, hx⟩
    rw [Bool.eq_false_iff]
    intro hfinite
    have hpart : x.isFinite = true := isFinite_of_inside hinside hfinite
    rw [(Double.isFinite_eq_false_iff x).mpr hx] at hpart
    exact Bool.false_ne_true hpart

theorem exceedsDepth_iff (value : Value) (limit : Nat) :
    value.exceedsDepth limit = true ↔ limit < value.depth := by
  rw [← not_le, ← exceedsDepth_eq_false_iff, Bool.not_eq_false]

/-- The fault of a value that may not be stored.  That it nests too deep is of no interest as long
as it has a number that is not finite. -/
inductive Offends (value : Value) : RecordFault → Prop
  | nonFinite (nonFinite : value.NonFinite) : Offends value .nonFinite
  | tooDeep (finite : ¬ value.NonFinite) (deep : maxNesting < value.depth) : Offends value .tooDeep

theorem exists_offends_iff (value : Value) :
    (∃ fault, value.Offends fault) ↔ value.NonFinite ∨ maxNesting < value.depth := by
  constructor
  · rintro ⟨fault, nonFinite | ⟨_, deep⟩⟩
    · exact Or.inl nonFinite
    · exact Or.inr deep
  · intro hoffends
    by_cases hnonFinite : value.NonFinite
    · exact ⟨.nonFinite, .nonFinite hnonFinite⟩
    · exact ⟨.tooDeep, .tooDeep hnonFinite (hoffends.resolve_left hnonFinite)⟩

end Value

theorem checkStorable_of_offends {value : Value} {fault : RecordFault}
    (hoffends : value.Offends fault) (rest : List Value) :
    checkStorable (value :: rest) = .error fault := by
  cases hoffends with
  | nonFinite nonFinite =>
      have hfinite : value.isFinite = false := (Value.isFinite_eq_false_iff value).mpr nonFinite
      simp [checkStorable, hfinite]
  | tooDeep finite deep =>
      have hfinite : value.isFinite = true := by
        rwa [← Value.isFinite_eq_false_iff, Bool.not_eq_false] at finite
      have hdeep : value.exceedsDepth maxNesting = true :=
        (Value.exceedsDepth_iff value maxNesting).mpr deep
      simp [checkStorable, hfinite, hdeep]

theorem checkStorable_of_not_offends {value : Value} (hnone : ¬ ∃ fault, value.Offends fault)
    (rest : List Value) : checkStorable (value :: rest) = checkStorable rest := by
  rw [Value.exists_offends_iff, not_or, ← Value.isFinite_eq_false_iff,
    ← Value.exceedsDepth_iff] at hnone
  obtain ⟨hfinite, hdeep⟩ := hnone
  simp [checkStorable, hfinite, hdeep]

theorem checkStorable_cons_eq_error_iff (value : Value) (rest : List Value) (fault : RecordFault) :
    checkStorable (value :: rest) = .error fault ↔
      value.Offends fault ∨
        (¬ ∃ other, value.Offends other) ∧ checkStorable rest = .error fault := by
  by_cases hoffends : ∃ other, value.Offends other
  · obtain ⟨other, hother⟩ := hoffends
    constructor
    · intro hcheck
      rw [checkStorable_of_offends hother] at hcheck
      cases hcheck
      exact Or.inl hother
    · rintro (hfault | ⟨hnone, -⟩)
      · exact checkStorable_of_offends hfault rest
      · exact absurd ⟨other, hother⟩ hnone
  · have hfault : ¬ value.Offends fault := fun hfault => hoffends ⟨fault, hfault⟩
    rw [checkStorable_of_not_offends hoffends]
    simp [hoffends, hfault]

/-- The fault is that of the first field, in the order of the names, that may not be stored. -/
def FirstOffence (fields : Keyed Value) (fault : RecordFault) : Prop :=
  ∃ name value, (name, value) ∈ fields ∧ value.Offends fault ∧
    ∀ other item, (other, item) ∈ fields → other < name → ¬ ∃ reason, item.Offends reason

theorem checkStorable_eq_error_iff {fields : Keyed Value} (hsorted : Keyed.Sorted fields)
    (fault : RecordFault) :
    checkStorable (fields.map Prod.snd) = .error fault ↔ FirstOffence fields fault := by
  induction fields with
  | nil => simp [checkStorable, FirstOffence]
  | cons field rest ih =>
      obtain ⟨name, value⟩ := field
      obtain ⟨hfirst, hrest⟩ := Keyed.sorted_cons.mp hsorted
      have hbehind : ∀ {other item}, (other, item) ∈ rest → name < other := fun hmem =>
        hfirst _ (Keyed.mem_names_of_mem hmem)
      rw [List.map_cons, checkStorable_cons_eq_error_iff, ih hrest]
      constructor
      · rintro (hoffends | ⟨hnone, other, item, hmem, hoffends, hbefore⟩)
        · refine ⟨name, value, List.mem_cons_self, hoffends, ?_⟩
          intro other item hmem hlt
          rcases List.mem_cons.mp hmem with heq | htail
          · cases heq
            exact absurd hlt (lt_irrefl name)
          · exact absurd hlt (lt_asymm (hbehind htail))
        · refine ⟨other, item, List.mem_cons_of_mem _ hmem, hoffends, ?_⟩
          intro earlier found hfound hlt
          rcases List.mem_cons.mp hfound with heq | htail
          · cases heq
            exact hnone
          · exact hbefore earlier found htail hlt
      · rintro ⟨other, item, hmem, hoffends, hbefore⟩
        rcases List.mem_cons.mp hmem with heq | htail
        · cases heq
          exact Or.inl hoffends
        · right
          constructor
          · exact hbefore name value List.mem_cons_self (hbehind htail)
          · refine ⟨other, item, htail, hoffends, ?_⟩
            intro earlier found hfound hlt
            exact hbefore earlier found (List.mem_cons_of_mem _ hfound) hlt

/-- A record has a first field that may not be stored as soon as it has any. -/
theorem exists_firstOffence_iff {fields : Keyed Value} (hsorted : Keyed.Sorted fields) :
    (∃ fault, FirstOffence fields fault) ↔
      ∃ field ∈ fields, field.2.NonFinite ∨ maxNesting < field.2.depth := by
  constructor
  · rintro ⟨fault, name, value, hmem, hoffends, -⟩
    exact ⟨(name, value), hmem, (Value.exists_offends_iff value).mp ⟨fault, hoffends⟩⟩
  · rintro ⟨field, hmem, hoffends⟩
    cases hcheck : checkStorable (fields.map Prod.snd) with
    | error fault => exact ⟨fault, (checkStorable_eq_error_iff hsorted fault).mp hcheck⟩
    | ok =>
        have hstorable := (checkStorable_eq_ok_iff _).mp hcheck field.2
          (List.mem_map.mpr ⟨field, hmem, rfl⟩)
        rcases hoffends with hnonFinite | hdeep
        · rw [(Value.isFinite_eq_false_iff _).mpr hnonFinite] at hstorable
          exact absurd hstorable.1 Bool.false_ne_true
        · exact absurd hstorable.2 (not_le.mpr hdeep)

end DocumentStore
