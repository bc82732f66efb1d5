import DocumentStore.Record
import DocumentStore.Proofs.Value.Path

/-!
# Paths into records

`Value.Leads names value found` says that the names lead from a value through nested maps to
`found`.  A walk along the names finds this value, and gives `null` if they lead nowhere.  A record
first looks for a field with the whole path as its name; apart from that, it resolves a path as the
map of its fields does, although it takes the path apart in another way.
-/

namespace DocumentStore

namespace Chars

/-- A list of characters is split at its first separator before its rest is split at all others. -/
theorem splitOn_of_splitFirst (separator : Char) (chars : List Char) :
    match splitFirst separator chars with
    | (head, some rest) => splitOn separator chars = head :: splitOn separator rest
    | (head, none) => splitOn separator chars = [head] ∧ head = chars := by
  induction chars with
  | nil => exact ⟨rfl, rfl⟩
  | cons c rest ih =>
      by_cases hc : c = separator
      · simp only [splitFirst, splitOn, if_pos hc]
      · simp only [splitFirst, splitOn, if_neg hc]
        rcases hsplit : splitFirst separator rest with ⟨head, _ | tail⟩
        · rw [hsplit] at ih
          have hrest : splitOn separator rest = [head] := ih.1
          have hhead : head = rest := ih.2
          simp only [hrest, hhead, and_self]
        · rw [hsplit] at ih
          have hrest : splitOn separator rest = head :: splitOn separator tail := ih
          simp only [hrest]

end Chars

namespace Value

/-- The names lead from the value through nested maps to `found`. -/
inductive Leads : List String → Value → Value → Prop
  | here (value : Value) : Leads [] value value
  | into {name : String} {names : List String} {fields : Keyed Value} {item found : Value}
      (field : Keyed.find? name fields = some item) (rest : Leads names item found) :
      Leads (name :: names) (.map fields) found

theorem walk_of_leads {names : List String} {value found : Value}
    (hleads : Leads names value found) : value.walk names = found := by
  induction hleads with
  | here value => rfl
  | into field rest ih =>
      rw [walk, get?, field]
      exact ih

/-- A walk stops with `null` at the first name that leads nowhere. -/
theorem walk_of_not_leads {names : List String} {value : Value}
    (hnone : ∀ found, ¬ Leads names value found) : value.walk names = .null := by
  induction names generalizing value with
  | nil => exact absurd (Leads.here value) (hnone value)
  | cons name rest ih =>
      cases hget : value.get? name with
      | none => rw [walk, hget]
      | some item =>
          rw [walk, hget]
          apply ih
          intro found hleads
          cases value with
          | map fields => exact hnone found (.into hget hleads)
          | null | boolean | integer | float | text | list => cases hget

theorem walk_null {names : List String} (hnames : names ≠ []) : Value.null.walk names = .null := by
  cases names with
  | nil => exact absurd rfl hnames
  | cons name rest => rfl

end Value

namespace Record

theorem get?_toValue (record : Record) (name : String) :
    record.toValue.get? name = record.get? name :=
  rfl

/-- Without a field of this name, the way to the first dot and the ways to all dots agree. -/
theorem resolve_of_get?_eq_none {record : Record} {path : String}
    (hnone : record.get? path = none) : record.resolve path = record.toValue.resolve path := by
  have hsplit := Chars.splitOn_of_splitFirst '.' path.toList
  rw [Value.resolve, Path.segments, resolve, hnone]
  rcases hfirst : Chars.splitFirst '.' path.toList with ⟨head, _ | rest⟩
  · rw [hfirst] at hsplit
    obtain ⟨hparts, rfl⟩ := hsplit
    rw [hparts, List.map_singleton]
    simp only [Value.walk, get?_toValue, field, String.ofList_toList, hnone, Option.getD_none]
  · rw [hfirst] at hsplit
    have hparts : Chars.splitOn '.' path.toList = head :: Chars.splitOn '.' rest := hsplit
    have hrest : Path.segments (String.ofList rest) =
        (Chars.splitOn '.' rest).map String.ofList := by
      rw [Path.segments, String.toList_ofList]
    rw [hparts, List.map_cons, ← hrest]
    simp only [Value.walk, get?_toValue, field]
    cases record.get? (String.ofList head) with
    | none => exact Value.walk_null (Path.segments_ne_nil _)
    | some item => rfl

/-- A record resolves a path to the field that has the path as its name, and without one to what the
map of its fields resolves it to.  That is the value to which the names between the dots lead, or
`null` if they lead nowhere.  So a value under nested maps is found by the names on the way to it,
whatever these are, unless a field has all of them as its name. -/
theorem resolve_prefers_field_to_walk (record : Record) :
    (∀ path, record.resolve path =
      (record.get? path).getD (record.toValue.resolve path)) ∧
      (∀ (value : Value) (path : String),
        (∀ found, Value.Leads (Path.segments path) value found → value.resolve path = found) ∧
          ((∀ found, ¬ Value.Leads (Path.segments path) value found) →
            value.resolve path = .null)) ∧
      ∀ (names : List String) (found : Value), names ≠ [] →
        (∀ name ∈ names, '.' ∉ name.toList) → Value.Leads names record.toValue found →
          record.resolve (".".intercalate names) =
            (record.get? (".".intercalate names)).getD found := by
  have hresolve : ∀ path, record.resolve path =
      (record.get? path).getD (record.toValue.resolve path) := by
    intro path
    cases hget : record.get? path with
    | none => exact resolve_of_get?_eq_none hget
    | some value => rw [resolve, hget, Option.getD_some]
  refine ⟨hresolve, ?_, ?_⟩
  · intro value path
    constructor
    · intro found hleads
      exact Value.walk_of_leads hleads
    · intro hnone
      exact Value.walk_of_not_leads hnone
  · intro names found hne hdots hleads
    rw [hresolve, Value.resolve, Path.segments_intercalate hne hdots, Value.walk_of_leads hleads]

/-- The field `a.b` stands before the field `b` of `a`, and names may be empty. -/
theorem resolve_prefers_field_to_walk_dotted :
    let record : Record := ⟨[("a", .map [("b", .integer 2)]), ("a.b", .integer 1),
      ("c", .map [("", .map [("d", .integer 3)])])]⟩
    record.resolve "a.b" = .integer 1 ∧ record.resolve "c..d" = .integer 3 := by
  intro record
  obtain ⟨-, -, hnames⟩ := resolve_prefers_field_to_walk record
  have hfield : record.resolve "a.b" = (record.get? "a.b").getD (.integer 2) := by
    apply hnames ["a", "b"] (.integer 2) (by simp) (by decide)
    exact .into rfl (.into rfl (.here _))
  have hwalk : record.resolve "c..d" = (record.get? "c..d").getD (.integer 3) := by
    apply hnames ["c", "", "d"] (.integer 3) (by simp) (by decide)
    exact .into rfl (.into rfl (.into rfl (.here _)))
  exact ⟨hfield, hwalk⟩

end Record

end DocumentStore
