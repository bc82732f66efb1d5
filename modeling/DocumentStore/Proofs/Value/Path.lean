import DocumentStore.Value.Path
import Mathlib.Tactic

/-!
# Names in a path

A path and the names between its dots determine each other, as long as no name has a dot.  A path is
complete if it is made of names that are not empty.
-/

namespace DocumentStore

namespace Chars

theorem splitOn_eq (separator : Char) (chars : List Char) :
    splitOn separator chars = chars.splitOn separator := by
  induction chars with
  | nil => rfl
  | cons c rest ih =>
      rw [splitOn, List.splitOn_cons_eq_if_modifyHead, ih]
      by_cases hc : c = separator
      · simp [hc]
      · rw [if_neg hc, if_neg (by simpa using hc)]
        cases hsplit : List.splitOn separator rest with
        | nil => exact absurd hsplit (List.splitOn_ne_nil separator rest)
        | cons head tail => rfl

theorem notMem_of_mem_splitOn {separator : Char} {chars part : List Char}
    (hpart : part ∈ splitOn separator chars) : separator ∉ part := by
  induction chars generalizing part with
  | nil =>
      rw [splitOn, List.mem_singleton] at hpart
      simp [hpart]
  | cons c rest ih =>
      rw [splitOn] at hpart
      split_ifs at hpart with hc
      · rcases List.mem_cons.mp hpart with rfl | hrest
        · simp
        · exact ih hrest
      · cases hsplit : splitOn separator rest with
        | nil =>
            rw [hsplit, List.mem_singleton] at hpart
            rw [hpart, List.mem_singleton]
            exact Ne.symm hc
        | cons head tail =>
            rw [hsplit, List.mem_cons] at hpart
            rw [hsplit] at ih
            rcases hpart with rfl | htail
            · rw [List.mem_cons, not_or]
              exact ⟨Ne.symm hc, ih List.mem_cons_self⟩
            · exact ih (List.mem_cons_of_mem _ htail)

end Chars

namespace Path

theorem intercalate_segments (path : String) : ".".intercalate (segments path) = path := by
  apply String.toList_injective
  rw [String.toList_intercalate, segments, List.map_map, Chars.splitOn_eq]
  have hself : (String.toList ∘ String.ofList) = id := by
    funext chars
    exact String.toList_ofList
  rw [hself, List.map_id]
  exact List.intercalate_splitOn '.'

theorem segments_ne_nil (path : String) : segments path ≠ [] := by
  rw [segments, Chars.splitOn_eq, ne_eq, List.map_eq_nil_iff]
  exact List.splitOn_ne_nil _ _

theorem dot_notMem_of_mem_segments {path name : String} (hname : name ∈ segments path) :
    '.' ∉ name.toList := by
  obtain ⟨part, hpart, rfl⟩ := List.mem_map.mp hname
  rw [String.toList_ofList]
  exact Chars.notMem_of_mem_splitOn hpart

/-- Names without dots are found again between the dots. -/
theorem segments_intercalate {names : List String} (hnames : names ≠ [])
    (hdots : ∀ name ∈ names, '.' ∉ name.toList) : segments (".".intercalate names) = names := by
  have hparts : Chars.splitOn '.' (".".intercalate names).toList = names.map String.toList := by
    rw [String.toList_intercalate, Chars.splitOn_eq]
    refine List.splitOn_intercalate '.' ?_ (by simpa using hnames)
    intro part hpart
    obtain ⟨name, hname, rfl⟩ := List.mem_map.mp hpart
    exact hdots name hname
  rw [segments, hparts, List.map_map]
  have hself : (String.ofList ∘ String.toList) = id := by
    funext name
    exact String.ofList_toList
  rw [hself, List.map_id]

/-- The path is made of names with dots between them, and none of the names is empty. -/
def Complete (path : String) : Prop :=
  ∃ names : List String, names ≠ [] ∧ (∀ name ∈ names, name ≠ "" ∧ '.' ∉ name.toList) ∧
    path = ".".intercalate names

theorem isComplete_iff (path : String) : isComplete path = true ↔ Complete path := by
  have hsegments : isComplete path = true ↔ ∀ name ∈ segments path, name ≠ "" := by
    simp [isComplete]
  rw [hsegments]
  constructor
  · intro hnames
    exact ⟨segments path, segments_ne_nil path, fun name hname =>
      ⟨hnames name hname, dot_notMem_of_mem_segments hname⟩, (intercalate_segments path).symm⟩
  · rintro ⟨names, hne, hnames, rfl⟩
    rw [segments_intercalate hne fun name hname => (hnames name hname).2]
    exact fun name hname => (hnames name hname).1

end Path

end DocumentStore
