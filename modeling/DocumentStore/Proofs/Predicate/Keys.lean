import DocumentStore.Proofs.Predicate.Operand
import DocumentStore.Proofs.Value.Path

/-!
# Query keys

A query key is a complete path with the name of an operator behind a separator, or a complete path
that has no separator and asks for equality.  It is split at its last separator, so the path may have
separators of its own.  These keys give what their parts give, and every other key is refused before
its operand is looked at.
-/

namespace DocumentStore

/-! ## The last occurrence of a mark -/

namespace Chars

variable {mark chars before after : List Char}

theorem splitAtLast?_eq_none_iff (hmark : mark ≠ []) :
    splitAtLast? mark chars = none ↔ ¬ mark <:+: chars := by
  induction chars with
  | nil => simp [splitAtLast?, hmark]
  | cons c rest ih =>
      rw [splitAtLast?, List.infix_cons_iff, not_or, ← ih, ← List.isPrefixOf_iff_prefix]
      cases splitAtLast? mark rest with
      | none => simp
      | some split => simp

theorem splitAtLast?_eq_some (hmark : mark ≠ [])
    (hsplit : splitAtLast? mark chars = some (before, after)) :
    chars = before ++ mark ++ after ∧
      ∀ front back, chars = front ++ mark ++ back → after.length ≤ back.length := by
  induction chars generalizing before with
  | nil => simp [splitAtLast?] at hsplit
  | cons c rest ih =>
      rw [splitAtLast?] at hsplit
      cases hrest : splitAtLast? mark rest with
      | some split =>
          obtain ⟨start, finish⟩ := split
          rw [hrest] at hsplit
          cases hsplit
          obtain ⟨heq, hlast⟩ := ih hrest
          refine ⟨by rw [heq]; rfl, fun front back hchars => ?_⟩
          cases front with
          | nil =>
              have hlength := congrArg List.length hchars
              rw [heq] at hlength
              simp only [List.length_cons, List.length_append, List.length_nil] at hlength
              omega
          | cons first front =>
              obtain ⟨-, hback⟩ := List.cons.inj hchars
              exact hlast front back hback
      | none =>
          rw [hrest] at hsplit
          have habsent := (splitAtLast?_eq_none_iff hmark).mp hrest
          dsimp only at hsplit
          split_ifs at hsplit with hprefix
          cases hsplit
          obtain ⟨tail, htail⟩ := List.isPrefixOf_iff_prefix.mp hprefix
          rw [← htail, List.drop_left]
          refine ⟨rfl, fun front back hchars => ?_⟩
          cases front with
          | nil =>
              obtain rfl := List.append_cancel_left hchars
              exact le_rfl
          | cons first front =>
              rw [htail] at hchars
              obtain ⟨-, hback⟩ := List.cons.inj hchars
              exact absurd ⟨front, back, hback.symm⟩ habsent

/-- A rest without the last character of the mark reaches into no other occurrence of it. -/
theorem length_le_of_notMem {c : Char} {front back : List Char} (hlast : mark.getLast? = some c)
    (hc : c ∉ after) (heq : before ++ mark ++ after = front ++ mark ++ back) :
    after.length ≤ back.length := by
  by_contra hshort
  have hback : back <:+ before ++ mark ++ after := by
    rw [heq]
    exact List.suffix_append _ _
  have hsuffix : back <:+ after := by
    apply List.suffix_of_suffix_length_le hback (List.suffix_append _ _)
    omega
  obtain ⟨between, hafter⟩ := hsuffix
  have hne : between ≠ [] := by
    intro hnil
    rw [hnil, List.nil_append] at hafter
    rw [hafter] at hshort
    exact hshort le_rfl
  have hmarks : before ++ mark ++ between = front ++ mark := by
    rw [← hafter, ← List.append_assoc] at heq
    exact List.append_cancel_right heq
  have hend : between.getLast? = some c := by
    have hlasts := congrArg List.getLast? hmarks
    rw [List.getLast?_append_of_ne_nil _ hne, List.getLast?_append, hlast] at hlasts
    exact hlasts
  apply hc
  rw [← hafter, List.mem_append]
  exact Or.inl (List.mem_of_getLast? hend)

theorem splitAtLast?_eq_of_last (hmark : mark ≠ []) (hchars : chars = before ++ mark ++ after)
    (hlast : ∀ front back, chars = front ++ mark ++ back → after.length ≤ back.length) :
    splitAtLast? mark chars = some (before, after) := by
  cases hsplit : splitAtLast? mark chars with
  | none =>
      have habsent := (splitAtLast?_eq_none_iff hmark).mp hsplit
      rw [hchars] at habsent
      exact absurd (List.infix_append before mark after) habsent
  | some split =>
      obtain ⟨front, back⟩ := split
      obtain ⟨heq, hleast⟩ := splitAtLast?_eq_some hmark hsplit
      have hlength : after.length = back.length :=
        le_antisymm (hlast front back heq) (hleast before after hchars)
      rw [hchars] at heq
      obtain ⟨hmarks, rfl⟩ := List.append_inj' heq hlength
      rw [List.append_cancel_right hmarks]

end Chars

/-! ## Keys -/

namespace Operator

theorem mem_all (operator : Operator) : operator ∈ all := by
  cases operator with
  | order comparison => cases comparison <;> decide
  | _ => decide

theorem name_injective : Function.Injective name := by
  have hall : ∀ first ∈ all, ∀ second ∈ all, first.name = second.name → first = second := by
    decide
  intro first second hsame
  exact hall first (mem_all first) second (mem_all second) hsame

theorem ofName?_eq_some_iff {name : String} {operator : Operator} :
    ofName? name = some operator ↔ operator.name = name := by
  constructor
  · intro hfound
    simpa using List.find?_some hfound
  · intro hname
    cases hfound : ofName? name with
    | none =>
        have habsent := List.find?_eq_none.mp hfound operator (mem_all operator)
        simp [hname] at habsent
    | some found =>
        have hsame : found.name = name := by simpa using List.find?_some hfound
        rw [name_injective (hsame.trans hname.symm)]

theorem ofName?_eq_none_iff {name : String} :
    ofName? name = none ↔ ∀ operator : Operator, operator.name ≠ name := by
  rw [Option.eq_none_iff_forall_ne_some]
  exact forall_congr' fun operator => not_congr ofName?_eq_some_iff

theorem underscore_notMem_name (operator : Operator) : '_' ∉ operator.name.toList := by
  have hall : ∀ operator ∈ all, '_' ∉ operator.name.toList := by
    decide
  exact hall operator (mem_all operator)

def HasSeparator (key : String) : Prop :=
  ∃ front back, key = front ++ separator ++ back

/-- The key is split at its last separator: no other separator has fewer characters behind it. -/
structure SplitsLast (key before after : String) : Prop where
  eq : key = before ++ separator ++ after
  last : ∀ front back, key = front ++ separator ++ back → after.length ≤ back.length

theorem eq_append_separator_iff {key before after : String} :
    key = before ++ separator ++ after ↔
      key.toList = before.toList ++ separator.toList ++ after.toList := by
  rw [← String.toList_inj, String.toList_append, String.toList_append]

theorem SplitsLast.splitAtLast?_eq {key before after : String}
    (hsplit : SplitsLast key before after) :
    Chars.splitAtLast? separator.toList key.toList = some (before.toList, after.toList) := by
  apply Chars.splitAtLast?_eq_of_last (by decide) (eq_append_separator_iff.mp hsplit.eq)
  intro front back hkey
  have hlength := hsplit.last (String.ofList front) (String.ofList back)
    (eq_append_separator_iff.mpr (by simpa using hkey))
  rw [String.length_toList]
  simpa using hlength

theorem exists_splitsLast {key : String} (hkey : HasSeparator key) :
    ∃ before after, SplitsLast key before after := by
  obtain ⟨front, back, heq⟩ := hkey
  cases hsplit : Chars.splitAtLast? separator.toList key.toList with
  | none =>
      have habsent := (Chars.splitAtLast?_eq_none_iff (by decide)).mp hsplit
      rw [eq_append_separator_iff.mp heq] at habsent
      exact absurd (List.infix_append _ _ _) habsent
  | some split =>
      obtain ⟨before, after⟩ := split
      obtain ⟨hchars, hlast⟩ := Chars.splitAtLast?_eq_some (by decide) hsplit
      refine ⟨String.ofList before, String.ofList after, ?_, ?_⟩
      · apply eq_append_separator_iff.mpr
        simpa using hchars
      · intro front back hother
        have hlength := hlast front.toList back.toList (eq_append_separator_iff.mp hother)
        rw [String.length_toList] at hlength
        simpa using hlength

/-- The name of an operator has no part of a separator, whatever the path before it ends with. -/
theorem splitsLast_append_name (path : String) (operator : Operator) :
    SplitsLast (path ++ separator ++ operator.name) path operator.name where
  eq := rfl
  last := by
    intro front back hkey
    have hchars := eq_append_separator_iff.mp hkey
    rw [String.toList_append, String.toList_append] at hchars
    have hlength := Chars.length_le_of_notMem (c := '_') (by decide)
      (underscore_notMem_name operator) hchars
    rw [String.length_toList, String.length_toList] at hlength
    exact hlength

theorem SplitsLast.unique {key before after front back : String}
    (hfirst : SplitsLast key before after) (hsecond : SplitsLast key front back) :
    before = front ∧ after = back := by
  have hsame := hfirst.splitAtLast?_eq.symm.trans hsecond.splitAtLast?_eq
  simpa [String.toList_inj] using hsame

end Operator

namespace Predicate

open Operator (HasSeparator SplitsLast separator)

theorem splitKey_of_splitsLast {key before after : String} (hkey : SplitsLast key before after) :
    splitKey key =
      match Operator.ofName? after with
      | some operator => .ok (before, operator)
      | none => .error (.unknownOperator key after) := by
  rw [splitKey, hkey.splitAtLast?_eq]
  cases hname : Operator.ofName? after with
  | none => simp only [String.ofList_toList, hname]
  | some operator => simp only [String.ofList_toList, hname]

theorem splitKey_of_not_hasSeparator {key : String} (hkey : ¬ HasSeparator key) :
    splitKey key = .ok (key, .eq) := by
  have hsplit : Chars.splitAtLast? separator.toList key.toList = none := by
    rw [Chars.splitAtLast?_eq_none_iff (by decide)]
    rintro ⟨front, back, hchars⟩
    apply hkey
    refine ⟨String.ofList front, String.ofList back, ?_⟩
    apply Operator.eq_append_separator_iff.mpr
    simpa using hchars.symm
  rw [splitKey, hsplit]

theorem ofKey_of_complete {key path : String} {operator : Operator}
    (hkey : splitKey key = .ok (path, operator)) (hpath : Path.Complete path) (operand : Value) :
    ofKey key operand = ofParts path operator operand := by
  have hcomplete := (Path.isComplete_iff path).mpr hpath
  rw [ofKey, hkey]
  simp only [bind, Except.bind, hcomplete, if_true]

theorem ofKey_of_not_complete {key path : String} {operator : Operator}
    (hkey : splitKey key = .ok (path, operator)) (hpath : ¬ Path.Complete path)
    (operand : Value) : ofKey key operand = .error (.emptyField key) := by
  have hempty := (Path.isComplete_iff path).not.mpr hpath
  rw [ofKey, hkey]
  simp only [bind, Except.bind, hempty, Bool.false_eq_true, if_false]

theorem ofKey_append_name {path : String} (hpath : Path.Complete path) (operator : Operator)
    (operand : Value) :
    ofKey (path ++ separator ++ operator.name) operand = ofParts path operator operand := by
  apply ofKey_of_complete _ hpath
  rw [splitKey_of_splitsLast (Operator.splitsLast_append_name path operator),
    Operator.ofName?_eq_some_iff.mpr rfl]

/-- A complete path, with the name of an operator behind a separator or without any separator. -/
def IsQueryKey (key : String) : Prop :=
  (∃ path, Path.Complete path ∧ ∃ operator : Operator, key = path ++ separator ++ operator.name) ∨
    (Path.Complete key ∧ ¬ HasSeparator key)

/-- Query keys give what their parts give, and every other key is refused whatever the operand is.
No key spells out two different pairs of a path and an operator, and a field with a complete name
can be asked for by that name. -/
theorem ofKey_reads_exactly_the_query_keys :
    (∀ path, Path.Complete path → ∀ (operator : Operator) (operand : Value),
      ofKey (path ++ separator ++ operator.name) operand = ofParts path operator operand) ∧
    (∀ key, Path.Complete key → ¬ HasSeparator key → ∀ operand : Value,
      ofKey key operand = ofParts key .eq operand) ∧
    (∀ key, ¬ IsQueryKey key →
      (∃ before after, SplitsLast key before after ∧
        (∀ operator : Operator, operator.name ≠ after) ∧
        ∀ operand : Value, ofKey key operand = .error (.unknownOperator key after)) ∨
      ((∀ before after, SplitsLast key before after →
          ∃ operator : Operator, operator.name = after) ∧
        ∀ operand : Value, ofKey key operand = .error (.emptyField key))) ∧
    (∀ (path other : String) (operator another : Operator),
      path ++ separator ++ operator.name = other ++ separator ++ another.name →
        path = other ∧ operator = another) ∧
    ∀ name, Path.Complete name → ∀ operand : Value, operand.isFinite = true →
      ∃ predicate, ofKey (name ++ separator ++ Operator.eq.name) operand = .ok predicate ∧
        ∀ (record : Record) (value : Value), record.get? name = some value →
          predicate.evaluate record = .ok (value.equivalent operand) := by
  refine ⟨fun path hpath => ofKey_append_name hpath, ?_, ?_, ?_, ?_⟩
  · intro key hkey hbare operand
    exact ofKey_of_complete (splitKey_of_not_hasSeparator hbare) hkey operand
  · intro key hother
    by_cases hseparator : HasSeparator key
    · obtain ⟨before, after, hsplit⟩ := Operator.exists_splitsLast hseparator
      have hkey := splitKey_of_splitsLast hsplit
      cases hname : Operator.ofName? after with
      | none =>
          left
          refine ⟨before, after, hsplit, Operator.ofName?_eq_none_iff.mp hname, ?_⟩
          intro operand
          rw [ofKey, hkey, hname]
          rfl
      | some operator =>
          right
          have hafter := Operator.ofName?_eq_some_iff.mp hname
          rw [hname] at hkey
          constructor
          · intro front back hfront
            exact ⟨operator, hafter.trans (hsplit.unique hfront).2⟩
          · apply ofKey_of_not_complete hkey
            intro hpath
            apply hother
            left
            refine ⟨before, hpath, operator, ?_⟩
            rw [hafter]
            exact hsplit.eq
    · right
      constructor
      · intro before after hsplit
        exact absurd ⟨before, after, hsplit.eq⟩ hseparator
      · apply ofKey_of_not_complete (splitKey_of_not_hasSeparator hseparator)
        intro hpath
        exact hother (Or.inr ⟨hpath, hseparator⟩)
  · intro path other operator another hsame
    have hsplit := Operator.splitsLast_append_name path operator
    rw [hsame] at hsplit
    obtain ⟨hpath, hname⟩ := hsplit.unique (Operator.splitsLast_append_name other another)
    exact ⟨hpath, Operator.name_injective hname⟩
  · intro name hname operand hoperand
    have htest : Test.ofOperand .eq operand = .ok (.eq operand) := Test.finite_of_isFinite hoperand
    refine ⟨⟨name, .eq operand⟩, ?_, ?_⟩
    · rw [ofKey_append_name hname, ofParts, htest]
    · intro record value hfield
      have hresolve : record.resolve name = value := by
        rw [Record.resolve, hfield]
      rw [evaluate]
      dsimp only
      rw [hresolve]
      rfl

/-- A field that looks like another key and ends with a part of a separator. -/
theorem ofKey_reads_exactly_the_query_keys_overlapping :
    ofKey "a__gt___lte" (.integer 3) = .ok ⟨"a__gt_", .order .lte (.integer 3)⟩ ∧
      ∃ predicate, ofKey "a__gt___eq" (.text "x") = .ok predicate ∧
        predicate.evaluate ⟨[("a__gt_", .text "x")]⟩ = .ok true := by
  obtain ⟨hspelled, -, -, -, hfield⟩ := ofKey_reads_exactly_the_query_keys
  have hpath : Path.Complete "a__gt_" := by
    rw [← Path.isComplete_iff]
    decide
  obtain ⟨predicate, hpredicate, hevaluate⟩ := hfield "a__gt_" hpath (.text "x") rfl
  exact ⟨hspelled "a__gt_" hpath (.order .lte) (.integer 3), predicate, hpredicate,
    hevaluate _ (.text "x") rfl⟩

end Predicate

end DocumentStore
