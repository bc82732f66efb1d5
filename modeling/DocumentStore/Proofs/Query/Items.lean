import Mathlib.Data.List.Basic
import Mathlib.Logic.Function.Iterate
import DocumentStore.Proofs.Json.Tree
import DocumentStore.Query

/-!
# The items of a query

What the predicates make of the records, one record after the other, is a list of matches and
errors (`Predicate.outcomes`).  A limit cuts the list right after that many matches (`upTo`).
A pass gives the items of the cut list one by one: each call takes the first item off what the
pass has left, however the matches, the errors and the other records are mixed.
-/

namespace DocumentStore

/-! ## The list of items -/

/-- What the predicates make of a record, if they do not reject it. -/
def Predicate.outcome? (predicates : List Predicate) (record : Record) :
    Option (Except EvalError Record) :=
  match matchesAll predicates record with
  | .ok false => none
  | .ok true => some (.ok record)
  | .error error => some (.error error)

/-- The matches among the records and the errors, in the order of the records. -/
def Predicate.outcomes (predicates : List Predicate) (records : List Record) :
    List (Except EvalError Record) :=
  records.filterMap (outcome? predicates)

section Limit

variable {ε α : Type}

/-- The items up to and with the `n`-th match; errors do not count. -/
def cut : Nat → List (Except ε α) → List (Except ε α)
  | 0, _ => []
  | _ + 1, [] => []
  | n + 1, .ok found :: rest => .ok found :: cut n rest
  | n + 1, .error error :: rest => .error error :: cut (n + 1) rest

/-- The items that a limit leaves. -/
def upTo : Option Nat → List (Except ε α) → List (Except ε α)
  | none, items => items
  | some n, items => cut n items

def matchCount (items : List (Except ε α)) : Nat :=
  items.countP Except.isOk

@[simp]
theorem matchCount_nil : matchCount ([] : List (Except ε α)) = 0 :=
  rfl

@[simp]
theorem matchCount_ok (found : α) (rest : List (Except ε α)) :
    matchCount (.ok found :: rest) = matchCount rest + 1 :=
  List.countP_cons_of_pos rfl

@[simp]
theorem matchCount_error (error : ε) (rest : List (Except ε α)) :
    matchCount (.error error :: rest) = matchCount rest :=
  List.countP_cons_of_neg (by simp [Except.isOk, Except.toBool])

theorem cut_prefix_of_le {n m : Nat} (hle : n ≤ m) (items : List (Except ε α)) :
    cut n items <+: cut m items := by
  induction items generalizing n m with
  | nil => cases n <;> simp [cut]
  | cons item rest ih =>
      cases n with
      | zero => exact List.nil_prefix
      | succ n =>
          obtain ⟨m, rfl⟩ : ∃ k, m = k + 1 := ⟨m - 1, by omega⟩
          cases item with
          | ok found => exact List.cons_prefix_cons.mpr ⟨rfl, ih (by omega)⟩
          | error error => exact List.cons_prefix_cons.mpr ⟨rfl, ih hle⟩

theorem cut_prefix (n : Nat) (items : List (Except ε α)) : cut n items <+: items := by
  induction items generalizing n with
  | nil => cases n <;> simp [cut]
  | cons item rest ih =>
      cases n with
      | zero => exact List.nil_prefix
      | succ n =>
          cases item with
          | ok found => exact List.cons_prefix_cons.mpr ⟨rfl, ih n⟩
          | error error => exact List.cons_prefix_cons.mpr ⟨rfl, ih (n + 1)⟩

/-- A higher limit, or none, only adds items at the end. -/
theorem upTo_prefix {limit larger : Option Nat}
    (hlarger : ∀ n, larger = some n → ∃ m ≤ n, limit = some m) (items : List (Except ε α)) :
    upTo limit items <+: upTo larger items := by
  cases larger with
  | none =>
      cases limit with
      | none => exact List.prefix_rfl
      | some m => exact cut_prefix m items
  | some n =>
      obtain ⟨m, hle, rfl⟩ := hlarger n rfl
      exact cut_prefix_of_le hle items

/-- Either there are fewer matches than the limit and nothing is left out, or the limit is reached
with the last item. -/
theorem cut_reaches (n : Nat) (items : List (Except ε α)) :
    (cut n items = items ∧ matchCount items < n) ∨
      (matchCount (cut n items) = n ∧ (cut n items = [] ∨
        ∃ before found, cut n items = before ++ [.ok found])) := by
  induction items generalizing n with
  | nil => cases n <;> simp [cut]
  | cons item rest ih =>
      cases n with
      | zero => exact .inr ⟨rfl, .inl rfl⟩
      | succ n =>
          cases item with
          | ok found =>
              rw [cut, matchCount_ok, matchCount_ok]
              rcases ih n with ⟨hall, hfewer⟩ | ⟨hcount, hlast⟩
              · exact .inl ⟨by rw [hall], by omega⟩
              · refine .inr ⟨by omega, .inr ?_⟩
                rcases hlast with hnone | ⟨before, last, hlast⟩
                · exact ⟨[], found, by rw [hnone]; rfl⟩
                · exact ⟨.ok found :: before, last, by rw [hlast]; rfl⟩
          | error error =>
              rw [cut, matchCount_error, matchCount_error]
              rcases ih (n + 1) with ⟨hall, hfewer⟩ | ⟨hcount, hlast⟩
              · exact .inl ⟨by rw [hall], hfewer⟩
              · refine .inr ⟨hcount, .inr ?_⟩
                rcases hlast with hnone | ⟨before, last, hlast⟩
                · simp [hnone] at hcount
                · exact ⟨.error error :: before, last, by rw [hlast]; rfl⟩

end Limit

/-! ## Passes -/

namespace Pass

/-- The items that are still to come. -/
def rest (pass : Pass) : List (Except EvalError Record) :=
  upTo pass.remaining (Predicate.outcomes pass.predicates pass.records)

theorem scan_eq {predicates : List Predicate} {remaining : Option Nat}
    (hremaining : remaining ≠ some 0) (records : List Record) :
    (scan predicates remaining records).1 =
        (upTo remaining (Predicate.outcomes predicates records)).head? ∧
      (scan predicates remaining records).2.rest =
        (upTo remaining (Predicate.outcomes predicates records)).tail := by
  induction records with
  | nil =>
      cases remaining with
      | none => exact ⟨rfl, rfl⟩
      | some n => cases n <;> exact ⟨rfl, rfl⟩
  | cons record records ih =>
      unfold scan
      cases hresult : Predicate.matchesAll predicates record with
      | ok accepted =>
          cases accepted with
          | false => simpa [Predicate.outcomes, Predicate.outcome?, hresult] using ih
          | true =>
              cases remaining with
              | none => simp [Predicate.outcomes, Predicate.outcome?, hresult, upTo, rest]
              | some n =>
                  cases n with
                  | zero => exact absurd rfl hremaining
                  | succ n =>
                      simp [Predicate.outcomes, Predicate.outcome?, hresult, upTo, cut, rest]
      | error error =>
          cases remaining with
          | none => simp [Predicate.outcomes, Predicate.outcome?, hresult, upTo, rest]
          | some n =>
              cases n with
              | zero => exact absurd rfl hremaining
              | succ n => simp [Predicate.outcomes, Predicate.outcome?, hresult, upTo, cut, rest]

/-- A call gives the first item of what is left and takes it off. -/
theorem next_eq (pass : Pass) :
    pass.next.1 = pass.rest.head? ∧ pass.next.2.rest = pass.rest.tail := by
  unfold next
  by_cases hdone : pass.remaining = some 0
  · have hrest : pass.rest = [] := by
      rw [rest, hdone, upTo, cut]
    rw [if_pos hdone, hrest]
    exact ⟨rfl, rfl⟩
  · rw [if_neg hdone]
    exact scan_eq hdone pass.records

/-- The pass after a number of calls. -/
def after (calls : Nat) (pass : Pass) : Pass :=
  (fun pass => pass.next.2)^[calls] pass

theorem rest_after (calls : Nat) (pass : Pass) :
    (pass.after calls).rest = pass.rest.drop calls := by
  induction calls with
  | zero => rfl
  | succ calls ih =>
      have hstep : pass.after (calls + 1) = (pass.after calls).next.2 :=
        Function.iterate_succ_apply' _ calls pass
      rw [hstep, (pass.after calls).next_eq.2, ih, List.tail_drop]

/-- The calls give the items in turn and nothing after the last one. -/
theorem next_after (calls : Nat) (pass : Pass) :
    (pass.after calls).next.1 = pass.rest[calls]? := by
  rw [(pass.after calls).next_eq.1, rest_after, List.head?_drop]

theorem toList_eq_rest (pass : Pass) : pass.toList = pass.rest := by
  obtain ⟨hhead, htail⟩ := pass.next_eq
  unfold toList
  split
  · rename_i after hnext
    rw [hnext] at hhead
    exact (List.head?_eq_none_iff.mp hhead.symm).symm
  · rename_i item after hnext
    have hshorter := length_next hnext
    rw [hnext] at hhead htail
    rw [toList_eq_rest after, htail]
    exact List.cons_head?_tail hhead.symm
termination_by pass.records.length

end Pass

/-! ## Results -/

theorem Record.toTree_eq (record : Record) : record.toTree = record.toValue.toTree := by
  rw [toTree, toValue, Value.toTree]

namespace Matches

theorem items_eq (found : Matches) :
    found.items = upTo found.limit (Predicate.outcomes found.predicates found.records) :=
  found.iter.toList_eq_rest

theorem first?_eq (found : Matches) :
    found.first? =
      match found.items with
      | [] => .ok none
      | .ok record :: _ => .ok (some record)
      | .error error :: _ => .error error := by
  rw [first?, found.iter.next_eq.1, items, Pass.toList_eq_rest]
  rcases found.iter.rest with - | ⟨error | record, rest⟩ <;> rfl

section Collect

variable {ε α : Type}

/-- Either all items are matches, or there is a first error. -/
theorem all_ok_or_first_error (items : List (Except ε α)) :
    (∃ founds : List α, items = founds.map .ok) ∨
      ∃ (before : List α) (error : ε) (rest : List (Except ε α)),
        items = before.map .ok ++ .error error :: rest := by
  induction items with
  | nil => exact .inl ⟨[], rfl⟩
  | cons item rest ih =>
      cases item with
      | error error => exact .inr ⟨[], error, rest, rfl⟩
      | ok found =>
          rcases ih with ⟨founds, rfl⟩ | ⟨before, error, after, rfl⟩
          · exact .inl ⟨found :: founds, rfl⟩
          · exact .inr ⟨found :: before, error, after, rfl⟩

theorem mapM_id_ok (founds : List α) :
    (founds.map (Except.ok (ε := ε))).mapM id = .ok founds := by
  induction founds with
  | nil => rfl
  | cons found rest ih =>
      rw [List.map_cons, List.mapM_cons, ih]
      rfl

theorem mapM_id_error (before : List α) (error : ε) (rest : List (Except ε α)) :
    (before.map Except.ok ++ Except.error error :: rest).mapM id = .error error := by
  induction before with
  | nil => rfl
  | cons found before ih =>
      rw [List.map_cons, List.cons_append, List.mapM_cons, ih]
      rfl

end Collect

variable {found : Matches}

/-- What is printed is the JSON data of the matches, without the doubles that JSON has no number
for. -/
theorem ofTree_matches (records : List Record) :
    Value.ofTree (.list (records.map fun record => record.toValue.toTree)) =
      .list (records.map fun record => record.toValue.nulled) := by
  rw [Value.ofTree, Json.ofTrees_eq_map, List.map_map]
  congr 2
  funext record
  exact Value.ofTree_toTree record.toValue

theorem collected_ok {records : List Record} (hitems : found.items = records.map .ok) :
    found.toList = .ok records ∧
      found.toTree = .ok (.list (records.map fun record => record.toValue.toTree)) ∧
      found.toValue = .ok (.list (records.map fun record => record.toValue.nulled)) ∧
      found.count = .ok records.length := by
  have hlist : found.toList = .ok records := by
    rw [toList, hitems, mapM_id_ok]
  have htree : found.toTree =
      .ok (.list (records.map fun record => record.toValue.toTree)) := by
    rw [toTree, hlist, funext Record.toTree_eq]
    rfl
  refine ⟨hlist, htree, ?_, ?_⟩
  · rw [toValue, htree, ← ofTree_matches]
    rfl
  · rw [count, hlist]
    rfl

/-- Whatever comes behind the first error is left out of account. -/
theorem collected_error {before : List Record} {error : EvalError}
    {rest : List (Except EvalError Record)}
    (hitems : found.items = before.map .ok ++ .error error :: rest) :
    found.toList = .error error ∧ found.toTree = .error error ∧ found.toValue = .error error ∧
      found.count = .error error := by
  have hlist : found.toList = .error error := by
    rw [toList, hitems, mapM_id_error]
  have htree : found.toTree = .error error := by
    rw [toTree, hlist]
    rfl
  refine ⟨hlist, htree, ?_, ?_⟩
  · rw [toValue, htree]
    rfl
  · rw [count, hlist]
    rfl

end Matches

end DocumentStore
