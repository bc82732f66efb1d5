import DocumentStore.Proofs.Database.Selection

/-!
# What a query of a table gives

A query takes the records of a table as they are.  Whatever it is asked for then, the items one by
one, all matches, their number or the first of them, follows from the matches and errors among the
records up to the limit.
-/

namespace DocumentStore

namespace Database

variable {database : Database} {name : String} {table : Table}

/-- A limit of one match is enough to find the first item. -/
theorem findOne_eq (htable : database.table name = .ok table) (predicates : List Predicate) :
    database.findOne name (.ok predicates) =
      match Predicate.outcomes predicates table.records with
      | [] => .error (.recordNotFound name)
      | .ok record :: _ => .ok record
      | .error error :: _ => .error (.evaluation error) := by
  have hfirst := Matches.first?_eq ⟨name, table.records, predicates, some 1⟩
  rw [Matches.items_eq] at hfirst
  rw [findOne, find_eq htable]
  dsimp only [bind, Except.bind]
  rw [hfirst]
  rcases Predicate.outcomes predicates table.records with - | ⟨error | record, rest⟩ <;> rfl

/-- The items of a query are the matches and errors among the records, in their order and up to
the limit, which counts matches only: so every pass gives them, and then nothing.  All results
follow from these items, and an error behind the last of them is never met. -/
theorem query_gives_matches_and_errors_up_to_limit (htable : database.table name = .ok table)
    (predicates : List Predicate) (limit : Option Nat) :
    let all := Predicate.outcomes predicates table.records
    let expected := upTo limit all
    ∃ found, database.find name (.ok predicates) limit = .ok found ∧
      (∀ calls, (found.iter.after calls).next.1 = expected[calls]?) ∧
      found.items = expected ∧
      (∀ n, limit = some n → (expected = all ∧ matchCount all < n) ∨
        (matchCount expected = n ∧
          (expected = [] ∨ ∃ before record, expected = before ++ [.ok record]))) ∧
      ((∃ records : List Record, expected = records.map .ok ∧ found.toList = .ok records ∧
          found.toTree = .ok (.list (records.map fun record => record.toValue.toTree)) ∧
          found.toValue = .ok (.list (records.map fun record => record.toValue.nulled)) ∧
          found.count = .ok records.length) ∨
        ∃ (before : List Record) (error : EvalError) (rest : List (Except EvalError Record)),
          expected = before.map .ok ++ .error error :: rest ∧ found.toList = .error error ∧
            found.toTree = .error error ∧ found.toValue = .error error ∧
            found.count = .error error) ∧
      (found.first? =
        match expected with
        | [] => .ok none
        | .ok record :: _ => .ok (some record)
        | .error error :: _ => .error error) ∧
      (database.findOne name (.ok predicates) =
        match all with
        | [] => .error (.recordNotFound name)
        | .ok record :: _ => .ok record
        | .error error :: _ => .error (.evaluation error)) ∧
      ∀ larger other, (∀ n, larger = some n → ∃ m ≤ n, limit = some m) →
        database.find name (.ok predicates) larger = .ok other → found.items <+: other.items := by
  intro all expected
  have hfound : database.find name (.ok predicates) limit =
      .ok ⟨name, table.records, predicates, limit⟩ := find_eq htable predicates
  have hitems : Matches.items ⟨name, table.records, predicates, limit⟩ = expected :=
    Matches.items_eq _
  refine ⟨_, hfound, ?_, hitems, ?_, ?_, ?_, findOne_eq htable predicates, ?_⟩
  · intro calls
    exact Pass.next_after calls _
  · intro n hn
    have hcut : expected = cut n all := by
      change upTo limit all = cut n all
      rw [hn, upTo]
    rw [hcut]
    rcases cut_reaches n all with ⟨hall, hfewer⟩ | hreached
    · exact .inl ⟨hall, hfewer⟩
    · exact .inr hreached
  · rcases Matches.all_ok_or_first_error expected with ⟨records, hok⟩ |
      ⟨before, error, rest, herror⟩
    · exact .inl ⟨records, hok, Matches.collected_ok (hitems.trans hok)⟩
    · exact .inr ⟨before, error, rest, herror, Matches.collected_error (hitems.trans herror)⟩
  · have hfirst := Matches.first?_eq ⟨name, table.records, predicates, limit⟩
    rw [hitems] at hfirst
    exact hfirst
  · intro larger other hlarger hother
    rw [find_eq htable] at hother
    cases hother
    rw [hitems, Matches.items_eq]
    exact upTo_prefix hlarger all

/-- A match with a double that JSON has no number for. -/
private def unbounded : Record :=
  ⟨[("age", .integer 30), (idField, .integer 1),
    ("ratio", .float (Double.ofParts false Double.infinite))]⟩

private def mixed : Table :=
  ⟨[unbounded, ⟨[(idField, .integer 2)]⟩, ⟨[("age", .text "old"), (idField, .integer 3)]⟩,
    ⟨[("age", .integer 40), (idField, .integer 4)]⟩],
    [.integer 1, .integer 2, .integer 3, .integer 4], 5⟩

/-- A match, a record that is rejected, an error and another match: a limit of one stops before the
error. -/
theorem query_gives_matches_and_errors_up_to_limit_mixed :
    ∃ found, Database.find "users" (.ok [⟨"age", .order .gt (.integer 18)⟩]) (some 1)
        { fresh with tables := [("users", mixed)] } = .ok found ∧
      (found.iter.after 0).next.1 = some (.ok unbounded) ∧
      (found.iter.after 1).next.1 = none ∧
      found.toTree = .ok (.list [.map [("age", .number (.unsigned 30)),
        (idField, .number (.unsigned 1)), ("ratio", .null)]]) := by
  have htable : Database.table "users" { fresh with tables := [("users", mixed)] } =
      .ok mixed := by
    with_unfolding_all rfl
  have hall : Predicate.outcomes [⟨"age", .order .gt (.integer 18)⟩] mixed.records =
      [.ok unbounded, .error ⟨"age", .order .gt, .text, .integer⟩,
        .ok ⟨[("age", .integer 40), (idField, .integer 4)]⟩] := by
    with_unfolding_all rfl
  have hupTo : upTo (some 1) (Predicate.outcomes [⟨"age", .order .gt (.integer 18)⟩]
      mixed.records) = [.ok unbounded] := by
    rw [hall]
    rfl
  obtain ⟨found, hfound, hcalls, -, -, hresults, -⟩ :=
    query_gives_matches_and_errors_up_to_limit htable [⟨"age", .order .gt (.integer 18)⟩] (some 1)
  rw [hupTo] at hcalls hresults
  refine ⟨found, hfound, hcalls 0, hcalls 1, ?_⟩
  rcases hresults with ⟨records, hrecords, -, htree, -⟩ | ⟨before, error, rest, herror, -⟩
  · obtain ⟨record, rfl, hrecord⟩ := List.map_eq_singleton_iff.mp hrecords.symm
    cases hrecord
    rw [htree]
    with_unfolding_all rfl
  · cases before <;> simp at herror

end Database

end DocumentStore
