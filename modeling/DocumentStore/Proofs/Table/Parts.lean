import DocumentStore.Proofs.Table.Ids
import Mathlib.Order.Bounds.Basic

/-!
# Parts of a table

Records may stand in a table if their ids are integers or texts, lie below the counter unless that
has come to its end, and do not repeat.  A table is rebuilt from such records and from no others.

The check is a single loop that keeps the keys of the records it has passed and stops at the first
one at fault.  Still, what it accepts is a condition on pairs of records, and what it reports is
fixed by that condition: the first position up to which the records may not stand in a table.
-/

namespace DocumentStore

theorem Record.exists_key?_iff (record : Record) :
    (∃ key, record.key? = some key) ↔
      (∃ n, record.id = .integer n) ∨ ∃ s, record.id = .text s := by
  constructor
  · rintro ⟨key, hkey⟩
    rw [key?_eq_some_iff] at hkey
    cases key with
    | integer n => exact Or.inl ⟨n, hkey⟩
    | text s => exact Or.inr ⟨s, hkey⟩
  · rintro (⟨n, hid⟩ | ⟨s, hid⟩)
    · exact ⟨.integer n, key?_eq_some_iff.mpr hid⟩
    · exact ⟨.text s, key?_eq_some_iff.mpr hid⟩

namespace Table

/-- The records may stand in a table with this counter. -/
structure Acceptable (nextId : Int64) (records : List Record) : Prop where
  keyed : ∀ record ∈ records, (∃ n, record.id = .integer n) ∨ ∃ s, record.id = .text s
  distinct : records.Pairwise fun first second =>
    ∀ key, first.key? = some key → second.key? ≠ some key
  below : ∀ record ∈ records, ∀ n, record.id = .integer n →
    n < nextId ∨ nextId = Int64.maxValue

variable {nextId : Int64} {before after records : List Record} {position : Nat} {record : Record}
  {fault : TableFault}

theorem acceptable_nil : Acceptable nextId [] :=
  ⟨by simp, List.Pairwise.nil, by simp⟩

theorem acceptable_iff_valid :
    Acceptable nextId records ↔ Valid ⟨records, records.filterMap Record.key?, nextId⟩ := by
  constructor
  · intro haccept
    refine ⟨fun record hrecord => record.exists_key?_iff.mpr (haccept.keyed record hrecord), rfl,
      ?_, ?_⟩
    · refine List.pairwise_filterMap.mpr (haccept.distinct.imp ?_)
      rintro first second hdistinct key hfirst other hsecond rfl
      exact hdistinct key hfirst hsecond
    · intro key hmem
      obtain ⟨record, hrecord, hkey⟩ := List.mem_filterMap.mp hmem
      cases key with
      | integer n => exact haccept.below record hrecord n (Record.key?_eq_some_iff.mp hkey)
      | text s => trivial
  · intro hvalid
    refine ⟨fun record hrecord => record.exists_key?_iff.mp (hvalid.keyed record hrecord), ?_, ?_⟩
    · exact (List.pairwise_filterMap.mp hvalid.distinct).imp fun hdistinct key hfirst hsecond =>
        hdistinct key hfirst key hsecond rfl
    · intro record hrecord n hid
      have hkey : record.key? = some (.integer n) := Record.key?_eq_some_iff.mpr hid
      exact hvalid.below (.integer n) (List.mem_filterMap.mpr ⟨record, hrecord, hkey⟩)

theorem Acceptable.of_append (haccept : Acceptable nextId (before ++ after)) :
    Acceptable nextId before :=
  ⟨fun record hrecord => haccept.keyed record (List.mem_append_left _ hrecord),
    (List.pairwise_append.mp haccept.distinct).1,
    fun record hrecord => haccept.below record (List.mem_append_left _ hrecord)⟩

theorem acceptable_concat_iff {key : Key} (hkey : record.key? = some key) :
    Acceptable nextId (before ++ [record]) ↔
      Acceptable nextId before ∧ key.Below nextId ∧ key ∉ before.filterMap Record.key? := by
  have hkeys : (before ++ [record]).filterMap Record.key? =
      before.filterMap Record.key? ++ [key] := by
    simp [hkey]
  constructor
  · intro haccept
    have hvalid := acceptable_iff_valid.mp haccept
    have hdistinct := hvalid.distinct
    simp only [hkeys] at hdistinct
    rw [List.nodup_append_comm, List.singleton_append, List.nodup_cons] at hdistinct
    exact ⟨haccept.of_append, hvalid.below key (by simp [hkeys]), hdistinct.1⟩
  · rintro ⟨haccept, hbelow, hnew⟩
    have hvalid := acceptable_iff_valid.mp haccept
    refine acceptable_iff_valid.mpr ⟨?_, rfl, ?_, ?_⟩
    · exact List.forall_mem_append.mpr ⟨hvalid.keyed, by simp [hkey]⟩
    · rw [hkeys, List.nodup_append_comm, List.singleton_append, List.nodup_cons]
      exact ⟨hnew, hvalid.distinct⟩
    · rw [hkeys]
      exact List.forall_mem_append.mpr ⟨hvalid.below, by simpa using hbelow⟩

/-- A record with a flaw may not stand behind the records that were looked at before. -/
theorem Flaw.not_acceptable
    (hflaw : Flaw nextId (before.filterMap Record.key?) position record fault) :
    ¬ Acceptable nextId (before ++ [record]) := by
  intro haccept
  obtain ⟨key, hkey⟩ := record.exists_key?_iff.mpr (haccept.keyed record (by simp))
  obtain ⟨-, hbelow, hnew⟩ := (acceptable_concat_iff hkey).mp haccept
  exact hnew (hflaw.mem_of_below hkey hbelow)

theorem Flaw.congr {seen others : List Key} (hsame : ∀ key, key ∈ seen ↔ key ∈ others)
    (hflaw : Flaw nextId seen position record fault) :
    Flaw nextId others position record fault := by
  cases hflaw with
  | idKind unkeyed => exact .idKind unkeyed
  | staleCounter keyed stale => exact .staleCounter keyed stale
  | duplicateId keyed below held => exact .duplicateId keyed below ((hsame _).mp held)

theorem Flaw.unique {seen : List Key} {other : TableFault}
    (hflaw : Flaw nextId seen position record fault)
    (hother : Flaw nextId seen position record other) : fault = other :=
  Except.error.inj ((collectIds_of_flaw hflaw []).symm.trans (collectIds_of_flaw hother []))

/-! ## The first fault -/

/-- The records up to the position are the first that may not stand in a table, and the fault is
that of the last one among them. -/
structure FirstFlaw (nextId : Int64) (records : List Record) (position : Nat) (record : Record)
    (fault : TableFault) : Prop where
  least : IsLeast {p | ¬ Acceptable nextId (records.take (p + 1))} position
  found : records[position]? = some record
  flaw : Flaw nextId ((records.take position).filterMap Record.key?) position record fault

theorem FirstFlaw.of_split (hbefore : Acceptable nextId before)
    (hflaw : Flaw nextId (before.filterMap Record.key?) before.length record fault) :
    FirstFlaw nextId (before ++ record :: after) before.length record fault := by
  have hstop : (before ++ record :: after).take (before.length + 1) = before ++ [record] := by
    simp [List.take_append]
  refine ⟨⟨?_, fun p hp => ?_⟩, by simp, by simpa using hflaw⟩
  · rw [Set.mem_ofPred_eq, hstop]
    exact hflaw.not_acceptable
  · by_contra hlt
    -- A shorter start of the records is a start of the acceptable ones.
    have hinside : (before ++ record :: after).take (p + 1) = before.take (p + 1) :=
      List.take_append_of_le_length (by omega)
    rw [Set.mem_ofPred_eq, hinside] at hp
    rw [← List.take_append_drop (p + 1) before] at hbefore
    exact hp hbefore.of_append

theorem FirstFlaw.not_acceptable (hfirst : FirstFlaw nextId records position record fault) :
    ¬ Acceptable nextId records := by
  intro haccept
  rw [← List.take_append_drop (position + 1) records] at haccept
  exact hfirst.least.1 haccept.of_append

theorem FirstFlaw.unique {otherPosition : Nat} {otherRecord : Record} {other : TableFault}
    (hfirst : FirstFlaw nextId records position record fault)
    (hother : FirstFlaw nextId records otherPosition otherRecord other) : fault = other := by
  obtain rfl : position = otherPosition := hfirst.least.unique hother.least
  obtain rfl : record = otherRecord := Option.some.inj (hfirst.found.symm.trans hother.found)
  exact hfirst.flaw.unique hother.flaw

/-- The loop that collects the ids has found the records `done` acceptable when it comes to the
records `todo`, and it stops at the first of these that may not stand behind the records before. -/
theorem firstFlaw_of_collectIds {seen : List Key} {done todo : List Record}
    (hdone : Acceptable nextId done)
    (hseen : ∀ key, key ∈ seen ↔ key ∈ done.filterMap Record.key?)
    (hcollect : collectIds nextId done.length seen todo = .error fault) :
    ∃ position record, FirstFlaw nextId (done ++ todo) position record fault := by
  induction todo generalizing done seen with
  | nil => simp [collectIds] at hcollect
  | cons record rest ih =>
      rcases fits_or_flawed nextId seen done.length record with
        ⟨key, hkey, hbelow, hnew⟩ | ⟨other, hflaw⟩
      · rw [collectIds_of_fits hkey hbelow hnew, map_eq_error_iff] at hcollect
        rw [hseen] at hnew
        -- The loop keeps the keys in the opposite order, so `seen` is compared by its members.
        have hkeys : ∀ other, other ∈ key :: seen ↔
            other ∈ (done ++ [record]).filterMap Record.key? := by
          intro other
          simp [hseen, hkey, or_comm]
        have hnext := (acceptable_concat_iff hkey).mpr ⟨hdone, hbelow, hnew⟩
        simpa using ih hnext hkeys (by simpa using hcollect)
      · rw [collectIds_of_flaw hflaw] at hcollect
        cases hcollect
        exact ⟨done.length, record, .of_split hdone (hflaw.congr hseen)⟩

theorem ofParts?_isOk_iff :
    (∃ table, ofParts? records nextId = .ok table) ↔ Acceptable nextId records := by
  rw [acceptable_iff_valid]
  constructor
  · rintro ⟨table, hparts⟩
    obtain ⟨hvalid, rfl, rfl⟩ := (ofParts?_eq_ok_iff ..).mp hparts
    rw [← hvalid.ids_eq]
    exact hvalid
  · intro hvalid
    exact ⟨_, hvalid.ofParts?_eq⟩

theorem firstFlaw_of_ofParts? (hparts : ofParts? records nextId = .error fault) :
    ∃ position record, FirstFlaw nextId records position record fault := by
  have hkeys : ∀ key : Key, key ∈ ([] : List Key) ↔ key ∈ [].filterMap Record.key? := by simp
  cases hcollect : collectIds nextId 0 [] records with
  | error other =>
      simp only [ofParts?, hcollect] at hparts
      cases hparts
      exact firstFlaw_of_collectIds acceptable_nil hkeys hcollect
  | ok ids =>
      simp only [ofParts?, hcollect] at hparts
      cases hparts

theorem ofParts?_eq_error_iff :
    ofParts? records nextId = .error fault ↔
      ∃ position record, FirstFlaw nextId records position record fault := by
  refine ⟨firstFlaw_of_ofParts?, ?_⟩
  rintro ⟨position, record, hfirst⟩
  cases hparts : ofParts? records nextId with
  | ok table => exact absurd (ofParts?_isOk_iff.mp ⟨table, hparts⟩) hfirst.not_acceptable
  | error other =>
      obtain ⟨_, _, hother⟩ := firstFlaw_of_ofParts? hparts
      rw [hfirst.unique hother]

/-! ## Rebuilding -/

/-- A table is rebuilt from its parts exactly if the records may stand in it, and then it has these
records, this counter and their keys.  What is reported otherwise is the fault of the first record
that may not stand behind those before it. -/
theorem parts_accepted_or_first_fault_reported (records : List Record) (nextId : Int64) :
    ((∃ table, ofParts? records nextId = .ok table) ↔ Acceptable nextId records) ∧
      (∀ table, ofParts? records nextId = .ok table →
        table.records = records ∧ table.nextId = nextId ∧ table.ids.Nodup ∧
          ∀ key, key ∈ table.ids ↔ ∃ record ∈ records, record.key? = some key) ∧
      ∀ fault, ofParts? records nextId = .error fault ↔
        ∃ position record, FirstFlaw nextId records position record fault := by
  refine ⟨ofParts?_isOk_iff, fun table hparts => ?_, fun fault => ofParts?_eq_error_iff⟩
  obtain ⟨hvalid, rfl, rfl⟩ := (ofParts?_eq_ok_iff ..).mp hparts
  refine ⟨rfl, rfl, hvalid.distinct, fun key => ?_⟩
  rw [hvalid.ids_eq, List.mem_filterMap]

/-- A text and an integer that look the same, the integer once more, and one that the counter has
not passed. -/
private def repeatedId : List Record :=
  [⟨[(idField, .text "7")]⟩, ⟨[(idField, .integer 7)]⟩, ⟨[(idField, .integer 7)]⟩,
    ⟨[(idField, .integer 8)]⟩]

private def greatestId : List Record :=
  [⟨[(idField, .text "7")]⟩, ⟨[(idField, .integer Int64.maxValue)]⟩]

theorem parts_accepted_or_first_fault_reported_repeated :
    ofParts? repeatedId 8 = .error (.duplicateId 2 (.integer 7)) ∧
      IsLeast {p | ¬ Acceptable 8 (repeatedId.take (p + 1))} 2 ∧
      ∃ table, ofParts? greatestId Int64.maxValue = .ok table ∧
        table.records = greatestId ∧ Key.integer Int64.maxValue ∈ table.ids := by
  have hfault : ofParts? repeatedId 8 = .error (.duplicateId 2 (.integer 7)) := rfl
  have hparts : ofParts? greatestId Int64.maxValue =
      .ok ⟨greatestId, [.text "7", .integer Int64.maxValue], Int64.maxValue⟩ := rfl
  have hlast : ⟨[(idField, .integer Int64.maxValue)]⟩ ∈ greatestId := by simp [greatestId]
  obtain ⟨-, -, hreported⟩ := parts_accepted_or_first_fault_reported repeatedId 8
  obtain ⟨-, hkept, -⟩ := parts_accepted_or_first_fault_reported greatestId Int64.maxValue
  obtain ⟨hrecords, -, -, hids⟩ := hkept _ hparts
  refine ⟨hfault, ?_, _, hparts, hrecords, (hids _).mpr ⟨_, hlast, rfl⟩⟩
  obtain ⟨position, record, hfirst⟩ := (hreported _).mp hfault
  have hflaw := hfirst.flaw
  -- The fault tells the position; the id that it tells is that of an unknown record.
  generalize Value.integer 7 = id at hflaw
  cases hflaw
  exact hfirst.least

end Table

end DocumentStore
