import DocumentStore.Database.Basic
import DocumentStore.Proofs.Disk.Tree

/-!
# Names of table files

The file of a table, its temporary files and the lock file have simple names, and no two of these
names are the same.  The name of a file tells which table it belongs to, if any.
-/

namespace DocumentStore

/-! ## Table names -/

/-- These are the characters of a table name. -/
structure IsTableNameList (chars : List Char) : Prop where
  ne_nil : chars ≠ []
  length : chars.length ≤ maxTableName
  chars : ∀ c ∈ chars, isTableNameChar c = true

theorem isTableName_iff (name : String) :
    isTableName name = true ↔ IsTableNameList name.toList := by
  have hsplit : isTableName name = true ↔ (name.toList ≠ [] ∧
      name.toList.length ≤ maxTableName) ∧ ∀ c ∈ name.toList, isTableNameChar c = true := by
    simp [isTableName]
  rw [hsplit]
  exact ⟨fun h => ⟨h.1.1, h.1.2, h.2⟩, fun h => ⟨⟨h.ne_nil, h.length⟩, h.chars⟩⟩

theorem utf8Size_of_isTableNameChar {c : Char} (hc : isTableNameChar c = true) :
    c.utf8Size = 1 := by
  rw [Char.utf8Size_eq_one_iff]
  have hupper : c.isUpper = true → c.val ≤ 'Z'.val := fun h => (of_decide_eq_true h).2
  have hlower : c.isLower = true → c.val ≤ 'z'.val := fun h =>
    of_decide_eq_true (Bool.and_eq_true_iff.mp h).2
  have hdigit : c.isDigit = true → c.val ≤ '9'.val := fun h =>
    of_decide_eq_true (Bool.and_eq_true_iff.mp h).2
  simp only [isTableNameChar, Bool.or_eq_true, beq_iff_eq] at hc
  rcases hc with (halphanum | rfl) | rfl
  · rcases Bool.or_eq_true_iff.mp halphanum with halpha | hnumber
    · rcases Bool.or_eq_true_iff.mp halpha with hletter | hletter
      · exact UInt32.le_trans (hupper hletter) (by decide)
      · exact UInt32.le_trans (hlower hletter) (by decide)
    · exact UInt32.le_trans (hdigit hnumber) (by decide)
  · decide
  · decide

theorem utf8ByteSize_of_isTableName {name : String} (hname : isTableName name = true) :
    name.utf8ByteSize ≤ maxTableName := by
  have hlist := (isTableName_iff name).mp hname
  have hsize : ∀ chars : List Char, (∀ c ∈ chars, isTableNameChar c = true) →
      String.utf8Len chars = chars.length := by
    intro chars hchars
    induction chars with
    | nil => rfl
    | cons c rest ih =>
        rw [List.forall_mem_cons] at hchars
        rw [String.utf8Len_cons, ih hchars.2, utf8Size_of_isTableNameChar hchars.1,
          List.length_cons]
  rw [← String.utf8Len_toList, hsize _ hlist.chars]
  exact hlist.length

/-! ## Files of tables -/

def Format.tableFile (format : Format) (table : String) : String :=
  s!"{table}.{format.extension}"

def temporaryFile (table : String) (tag : Nat) : String :=
  s!".{table}.{tag}{temporarySuffix}"

theorem TableFiles.path_eq (files : TableFiles) (table : String) :
    files.path table = files.folder.join (files.format.tableFile table) := rfl

theorem toList_tableFile (format : Format) (table : String) :
    (format.tableFile table).toList = table.toList ++ '.' :: format.extension.toList := by
  change (table ++ "." ++ format.extension).toList = _
  simp

theorem toList_temporaryFile (table : String) (tag : Nat) :
    (temporaryFile table tag).toList =
      '.' :: (table.toList ++ '.' :: (Nat.toDigits 10 tag ++ temporarySuffix.toList)) := by
  change ("." ++ table ++ "." ++ toString tag ++ temporarySuffix).toList = _
  simp

theorem tableFile_injective (format : Format) : Function.Injective format.tableFile := by
  intro table other hsame
  have hlists := congrArg String.toList hsame
  rw [toList_tableFile, toList_tableFile] at hlists
  exact String.toList_injective (List.append_cancel_right hlists)

/-- The ending of a file tells its format. -/
theorem format_eq_of_tableFile_eq {format other : Format} {table name : String}
    (hsame : format.tableFile table = other.tableFile name) : format = other := by
  have hlast : ∀ (format : Format) (table : String),
      (format.tableFile table).toList.getLast? = format.extension.toList.getLast? := by
    intro format table
    have hextension : format.extension.toList ≠ [] := by
      cases format <;> decide
    rw [toList_tableFile, List.append_cons, List.getLast?_append_of_ne_nil _ hextension]
  have hlasts := congrArg (fun file => file.toList.getLast?) hsame
  simp only [hlast] at hlasts
  revert hlasts
  cases format <;> cases other <;> decide

theorem temporaryFile_injective (table : String) : Function.Injective (temporaryFile table) := by
  intro tag other hsame
  have hlists := congrArg String.toList hsame
  simp only [toList_temporaryFile, List.cons.injEq, true_and, List.append_cancel_left_eq,
    List.append_cancel_right_eq] at hlists
  rw [← Nat.ofDigitChars_ten_toDigits (n := tag), hlists, Nat.ofDigitChars_ten_toDigits]

private theorem isSimpleName_of_chars {name : String} (hlength : 3 ≤ name.toList.length)
    (hslash : '/' ∉ name.toList) : IsSimpleName name := by
  refine ⟨?_, ?_, ?_, hslash⟩ <;> (rintro rfl; revert hlength; decide)

section TableName

variable {table : String} (htable : isTableName table = true)
include htable

theorem notMem_of_isTableName {c : Char} (hc : isTableNameChar c = false) :
    c ∉ table.toList := by
  intro hmem
  rw [((isTableName_iff table).mp htable).chars c hmem] at hc
  cases hc

theorem isSimpleName_tableFile (format : Format) : IsSimpleName (format.tableFile table) := by
  refine isSimpleName_of_chars ?_ ?_
  · have hextension : 2 ≤ format.extension.toList.length := by
      cases format <;> decide
    rw [toList_tableFile, List.length_append, List.length_cons]
    omega
  · have hextension : '/' ∉ '.' :: format.extension.toList := by
      cases format <;> decide
    rw [toList_tableFile, List.mem_append, not_or]
    exact ⟨notMem_of_isTableName htable (by decide), hextension⟩

theorem isSimpleName_temporaryFile (tag : Nat) : IsSimpleName (temporaryFile table tag) := by
  have hslash : '/' ∉ table.toList := notMem_of_isTableName htable (by decide)
  have hdigits : '/' ∉ Nat.toDigits 10 tag := fun hmem =>
    absurd (Nat.isDigit_of_mem_toDigits (by decide) (by decide) hmem) (by decide)
  refine isSimpleName_of_chars ?_ ?_
  · have hsuffix : temporarySuffix.toList.length = 4 := rfl
    rw [toList_temporaryFile]
    simp only [List.length_cons, List.length_append, hsuffix]
    omega
  · have hsuffix : '/' ∉ temporarySuffix.toList := by decide
    rw [toList_temporaryFile]
    simp [hslash, hdigits, hsuffix]

/-- The system accepts every table file: its name is short and has no zero character. -/
theorem checkEntryName_tableFile (format : Format) :
    checkEntryName (format.tableFile table) = .ok () := by
  have hname := (isTableName_iff table).mp htable
  have hzero : (format.tableFile table).toList.contains '\x00' = false := by
    have hextension : '\x00' ∉ '.' :: format.extension.toList := by
      cases format <;> decide
    rw [List.contains_eq_mem, decide_eq_false_iff_not, toList_tableFile, List.mem_append, not_or]
    exact ⟨notMem_of_isTableName htable (by decide), hextension⟩
  have hsize : (format.tableFile table).utf8ByteSize ≤ maxEntryName := by
    have htableSize := utf8ByteSize_of_isTableName htable
    have hextension : format.extension.utf8ByteSize ≤ 7 := by
      cases format <;> decide
    change (table ++ "." ++ format.extension).utf8ByteSize ≤ maxEntryName
    rw [String.utf8ByteSize_append, String.utf8ByteSize_append, maxEntryName]
    have hdot : ".".utf8ByteSize = 1 := by decide
    unfold maxTableName at htableSize
    omega
  rw [checkEntryName, hzero, if_neg Bool.false_ne_true, if_neg (by omega)]

theorem head?_tableFile (format : Format) :
    (format.tableFile table).toList.head? ≠ some '.' := by
  have hname := (isTableName_iff table).mp htable
  obtain ⟨c, rest, hchars⟩ := List.exists_cons_of_ne_nil hname.ne_nil
  have hdot : '.' ∉ table.toList := notMem_of_isTableName htable (by decide)
  rw [hchars, List.mem_cons, not_or] at hdot
  rw [toList_tableFile, hchars]
  simpa using Ne.symm hdot.1

theorem isTemporary_tableFile (format : Format) :
    TableFiles.isTemporary (format.tableFile table) = false := by
  rw [TableFiles.isTemporary, Bool.and_eq_false_iff, beq_eq_false_iff_ne]
  exact Or.inl (head?_tableFile htable format)

theorem tableFile_ne_lockFile (format : Format) : format.tableFile table ≠ lockFile := by
  intro hsame
  refine head?_tableFile htable format ?_
  rw [hsame]
  decide

end TableName

theorem isTemporary_temporaryFile (table : String) (tag : Nat) :
    TableFiles.isTemporary (temporaryFile table tag) = true := by
  have hsuffix : temporarySuffix.toList <:+ (temporaryFile table tag).toList := by
    rw [toList_temporaryFile]
    exact ⟨'.' :: (table.toList ++ '.' :: Nat.toDigits 10 tag), by simp⟩
  rw [TableFiles.isTemporary, Bool.and_eq_true, List.isSuffixOf_iff_suffix]
  exact ⟨by rw [toList_temporaryFile]; rfl, hsuffix⟩

theorem ne_of_isTemporary {file other : String} (hfile : TableFiles.isTemporary file = true)
    (hother : TableFiles.isTemporary other = false) : file ≠ other := by
  intro hsame
  rw [hsame, hother] at hfile
  cases hfile

theorem temporaryFile_ne_tableFile {other : String} (hother : isTableName other = true)
    (table : String) (tag : Nat) (format : Format) :
    temporaryFile table tag ≠ format.tableFile other :=
  ne_of_isTemporary (isTemporary_temporaryFile table tag) (isTemporary_tableFile hother format)

theorem isSimpleName_lockFile : IsSimpleName lockFile :=
  ⟨by decide, by decide, by decide, by decide⟩

theorem isTemporary_lockFile : TableFiles.isTemporary lockFile = false := by
  decide

theorem temporaryFile_ne_lockFile (table : String) (tag : Nat) :
    temporaryFile table tag ≠ lockFile :=
  ne_of_isTemporary (isTemporary_temporaryFile table tag) isTemporary_lockFile

theorem TableFiles.tableOf?_eq_some_iff (files : TableFiles) (file table : String) :
    files.tableOf? file = some table ↔
      file = files.format.tableFile table ∧ isTableName table = true := by
  have hending : s!".{files.format.extension}".toList = '.' :: files.format.extension.toList := by
    change ("." ++ files.format.extension).toList = _
    simp
  simp only [tableOf?, hending, Option.ite_none_right_eq_some, Bool.and_eq_true,
    List.isSuffixOf_iff_suffix, Option.some.injEq]
  constructor
  · rintro ⟨⟨⟨chars, hchars⟩, hname⟩, rfl⟩
    have htable : String.ofList (file.toList.take (file.toList.length -
        ('.' :: files.format.extension.toList).length)) = String.ofList chars := by
      rw [← hchars, List.length_append, Nat.add_sub_cancel, List.take_left]
    refine ⟨String.toList_injective ?_, hname⟩
    rw [toList_tableFile, htable, String.toList_ofList, hchars]
  · rintro ⟨rfl, hname⟩
    rw [toList_tableFile, List.length_append, Nat.add_sub_cancel, List.take_left,
      String.ofList_toList]
    exact ⟨⟨List.suffix_append _ _, hname⟩, rfl⟩

end DocumentStore
