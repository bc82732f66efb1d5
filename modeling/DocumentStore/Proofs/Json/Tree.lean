import DocumentStore.Proofs.Json.Number
import DocumentStore.Proofs.Json.Visitor

/-!
# Both ways from JSON to values agree

The reader of values, the kinds of values tried one after the other on what has been read, and the
conversion of a literal are three visitors of the same text, or what is made of them.  They give the
same value, or none, as they agree on numbers and on the names that a map repeats.
-/

namespace DocumentStore

namespace Json

/-! ## The three visitors -/

/-- What the reader of values makes of the parts of a text. -/
def valueVisitor : Visitor Value where
  null := .null
  boolean := .boolean
  number := Value.ofNumber
  text := .text
  list := .list
  map fields := .map (Keyed.ofList fields)

theorem readScalar_eq_visitScalar (input : Bytes) :
    readScalar input = visitScalar valueVisitor input := by
  rw [readScalar_eq, visitScalar_eq]
  congr 1
  funext input
  cases readNumeral input with
  | none => rfl
  | some read =>
      simp only [Option.bind_some, ← map_toNumber?]
      cases read.1.toNumber? <;> rfl

theorem readValue_eq_visitValue (depth : Nat) :
    readValue depth = visitValue valueVisitor depth := by
  induction depth with
  | zero =>
      funext input
      exact readScalar_eq_visitScalar input
  | succ depth ih =>
      have hscalar : readScalar = visitScalar valueVisitor := funext readScalar_eq_visitScalar
      rw [readValue_succ, visitValue_succ, ih, hscalar]
      rfl

theorem read?_eq_visit? (depth : Nat) (input : Bytes) :
    read? depth input = visit? valueVisitor depth input := by
  rw [read?, visit?, readValue_eq_visitValue]

section Fold

variable {α : Type}

mutual
/-- What a visitor makes of content that has been read before. -/
def Visitor.fold (visitor : Visitor α) : Content → α
  | .null => visitor.null
  | .boolean truth => visitor.boolean truth
  | .number found => visitor.number found
  | .text s => visitor.text s
  | .list items => visitor.list (visitor.foldAll items)
  | .map fields => visitor.map (visitor.foldFields fields)

def Visitor.foldAll (visitor : Visitor α) : List Content → List α
  | [] => []
  | item :: rest => visitor.fold item :: visitor.foldAll rest

def Visitor.foldFields (visitor : Visitor α) : List (String × Content) → List (String × α)
  | [] => []
  | (name, item) :: rest => (name, visitor.fold item) :: visitor.foldFields rest
end

theorem foldAll_eq_map (visitor : Visitor α) (items : List Content) :
    visitor.foldAll items = items.map visitor.fold := by
  induction items with
  | nil => rw [Visitor.foldAll, List.map_nil]
  | cons item rest ih => rw [Visitor.foldAll, ih, List.map_cons]

theorem foldFields_eq_mapItems (visitor : Visitor α) (fields : List (String × Content)) :
    visitor.foldFields fields = Keyed.mapItems visitor.fold fields := by
  induction fields with
  | nil => rw [Visitor.foldFields, Keyed.mapItems, List.map_nil]
  | cons field rest ih => rw [Visitor.foldFields, ih, Keyed.mapItems, Keyed.mapItems, List.map_cons]

theorem hom_fold (visitor : Visitor α) : Content.visitor.Hom visitor visitor.fold where
  null := by rw [Content.visitor, Visitor.fold]
  boolean truth := by rw [Content.visitor, Visitor.fold]
  number found := by rw [Content.visitor, Visitor.fold]
  text s := by rw [Content.visitor, Visitor.fold]
  list items := by rw [Content.visitor, Visitor.fold, foldAll_eq_map]
  map fields := by rw [Content.visitor, Visitor.fold, foldFields_eq_mapItems]

end Fold

/-! ## Kinds tried one after the other -/

theorem scalar?_number (found : Number) :
    (Content.number found).scalar? = some (Value.ofNumber found) := by
  cases found with
  | unsigned n =>
      simp only [Content.scalar?, Content.integer?, Content.double?, Value.ofNumber,
        Number.integer?]
      by_cases hfits : n.toNat < 0x8000000000000000
      · simp only [if_pos hfits]
        rfl
      · simp only [if_neg hfits]
        rfl
  | negative n => rfl
  | real x => rfl

mutual
/-- Some kind can always be found, and it is the one that the reader of values gives. -/
theorem ofContent?_eq_fold : ∀ content : Content,
    Value.ofContent? content = some (valueVisitor.fold content)
  | .null => by
      simp only [Value.ofContent?, Visitor.fold]
      rfl
  | .boolean truth => by
      simp only [Value.ofContent?, Visitor.fold]
      rfl
  | .number found => by
      simp only [Value.ofContent?, Visitor.fold, scalar?_number]
      rfl
  | .text s => by
      simp only [Value.ofContent?, Visitor.fold]
      rfl
  | .list items => by
      rw [Value.ofContent?, Visitor.fold, ofContents?_eq_foldAll items]
      rfl
  | .map fields => by
      rw [Value.ofContent?, Visitor.fold, ofContentFields?_eq_foldFields fields]
      rfl

theorem ofContents?_eq_foldAll : ∀ items : List Content,
    Value.ofContents? items = some (valueVisitor.foldAll items)
  | [] => by rw [Value.ofContents?, Visitor.foldAll]
  | item :: rest => by
      rw [Value.ofContents?, ofContent?_eq_fold item, ofContents?_eq_foldAll rest,
        Visitor.foldAll]
      rfl

theorem ofContentFields?_eq_foldFields : ∀ fields : List (String × Content),
    Value.ofContentFields? fields = some (valueVisitor.foldFields fields)
  | [] => by rw [Value.ofContentFields?, Visitor.foldFields]
  | (name, item) :: rest => by
      rw [Value.ofContentFields?, ofContent?_eq_fold item, ofContentFields?_eq_foldFields rest,
        Visitor.foldFields]
      rfl
end

/-! ## Literals -/

theorem ofTrees_eq_map (items : List Tree) : Value.ofTrees items = items.map Value.ofTree := by
  induction items with
  | nil => rw [Value.ofTrees, List.map_nil]
  | cons item rest ih => rw [Value.ofTrees, ih, List.map_cons]

theorem ofTreeFields_eq_mapItems (fields : List (String × Tree)) :
    Value.ofTreeFields fields = Keyed.mapItems Value.ofTree fields := by
  induction fields with
  | nil => rw [Value.ofTreeFields, Keyed.mapItems, List.map_nil]
  | cons field rest ih => rw [Value.ofTreeFields, ih, Keyed.mapItems, Keyed.mapItems, List.map_cons]

theorem hom_ofTree : Tree.visitor.Hom valueVisitor Value.ofTree where
  null := by rw [Tree.visitor, Value.ofTree, valueVisitor]
  boolean truth := by rw [Tree.visitor, Value.ofTree, valueVisitor]
  number found := by rw [Tree.visitor, Value.ofTree, valueVisitor]
  text s := by rw [Tree.visitor, Value.ofTree, valueVisitor]
  list items := by rw [Tree.visitor, Value.ofTree, valueVisitor, ofTrees_eq_map]
  map fields := by
    simp only [Tree.visitor, Value.ofTree, valueVisitor, ofTreeFields_eq_mapItems,
      Keyed.ofList_mapItems]

end Json

/-! ## From values to literals and back -/

namespace Value

open Json (Number)

mutual
/-- The value with `null` in place of each double that is not finite. -/
def nulled : Value → Value
  | .float x => if x.isFinite then .float x else .null
  | .list items => .list (allNulled items)
  | .map fields => .map (fieldsNulled fields)
  | value => value

def allNulled : List Value → List Value
  | [] => []
  | item :: rest => nulled item :: allNulled rest

def fieldsNulled : List (String × Value) → List (String × Value)
  | [] => []
  | (name, item) :: rest => (name, nulled item) :: fieldsNulled rest
end

theorem ofTree_toTree_float (x : Double) :
    ofTree (toTree (.float x)) = if x.isFinite then .float x else .null := by
  rw [toTree, Number.ofDouble?]
  split_ifs with hfinite
  · rw [Option.map_some, Option.getD_some, ofTree]
    rfl
  · rw [Option.map_none, Option.getD_none, ofTree]

mutual
/-- The tree of a value gives the value back, with `null` in place of doubles that are not finite. -/
theorem ofTree_toTree : ∀ value : Value, ofTree (toTree value) = nulled value
  | .null => by simp only [toTree, ofTree, nulled]
  | .boolean truth => by simp only [toTree, ofTree, nulled]
  | .integer n => by simp only [toTree, ofTree, nulled, Json.ofNumber_ofInteger]
  | .float x => by rw [ofTree_toTree_float, nulled]
  | .text s => by simp only [toTree, ofTree, nulled]
  | .list items => by rw [toTree, ofTree, nulled, ofTrees_toTrees items]
  | .map fields => by rw [toTree, ofTree, nulled, ofTreeFields_toTreeFields fields]

theorem ofTrees_toTrees : ∀ items : List Value, ofTrees (toTrees items) = allNulled items
  | [] => by rw [toTrees, ofTrees, allNulled]
  | item :: rest => by rw [toTrees, ofTrees, allNulled, ofTree_toTree item, ofTrees_toTrees rest]

theorem ofTreeFields_toTreeFields : ∀ fields : List (String × Value),
    ofTreeFields (toTreeFields fields) = fieldsNulled fields
  | [] => by rw [toTreeFields, ofTreeFields, fieldsNulled]
  | (name, item) :: rest => by
      rw [toTreeFields, ofTreeFields, fieldsNulled, ofTree_toTree item,
        ofTreeFields_toTreeFields rest]
end

end Value

namespace Json

/-- A text is read as the same value, or refused, in both ways: when the kinds of values are tried
on what has been read, and when it is converted as a literal.  What becomes of a number follows from
its numeral alone.  The way back to a literal keeps everything but doubles that are not finite. -/
theorem literals_and_texts_give_same_values :
    (∀ (depth : Nat) (input : Bytes),
      (Content.read? depth input).bind Value.ofContent? = read? depth input ∧
        (Tree.read? depth input).map Value.ofTree = read? depth input) ∧
      (∀ numeral : Numeral,
        let converted := numeral.toNumber?.map Value.ofNumber
        let x := numeral.decimal.toDouble numeral.negative
        (numeral.toNumber?.bind fun found => Value.ofContent? (.number found)) = converted ∧
          (numeral.IsInteger → converted = some (.integer (Int64.ofInt numeral.shown))) ∧
          (¬ numeral.IsInteger → converted = if x.isFinite then some (.float x) else none)) ∧
      ∀ value : Value, Value.ofTree value.toTree = value.nulled := by
  refine ⟨?_, ?_, Value.ofTree_toTree⟩
  · intro depth input
    have hcontent := visit?_hom (hom_fold valueVisitor) depth input
    have htree := visit?_hom hom_ofTree depth input
    rw [read?_eq_visit?]
    constructor
    · have hkinds : Value.ofContent? = fun content => some (valueVisitor.fold content) :=
        funext ofContent?_eq_fold
      rw [hcontent, hkinds, Content.read?, Option.map_eq_bind]
      rfl
    · rw [htree, Tree.read?]
  · intro numeral converted x
    have hconverted : converted = numeral.toValue? := map_toNumber? numeral
    refine ⟨?_, ?_, ?_⟩
    · have hkinds : (fun found => Value.ofContent? (.number found)) =
          fun found => some (Value.ofNumber found) := by
        funext found
        rw [ofContent?_eq_fold, Visitor.fold]
        rfl
      rw [hkinds]
      exact Option.map_eq_bind.symm
    · intro hinteger
      rw [hconverted, toValue?_of_isInteger hinteger]
    · intro hinteger
      rw [hconverted, toValue?_of_not_isInteger hinteger]

/-- A map with one name twice, first with `1` and then with the list of minus zero. -/
private def repeatedName : Bytes :=
  [0x7b, 0x22, 0x61, 0x22, 0x3a, 0x31, 0x2c, 0x22, 0x61, 0x22, 0x3a, 0x5b, 0x2d, 0x30, 0x5d, 0x7d]

private def minusZero : Numeral :=
  ⟨true, [0x30], none, none⟩

theorem literals_and_texts_give_same_values_repeated :
    (Tree.read? 2 repeatedName).map Value.ofTree =
        some (.map [("a", .list [.float (Double.ofParts true 0)])]) ∧
      minusZero.toNumber?.map Value.ofNumber = some (.float (Double.ofParts true 0)) ∧
      Value.ofTree (Value.list [.float (Double.ofParts false Double.infinite), .integer 1]).toTree =
        .list [.null, .integer 1] := by
  obtain ⟨hread, hnumeral, hback⟩ := literals_and_texts_give_same_values
  obtain ⟨-, -, hdouble⟩ := hnumeral minusZero
  have hzero : ¬ minusZero.IsInteger := fun hinteger => hinteger.2.2.1 ⟨rfl, rfl⟩
  refine ⟨?_, ?_, ?_⟩
  · rw [(hread 2 repeatedName).2]
    with_unfolding_all rfl
  · rw [hdouble hzero]
    with_unfolding_all rfl
  · rw [hback]
    with_unfolding_all rfl

end Json

end DocumentStore
