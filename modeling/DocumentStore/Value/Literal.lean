import DocumentStore.Value.Basic

/-!
# Literals

`ToValue` turns numbers, texts, truth values and collections of the host language into values, so
that callers need not name the kinds.  Integers of at most 64 bits are integers and never doubles.
-/

namespace DocumentStore

class ToValue (α : Type) where
  toValue : α → Value

export ToValue (toValue)

instance : ToValue Value := ⟨id⟩

instance : ToValue Bool := ⟨.boolean⟩

instance : ToValue Int64 := ⟨.integer⟩

instance : ToValue Int32 := ⟨fun n => .integer n.toInt64⟩

instance : ToValue UInt32 := ⟨fun n => .integer (Int64.ofNat n.toNat)⟩

instance : ToValue Double := ⟨.float⟩

instance : ToValue String := ⟨.text⟩

instance {α : Type} [ToValue α] : ToValue (List α) :=
  ⟨fun items => .list (items.map toValue)⟩

/-- A missing value is `null`. -/
instance {α : Type} [ToValue α] : ToValue (Option α) :=
  ⟨fun item => (item.map toValue).getD .null⟩

instance : ToValue (Keyed Value) := ⟨.map⟩

end DocumentStore
