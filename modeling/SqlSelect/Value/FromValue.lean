import SqlSelect.Value.Basic

/-!
Types that a result cell can be read as. Each says in words what it expects; an optional type
takes a null as well.
-/

set_option autoImplicit false
set_option relaxedAutoImplicit false

namespace SqlSelect

/-- Reading a cell as an element of `α`. -/
class FromValue (α : Type) where
  /-- What the type expects, for messages. -/
  expected : Text
  /-- The content of a cell, unless it is of another kind. -/
  read? : Value → Option α

instance : FromValue Value := ⟨"any value".toList, some⟩

instance : FromValue Int64 := ⟨"an integer".toList, Value.int64?⟩

instance : FromValue Int32 := ⟨"a 32 bit integer".toList, Value.int32?⟩

instance : FromValue Floating := ⟨"a float".toList, Value.double?⟩

instance : FromValue Bool := ⟨"a boolean".toList, Value.bool?⟩

instance : FromValue Text := ⟨"a string".toList, Value.text?⟩

instance {α : Type} [FromValue α] : FromValue (Option α) :=
  ⟨FromValue.expected α, fun value =>
    if value.isNull then some none else (FromValue.read? value).map some⟩

end SqlSelect
