import SqlSelect.Value.Basic

/-!
Bundles hold no element, one, or a list of them. Which of the three shapes holds the elements is
no part of the meaning: `Bundle.toList` is the view that every law is about.
-/

set_option autoImplicit false
set_option relaxedAutoImplicit false

namespace SqlSelect

/-- No element, one element, or a list. A list may be empty or hold one element too. -/
inductive Bundle (α : Type) where
  | none
  | one (element : α)
  | many (elements : List α)
deriving DecidableEq

namespace Bundle

variable {α : Type}

def toList : Bundle α → List α
  | .none => []
  | .one element => [element]
  | .many elements => elements

/-- A list of known length: no shape but the smallest is used. -/
def ofFixed : List α → Bundle α
  | [] => .none
  | [element] => .one element
  | elements => .many elements

def size : Bundle α → Nat
  | .none => 0
  | .one _ => 1
  | .many elements => elements.length

def isEmpty (bundle : Bundle α) : Bool := bundle.size == 0

def append : Bundle α → Bundle α → Bundle α
  | .none, right => right
  | left, .none => left
  | .one a, .one b => .many [a, b]
  | .one a, .many bs => .many (a :: bs)
  | .many as, .one b => .many (as ++ [b])
  | .many as, .many bs => .many (as ++ bs)

def push (bundle : Bundle α) (element : α) : Bundle α := bundle.append (.one element)

@[simp] theorem toList_append (left right : Bundle α) :
    (left.append right).toList = left.toList ++ right.toList := by
  cases left <;> cases right <;> simp [append, toList]

@[simp] theorem toList_push (bundle : Bundle α) (element : α) :
    (bundle.push element).toList = bundle.toList ++ [element] :=
  toList_append bundle (.one element)

theorem size_eq_length (bundle : Bundle α) : bundle.size = bundle.toList.length := by
  cases bundle <;> rfl

theorem isEmpty_toList (bundle : Bundle α) : bundle.toList.isEmpty = bundle.isEmpty := by
  rw [isEmpty, size_eq_length]
  cases bundle.toList <;> rfl

end Bundle

def Bundle.sql (values : Bundle Value) : Text := Text.joinWith [','] (values.toList.map Value.sql)

end SqlSelect
