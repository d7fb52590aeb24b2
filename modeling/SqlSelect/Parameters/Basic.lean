import SqlSelect.Parameters.Name
import SqlSelect.Value.Basic

/-!
Named parameters in the order in which their names were first set. Every name is in normal form.
-/

set_option autoImplicit false
set_option relaxedAutoImplicit false

namespace SqlSelect

structure Parameters where
  entries : List (Text × Value) := []
deriving DecidableEq

namespace Parameters

/-- Replaces the value of a name where it stands, or adds the name at the end. -/
def putEntry (name : Text) (value : Value) : List (Text × Value) → List (Text × Value)
  | [] => [(name, value)]
  | (present, old) :: rest =>
    if present = name then (present, value) :: rest else (present, old) :: putEntry name value rest

def insert (parameters : Parameters) (name : Text) (value : Value) : Parameters :=
  ⟨putEntry (normalName name) value parameters.entries⟩

def positional (values : List Value) : Parameters :=
  ⟨values.mapIdx fun index value => ('@' :: Text.ofNat index, value)⟩

def get? (parameters : Parameters) (name : Text) : Option Value :=
  parameters.entries.lookup (normalName name)

def size (parameters : Parameters) : Nat := parameters.entries.length

def isEmpty (parameters : Parameters) : Bool := parameters.entries.isEmpty

def names (parameters : Parameters) : List Text := parameters.entries.map Prod.fst

end Parameters

end SqlSelect
