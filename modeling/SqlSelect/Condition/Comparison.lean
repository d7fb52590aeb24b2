import SqlSelect.Parameters.Name
import SqlSelect.Query.Parser

/-!
Comparisons: made from a value or from the name of a parameter, or read from three words.
-/

set_option autoImplicit false
set_option relaxedAutoImplicit false

namespace SqlSelect

namespace Comparison

/-- Compares a field with a value. A null leaves no value. -/
def ofValue (field : Field) (comparator : Comparator) (value : Value) : Comparison :=
  match value.plain? with
  | some (text, quoted) => { field, comparator := some comparator, value := some text, quoted }
  | none => { field, comparator := some comparator, value := none }

def ofParameter (field : Field) (comparator : Comparator) (name : Text) : Comparison :=
  { field, comparator := some comparator, value := some (atName name), parameter := true }

/-- The text of a read value: truth values become digits, and quotes go. -/
def readValue (word : Text) : Text :=
  if Text.sameLetters word "true".toList then ['1']
  else if Text.sameLetters word "false".toList then ['0']
  else word.filter (· ≠ '\'')

/-- Reads `field comparator value`. An unknown comparator is left out. -/
def parse? (text : Text) : Option Comparison :=
  match Text.words text with
  | [field, comparator, value] =>
    some (if value.head? = some '@' then
      { field := Field.parse field
        comparator := Comparator.ofWord? comparator
        value := some value
        parameter := true }
    else
      { field := Field.parse field
        comparator := Comparator.ofWord? comparator
        value := some (readValue value)
        quoted := value.contains '\'' })
  | _ => none

end Comparison

def Condition.parse (text : Text) : Condition :=
  match Comparison.parse? text with
  | some test => .comparison test
  | none => .raw (Text.trim text)

end SqlSelect
