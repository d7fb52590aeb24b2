import SqlSelect.Query.Stream
import SqlSelect.Text.Slices

/-!
Writing values piece by piece. A literal is written in slices of its content, and the values of a
bundle one after the other with a comma in front of each but the first.
-/

set_option autoImplicit false
set_option relaxedAutoImplicit false

namespace SqlSelect

namespace Writing

def pieces : List Text → Writing Unit
  | [] => pure ()
  | piece :: rest => do
    put piece
    pieces rest

/-- Writes the literal that stands for a text, and fails where a slice would cut a character in
two. -/
def literal (content : Text) : Writing Unit :=
  match Text.quotedPieces? content with
  | none => failure
  | some slices => pieces slices

end Writing

open Writing

def Value.write (value : Value) : Writing Unit :=
  match value.plain? with
  | none => put "NULL".toList
  | some (content, true) => literal content
  | some (content, false) => put content

def Value.writeEach (first : Bool) : List Value → Writing Unit
  | [] => pure ()
  | value :: rest => do
    separate [','] first
    value.write
    Value.writeEach false rest

def Bundle.write (values : Bundle Value) : Writing Unit := Value.writeEach true values.toList

end SqlSelect
