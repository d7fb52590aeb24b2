import SqlSelect.Text.Blank

/-!
Line comments run from `--` to the end of the line, and only a line feed ends a line.
-/

set_option autoImplicit false
set_option relaxedAutoImplicit false

namespace SqlSelect.Text

/-- The part of a line before its first `--`. -/
def beforeComment : Text → Text
  | '-' :: '-' :: _ => []
  | [] => []
  | c :: rest => c :: beforeComment rest

/-- The text with its comments removed and a space in place of each line feed. -/
def withoutComments (text : Text) : Text := unwords ((text.splitOn '\n').map beforeComment)

end SqlSelect.Text
