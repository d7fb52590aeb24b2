import SqlSelect.Text.Blank

/-!
Parentheses. The depth of a place is the number of `(` minus the number of `)` before it, which
may be negative; a separator counts only at depth zero.
-/

set_option autoImplicit false
set_option relaxedAutoImplicit false

namespace SqlSelect.Text

def charDepth (c : Char) : Int := if c = '(' then 1 else if c = ')' then -1 else 0

/-- The number of `(` minus the number of `)`. -/
def depth : Text → Int
  | [] => 0
  | c :: rest => charDepth c + depth rest

/-- The pieces between the copies of `separator` at depth zero, when the text starts at `depth`. -/
def splitFrom (separator : Char) (depth : Int) : Text → List Text
  | [] => [[]]
  | c :: rest =>
    if c = separator ∧ depth = 0 then [] :: splitFrom separator depth rest
    else (splitFrom separator (depth + charDepth c) rest).modifyHead (c :: ·)

/-- Cuts a text at every copy of `separator` outside parentheses. -/
def splitTopLevel (separator : Char) (text : Text) : List Text := splitFrom separator 0 text

/-- The entries of a comma separated list: trimmed, and without the blank ones. -/
def items (text : Text) : List Text :=
  ((splitTopLevel ',' text).map trim).filter (!·.isEmpty)

@[simp] theorem depth_nil : depth [] = 0 := rfl

@[simp] theorem depth_cons (c : Char) (text : Text) :
    depth (c :: text) = charDepth c + depth text := rfl

@[simp] theorem depth_append (left right : Text) :
    depth (left ++ right) = depth left + depth right := by
  induction left with
  | nil => simp
  | cons c rest ih => rw [List.cons_append, depth_cons, depth_cons, ih, Int.add_assoc]

end SqlSelect.Text
