import SqlSelect.Text.Blank

/-!
Names of parameters begin with `@`. Main statement: the normal form of a name is its own normal
form.
-/

set_option autoImplicit false
set_option relaxedAutoImplicit false

namespace SqlSelect

def atName : Text → Text
  | '@' :: rest => '@' :: rest
  | name => '@' :: name

/-- The form of a name that parameters are kept under: trimmed, and with `@` in front. -/
def normalName (name : Text) : Text := atName (Text.trim name)

theorem head?_atName (name : Text) : (atName name).head? = some '@' := by
  unfold atName
  split <;> rfl

theorem atName_of_head? {name : Text} (h : name.head? = some '@') : atName name = name := by
  cases name with
  | nil => simp at h
  | cons c rest =>
    simp only [List.head?_cons, Option.some.injEq] at h
    subst h
    rfl

theorem atName_atName (name : Text) : atName (atName name) = atName name :=
  atName_of_head? (head?_atName name)

end SqlSelect
