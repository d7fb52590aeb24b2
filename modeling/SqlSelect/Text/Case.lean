import SqlSelect.Text.Blank

/-!
Keywords are compared without regard to the case of ASCII letters; every other character stands
only for itself.
-/

set_option autoImplicit false
set_option relaxedAutoImplicit false

namespace SqlSelect.Text

/-- Maps the ASCII capitals to small letters and keeps all other characters. -/
def foldCase (text : Text) : Text := text.map Char.toLower

/-- Whether two texts differ at most in the case of ASCII letters. -/
def sameLetters (left right : Text) : Bool := foldCase left == foldCase right

theorem sameLetters_refl (text : Text) : sameLetters text text = true := by simp [sameLetters]

theorem sameLetters_comm (left right : Text) : sameLetters left right = sameLetters right left := by
  simp [sameLetters, Bool.beq_comm]

theorem length_foldCase (text : Text) : (foldCase text).length = text.length := by simp [foldCase]

theorem length_eq_of_sameLetters {left right : Text} (h : sameLetters left right = true) :
    left.length = right.length := by
  have := congrArg List.length (beq_iff_eq.1 h)
  simpa [length_foldCase] using this

end SqlSelect.Text
