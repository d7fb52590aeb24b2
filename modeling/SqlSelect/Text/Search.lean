import SqlSelect.Text.Case

/-!
Cutting a text at the first place where something stands: a pattern in any case, a word between
two spaces, a character. Each cut returns the text before and the text after what was found.
-/

set_option autoImplicit false
set_option relaxedAutoImplicit false

namespace SqlSelect.Text

def startsWith (pattern text : Text) : Bool := sameLetters pattern (text.take pattern.length)

/-- The texts before and after the first place where `pattern` stands in any case. -/
def cut? (pattern : Text) : Text → Option (Text × Text)
  | [] => if pattern.isEmpty then some ([], []) else none
  | c :: rest =>
    if startsWith pattern (c :: rest) then some ([], (c :: rest).drop pattern.length)
    else (cut? pattern rest).map fun (before, after) => (c :: before, after)

/-- Cuts at the first place where `word` stands between two spaces. Only U+0020 counts there. -/
def cutWord? (word text : Text) : Option (Text × Text) := cut? (' ' :: word ++ [' ']) text

def cutAt? (mark : Char) : Text → Option (Text × Text)
  | [] => none
  | c :: rest =>
    if c = mark then some ([], rest)
    else (cutAt? mark rest).map fun (before, after) => (c :: before, after)

def cutLast? (p : Char → Bool) : Text → Option (Text × Text)
  | [] => none
  | c :: rest =>
    match cutLast? p rest with
    | some (before, after) => some (c :: before, after)
    | none => if p c then some ([], rest) else none

def inside? (opening closing : Char) : Text → Option Text
  | [] => none
  | c :: rest => if c = opening ∧ rest.getLast? = some closing then some rest.dropLast else none

def dropLeading (mark : Char) (text : Text) : Text := text.dropWhile (· == mark)

def dropTrailing (mark : Char) (text : Text) : Text :=
  (text.reverse.dropWhile (· == mark)).reverse

end SqlSelect.Text
