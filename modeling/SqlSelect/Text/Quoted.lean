import SqlSelect.Text.Blank

/-!
String literals: a quote at each end, and every quote inside written twice. Main statement: the
body of a written literal reads as its value and ends at the last quote.
-/

set_option autoImplicit false
set_option relaxedAutoImplicit false

namespace SqlSelect.Text

def doubleQuotes (text : Text) : Text := text.flatMap fun c => if c = '\'' then ['\'', '\''] else [c]

def quoted (text : Text) : Text := '\'' :: doubleQuotes text ++ ['\'']

/-- Reads two quotes in a row as one and keeps a quote that stands alone. -/
def mergeQuotes : Text → Text
  | '\'' :: '\'' :: rest => '\'' :: mergeQuotes rest
  | [] => []
  | c :: rest => c :: mergeQuotes rest

/-- Reads the inside of a literal up to the quote that closes it; returns the value and the rest. -/
def readQuotedBody? : Text → Option (Text × Text)
  | '\'' :: '\'' :: rest => (readQuotedBody? rest).map fun (value, after) => ('\'' :: value, after)
  | [] => none
  | c :: rest =>
    if c = '\'' then some ([], rest)
    else (readQuotedBody? rest).map fun (value, after) => (c :: value, after)

/-- Reads a literal at the front of a text; returns its value and the text behind it. -/
def readQuoted? : Text → Option (Text × Text)
  | [] => none
  | c :: rest => if c = '\'' then readQuotedBody? rest else none

theorem doubleQuotes_cons (c : Char) (text : Text) :
    doubleQuotes (c :: text) = (if c = '\'' then ['\'', '\''] else [c]) ++ doubleQuotes text := by
  simp [doubleQuotes]

/-- A literal ends at the quote that stands behind its body, unless one more quote follows. -/
theorem readQuotedBody?_doubleQuotes {rest : Text} (h : rest.head? ≠ some '\'') (text : Text) :
    readQuotedBody? (doubleQuotes text ++ '\'' :: rest) = some (text, rest) := by
  induction text with
  | nil =>
    cases rest with
    | nil => rfl
    | cons d rest =>
      have hd : d ≠ '\'' := by simpa using h
      simp [doubleQuotes, readQuotedBody?, hd]
  | cons c text ih =>
    rw [doubleQuotes_cons]
    by_cases hc : c = '\''
    · subst hc
      simp [readQuotedBody?, ih]
    · simp [readQuotedBody?, hc, ih]

theorem mergeQuotes_doubleQuotes (text : Text) : mergeQuotes (doubleQuotes text) = text := by
  induction text with
  | nil => rfl
  | cons c rest ih =>
    by_cases h : c = '\''
    · subst h; simpa [doubleQuotes, mergeQuotes] using ih
    · simpa [doubleQuotes, mergeQuotes, h] using ih

end SqlSelect.Text
