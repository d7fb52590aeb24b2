import SqlSelect.Query.Comparator
import SqlSelect.Text.Bytes

/-!
Keywords cut out of a text by their offsets. A text without the keyword is left alone; there is no
result at all where an offset would cut a character in two.
-/

set_option autoImplicit false
set_option relaxedAutoImplicit false

namespace SqlSelect

/-- The texts around a word of two letters that stands between two spaces. -/
def sliceWord? (word text : Text) : Option (Option (Text × Text)) :=
  match Text.findWord? word text with
  | none => some none
  | some offset => do
    let front ← Text.slice? 0 offset text
    let back ← Text.slice? (offset + 4) (Text.byteLength text) text
    return some (front, back)

def sliceKind? (kind : JoinKind) (front : Text) : Option (Option (JoinKind × Text)) :=
  match Text.findPattern? kind.sql front with
  | none => some none
  | some offset => do
    let before ← Text.slice? 0 offset front
    let after ← Text.slice? (offset + Text.byteLength kind.sql) (Text.byteLength front) front
    return some (kind, Text.trim (before ++ after))

/-- The kind of a join and the table it joins. A left outer join is looked for first. -/
def sliceJoinKind? (front : Text) : Option (Option (JoinKind × Text)) := do
  let outer ← sliceKind? .leftOuter front
  match outer with
  | some found => return some found
  | none => sliceKind? .inner front

/-- The last four bytes of a text, if they are characters of their own. -/
def lastFour? (text : Text) : Option Text :=
  if Text.byteLength text < 4 then none
  else Text.slice? (Text.byteLength text - 4) (Text.byteLength text) text

def sliceNegation? (front : Text) : Option (Text × Bool) :=
  let front := Text.trim front
  match lastFour? front with
  | none => some (front, false)
  | some tail =>
    if Text.sameLetterBytes (Text.bytes tail) (Text.bytes " not".toList) then
      (Text.slice? 0 (Text.byteLength front - 4) front).map (·, true)
    else some (front, false)

end SqlSelect
