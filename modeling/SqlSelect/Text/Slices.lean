import SqlSelect.Text.Bytes
import SqlSelect.Text.Nesting

/-!
Scans that keep offsets aside and copy slices of the text: writing a literal, and cutting at a
separator outside parentheses. A scan has no result where it would cut a character in two.
-/

set_option autoImplicit false
set_option relaxedAutoImplicit false

namespace SqlSelect.Text

/-- The slice between two offsets, unless they are one. -/
def filledSlice? (start stop : Nat) (text : Text) : Option (List Text) :=
  if stop = start then some [] else (slice? start stop text).map ([·])

/-- What is written for the rest of `value`, which begins at `offset` and of which all in front of
`copied` is written already. -/
def doubledPieces? (value : Text) (copied offset : Nat) : Text → Option (List Text)
  | [] =>
    if copied < byteLength value then (slice? copied (byteLength value) value).map ([·])
    else some []
  | c :: rest =>
    if c = '\'' then do
      let front ← filledSlice? copied offset value
      let back ← doubledPieces? value (offset + c.utf8Size) (offset + c.utf8Size) rest
      return front ++ ['\'', '\''] :: back
    else doubledPieces? value copied (offset + c.utf8Size) rest

/-- The pieces in which a literal is written: quotes, and slices of the value between them. -/
def quotedPieces? (value : Text) : Option (List Text) :=
  (doubledPieces? value 0 0 value).map fun pieces => ['\''] :: pieces ++ [['\'']]

/-- The slices of `text` from `start` on, when its rest begins at `offset` and at `depth`. -/
def slicesFrom? (separator : Char) (text : Text) (depth : Int) (start offset : Nat) :
    Text → Option (List Text)
  | [] => (slice? start (byteLength text) text).map ([·])
  | c :: rest =>
    let next := offset + c.utf8Size
    if c = '(' then slicesFrom? separator text (depth + 1) start next rest
    else if c = ')' then slicesFrom? separator text (depth - 1) start next rest
    else if c = separator ∧ depth = 0 then do
      let piece ← slice? start offset text
      let pieces ← slicesFrom? separator text depth next next rest
      return piece :: pieces
    else slicesFrom? separator text depth start next rest

def sliceTopLevel? (separator : Char) (text : Text) : Option (List Text) :=
  slicesFrom? separator text 0 0 0 text

end SqlSelect.Text
