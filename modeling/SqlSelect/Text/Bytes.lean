import SqlSelect.Text.Case

/-!
Texts as their bytes in UTF-8. An offset is a number of bytes, and a text is cut at an offset only
where no character has bytes on both sides. Keywords are searched for in the bytes.
-/

set_option autoImplicit false
set_option relaxedAutoImplicit false

namespace SqlSelect.Text

def bytes (text : Text) : List UInt8 := text.flatMap String.utf8EncodeChar

def byteLength (text : Text) : Nat := (bytes text).length

/-- The texts in front of an offset and behind it, unless it is inside a character or too far. -/
def splitAtByte? : Nat → Text → Option (Text × Text)
  | 0, text => some ([], text)
  | _ + 1, [] => none
  | offset + 1, c :: rest =>
    if c.utf8Size ≤ offset + 1 then
      (splitAtByte? (offset + 1 - c.utf8Size) rest).map fun (front, back) => (c :: front, back)
    else none

/-- The text between two offsets. -/
def slice? (start stop : Nat) (text : Text) : Option Text :=
  (splitAtByte? stop text).bind fun (front, _) => (splitAtByte? start front).map Prod.snd

/-- Whether an offset is that of a character or of the end of a text. -/
def IsBoundary (text : Text) (offset : Nat) : Prop := (splitAtByte? offset text).isSome = true

instance (text : Text) (offset : Nat) : Decidable (IsBoundary text offset) :=
  inferInstanceAs (Decidable ((splitAtByte? offset text).isSome = true))

/-- Maps the byte of an ASCII capital to that of the small letter and keeps all other bytes. -/
def foldByte (byte : UInt8) : UInt8 := if 65 ≤ byte ∧ byte ≤ 90 then byte + 32 else byte

def foldBytes (bytes : List UInt8) : List UInt8 := bytes.map foldByte

def sameLetterBytes (left right : List UInt8) : Bool := foldBytes left == foldBytes right

def windows (size : Nat) (bytes : List UInt8) : List (List UInt8) :=
  (List.range (bytes.length + 1 - size)).map fun offset => (bytes.drop offset).take size

/-- The first offset where `pattern` stands in any case. -/
def findPattern? (pattern text : Text) : Option Nat :=
  (windows (byteLength pattern) (bytes text)).findIdx? (sameLetterBytes · (bytes pattern))

/-- The first offset of a space in front of `word` in any case and a space behind it. -/
def findWord? (word text : Text) : Option Nat :=
  (windows (byteLength word + 2) (bytes text)).findIdx? fun window =>
    window.head? == some 32 && window.getLast? == some 32 &&
      sameLetterBytes window.tail.dropLast (bytes word)

theorem bytes_cons (c : Char) (text : Text) :
    bytes (c :: text) = String.utf8EncodeChar c ++ bytes text := List.flatMap_cons

theorem bytes_append (left right : Text) : bytes (left ++ right) = bytes left ++ bytes right :=
  List.flatMap_append

@[simp] theorem byteLength_nil : byteLength [] = 0 := rfl

@[simp] theorem byteLength_cons (c : Char) (text : Text) :
    byteLength (c :: text) = c.utf8Size + byteLength text := by
  rw [byteLength, bytes_cons, List.length_append, String.length_utf8EncodeChar, byteLength]

@[simp] theorem byteLength_append (left right : Text) :
    byteLength (left ++ right) = byteLength left + byteLength right := by
  rw [byteLength, bytes_append, List.length_append, byteLength, byteLength]

end SqlSelect.Text
