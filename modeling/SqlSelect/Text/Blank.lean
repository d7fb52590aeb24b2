/-!
Texts, their blank characters, and the words between blanks. Every scanner of the library sees a
statement through `Text.words` or trims a piece of it with `Text.trim`.
-/

set_option autoImplicit false
set_option relaxedAutoImplicit false

namespace SqlSelect

/-- A text is the list of its characters, so a scan is a recursion on a list. -/
abbrev Text := List Char

/-- The code points that have the Unicode property `White_Space`. -/
def blankCodes : List Nat :=
  [0x09, 0x0A, 0x0B, 0x0C, 0x0D, 0x20, 0x85, 0xA0, 0x1680, 0x2000, 0x2001, 0x2002, 0x2003, 0x2004,
    0x2005, 0x2006, 0x2007, 0x2008, 0x2009, 0x200A, 0x2028, 0x2029, 0x202F, 0x205F, 0x3000]

/-- Whether a character separates words. -/
def isBlank (c : Char) : Bool := blankCodes.contains c.toNat

namespace Text

def trimStart (text : Text) : Text := text.dropWhile isBlank

def trimEnd (text : Text) : Text := (text.reverse.dropWhile isBlank).reverse

def trim (text : Text) : Text := trimEnd (trimStart text)

/-- The maximal runs of characters without a blank, in order. -/
def words (text : Text) : List Text := (text.splitOnP isBlank).filter (!·.isEmpty)

/-- The pieces one after the other with `separator` between neighbours. -/
def joinWith (separator : Text) (pieces : List Text) : Text := separator.intercalate pieces

def unwords (pieces : List Text) : Text := joinWith [' '] pieces

theorem words_nil : words [] = [] := by decide

theorem words_append_blank {c : Char} (h : isBlank c = true) (left right : Text) :
    words (left ++ c :: right) = words left ++ words right := by
  rw [words, List.splitOnP_append_cons left right h, List.filter_append, words, words]

theorem ne_nil_of_mem_words {word text : Text} (h : word ∈ words text) : word ≠ [] := by
  simp only [words, List.mem_filter] at h
  simpa using h.2

end Text

end SqlSelect
