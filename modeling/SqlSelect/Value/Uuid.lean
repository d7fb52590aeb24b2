import SqlSelect.Text.Search

/-!
Universally unique identifiers: 32 hexadecimal digits, written in small letters and in groups of
8, 4, 4, 4 and 12.
-/

set_option autoImplicit false
set_option relaxedAutoImplicit false

namespace SqlSelect

/-- The 32 digits of an identifier, in small letters. -/
structure Uuid where
  digits : Text
  length_digits : digits.length = 32
deriving DecidableEq

namespace Uuid

def isHexDigit (c : Char) : Bool :=
  c.isDigit || ('a' ≤ c && c ≤ 'f') || ('A' ≤ c && c ≤ 'F')

def grouped (digits : Text) : Text :=
  digits.take 8 ++ '-' :: (digits.drop 8).take 4 ++ '-' :: (digits.drop 12).take 4 ++
    '-' :: (digits.drop 16).take 4 ++ '-' :: digits.drop 20

def read? (text : Text) : Option Uuid :=
  let urn := "urn:uuid:".toList
  let body := ((if urn.isPrefixOf text then some (text.drop urn.length)
    else Text.inside? '{' '}' text).getD text)
  let digits := body.filter (· ≠ '-')
  if h : digits.length = 32 ∧ digits.all isHexDigit = true ∧
      (body = digits ∨ body = grouped digits) then
    some ⟨Text.foldCase digits, (Text.length_foldCase digits).trans h.1⟩
  else none

def text (uuid : Uuid) : Text := grouped uuid.digits

end Uuid

end SqlSelect
