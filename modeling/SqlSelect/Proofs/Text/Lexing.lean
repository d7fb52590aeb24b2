import SqlSelect.Text.Quoted
import SqlSelect.Proofs.Text.Joining
import Mathlib.Data.List.Forall2

/-!
A statement as the database reads it: characters, and literals between them. A quote opens a
literal, two quotes inside it are one quote, and a quote that stands alone closes it.
-/

set_option autoImplicit false
set_option relaxedAutoImplicit false

namespace SqlSelect

/-- A character outside literals, or a literal with its value. -/
inductive Lexeme where
  | plain (c : Char)
  | literal (value : Text)
deriving DecidableEq

namespace Lexeme

/-- The character outside literals; a literal leaves a gap, whatever its value. -/
def plain? : Lexeme → Option Char
  | .plain c => some c
  | .literal _ => none

def literal? : Lexeme → Option Text
  | .plain _ => none
  | .literal value => some value

end Lexeme

namespace Text

private theorem length_lt_of_readQuotedBody? {text value rest : Text}
    (h : readQuotedBody? text = some (value, rest)) : rest.length < text.length := by
  fun_induction readQuotedBody? text generalizing value with
  | case1 text ih =>
    obtain ⟨⟨inner, after⟩, hread, heq⟩ := Option.map_eq_some_iff.1 h
    obtain ⟨-, rfl⟩ := Prod.mk.inj heq
    have hlt := ih hread
    simp only [List.length_cons]
    omega
  | case2 => simp at h
  | case3 text =>
    obtain ⟨-, rfl⟩ := Prod.mk.inj (Option.some.inj h)
    simp
  | case4 c text _ _ ih =>
    obtain ⟨⟨inner, after⟩, hread, heq⟩ := Option.map_eq_some_iff.1 h
    obtain ⟨-, rfl⟩ := Prod.mk.inj heq
    have hlt := ih hread
    simp only [List.length_cons]
    omega

/-- Reads a text as characters and literals; a literal that is not closed is an error. -/
def lexemes? : Text → Option (List Lexeme)
  | [] => some []
  | c :: rest =>
    if c = '\'' then
      match _hread : readQuotedBody? rest with
      | none => none
      | some (value, after) => (lexemes? after).map (.literal value :: ·)
    else (lexemes? rest).map (.plain c :: ·)
termination_by text => text.length
decreasing_by
  · have hlt := length_lt_of_readQuotedBody? _hread
    simp only [List.length_cons]
    omega
  · simp

/-- The text is read as the given lexemes, in front of anything that does not begin with a quote.
Such a quote would go on with a literal at the end of the text. -/
def ReadsAs (text : Text) (lexemes : List Lexeme) : Prop :=
  ∀ rest : Text, rest.head? ≠ some '\'' →
    lexemes? (text ++ rest) = (lexemes? rest).map (lexemes ++ ·)

theorem ReadsAs.lexemes?_eq {text : Text} {lexemes : List Lexeme} (h : ReadsAs text lexemes) :
    lexemes? text = some lexemes := by
  have hend := h [] (by simp)
  rwa [List.append_nil, lexemes?, Option.map_some, List.append_nil] at hend

private theorem lexemes?_plain_append {text : Text} (h : '\'' ∉ text) (rest : Text) :
    lexemes? (text ++ rest) = (lexemes? rest).map (text.map .plain ++ ·) := by
  induction text with
  | nil => simp
  | cons c text ih =>
    obtain ⟨hc, htext⟩ := not_or.1 (mt List.mem_cons.2 h)
    rw [List.cons_append, lexemes?, if_neg (Ne.symm hc), ih htext, Option.map_map]
    rfl

theorem readsAs_plain {text : Text} (h : '\'' ∉ text) : ReadsAs text (text.map .plain) :=
  fun rest _ => lexemes?_plain_append h rest

theorem readsAs_quoted (value : Text) : ReadsAs (quoted value) [.literal value] := by
  intro rest hrest
  rw [quoted, List.cons_append, List.cons_append, List.append_assoc, List.singleton_append,
    lexemes?, if_pos rfl]
  split
  · next hnone => simp [readQuotedBody?_doubleQuotes hrest] at hnone
  · next inner after hsome =>
    rw [readQuotedBody?_doubleQuotes hrest] at hsome
    obtain ⟨rfl, rfl⟩ := Prod.mk.inj (Option.some.inj hsome)
    rfl

/-- What is read first may end in a literal, so the second text must not begin with a quote. -/
theorem ReadsAs.append {left right : Text} {first second : List Lexeme} (hleft : ReadsAs left first)
    (hright : ReadsAs right second) (hhead : right.head? ≠ some '\'') :
    ReadsAs (left ++ right) (first ++ second) := by
  intro rest hrest
  have hnext : (right ++ rest).head? ≠ some '\'' := by
    cases right with
    | nil => exact hrest
    | cons c right => simpa using hhead
  rw [List.append_assoc, hleft _ hnext, hright rest hrest, Option.map_map]
  congr 1
  funext lexemes
  rw [Function.comp_apply, List.append_assoc]

theorem ReadsAs.plain_append {left right : Text} {lexemes : List Lexeme} (hleft : '\'' ∉ left)
    (hright : ReadsAs right lexemes) : ReadsAs (left ++ right) (left.map .plain ++ lexemes) := by
  intro rest hrest
  rw [List.append_assoc, lexemes?_plain_append hleft, hright rest hrest, Option.map_map]
  congr 1
  funext more
  rw [Function.comp_apply, List.append_assoc]

end Text

end SqlSelect
