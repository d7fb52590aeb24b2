import SqlSelect.Query.Comparator
import SqlSelect.Text.Search
import SqlSelect.Proofs.Text.Cutting
import SqlSelect.Proofs.Text.Letters
import SqlSelect.Proofs.Text.Openings

/-!
A filter text as the database reads it: atoms with the words `AND` and `OR` between them, where
parentheses come first, then `AND`, then `OR`. Main statements: what a text with a connective
between its two halves is read as.
-/

set_option autoImplicit false
set_option relaxedAutoImplicit false

namespace SqlSelect.FilterText

def isConnective (connective : Connective) (word : Text) : Bool :=
  Text.sameLetters connective.sql word

def factors (alternative : List Text) : List Text :=
  (Text.splitWords (isConnective .and) 0 alternative).map Text.unwords

/-- The alternatives of a filter, which the word `OR` separates, each as its factors. -/
def alternatives (text : Text) : List (List Text) :=
  (Text.splitWords (isConnective .or) 0 (Text.words text)).map factors

/-- What stands in a factor that is one pair of parentheses. -/
def enclosed? (factor : Text) : Option Text :=
  (Text.inside? '(' ')' factor).filter (Text.closesFrom 0)

private theorem inside?_parentheses (inner : Text) :
    Text.inside? '(' ')' ('(' :: inner ++ [')']) = some inner :=
  Text.inside?_eq_some_iff.2 rfl

private theorem eq_parentheses_of_enclosed? {factor inner : Text}
    (h : enclosed? factor = some inner) :
    factor = '(' :: inner ++ [')'] :=
  Text.inside?_eq_some_iff.1 (Option.filter_eq_some_iff.1 h).1

private theorem count_le_of_mem_alternatives {text factor : Text} {alternative : List Text}
    (halternative : alternative ∈ alternatives text) (hfactor : factor ∈ alternative) :
    factor.count '(' ≤ text.count '(' := by
  obtain ⟨run, hrun, rfl⟩ := List.mem_map.1 halternative
  obtain ⟨piece, hpiece, rfl⟩ := List.mem_map.1 hfactor
  have hinner := (Text.sublist_of_mem_splitWords hpiece).trans (Text.sublist_of_mem_splitWords hrun)
  calc (Text.unwords piece).count '(' = piece.flatten.count '(' := Text.count_unwords piece
    _ ≤ (Text.words text).flatten.count '(' := Text.count_flatten_le_of_sublist hinner
    _ = text.count '(' := Text.count_flatten_words text

/-- The truth of a filter text, given the truth of its atoms. -/
def holds (truth : Text → Bool) (text : Text) : Bool :=
  (alternatives text).attach.any fun alternative =>
    alternative.val.attach.all fun factor =>
      match _hinner : enclosed? factor.val with
      | some inner => holds truth inner
      | none => truth factor.val
termination_by text.count '('
decreasing_by
  have hle := count_le_of_mem_alternatives alternative.property factor.property
  rw [eq_parentheses_of_enclosed? _hinner, List.cons_append, List.count_cons_self] at hle
  rw [List.count_append] at hle
  omega

def factorHolds (truth : Text → Bool) (factor : Text) : Bool :=
  match enclosed? factor with
  | some inner => holds truth inner
  | none => truth factor

def allHold (truth : Text → Bool) (alternative : List Text) : Bool :=
  alternative.all (factorHolds truth)

theorem holds_eq (truth : Text → Bool) (text : Text) :
    holds truth text = (alternatives text).any (allHold truth) := by
  have hfactor (factor : Text) : (match _hinner : enclosed? factor with
      | some inner => holds truth inner
      | none => truth factor) = factorHolds truth factor := by
    rw [factorHolds]
    cases enclosed? factor <;> rfl
  have halternative (alternative : List Text) :
      (alternative.attach.all fun factor => factorHolds truth factor.val) =
        allHold truth alternative := by
    rw [allHold, List.all_subtype fun factor _ => rfl, List.unattach_attach]
  rw [holds]
  simp only [hfactor, halternative]
  rw [List.any_subtype fun alternative _ => rfl, List.unattach_attach]

private theorem alternatives_congr {left right : Text} (h : Text.words left = Text.words right) :
    alternatives left = alternatives right := by rw [alternatives, alternatives, h]

private theorem holds_congr {left right : Text} (h : Text.words left = Text.words right)
    (truth : Text → Bool) : holds truth left = holds truth right := by
  rw [holds_eq, holds_eq, alternatives_congr h]

def joined (connective : Connective) (left right : Text) : Text :=
  left ++ ' ' :: connective.sql ++ ' ' :: right

private theorem words_joined (connective : Connective) (left right : Text) :
    Text.words (joined connective left right) =
      Text.words left ++ connective.sql :: Text.words right := by
  have hconnective : Text.words connective.sql = [connective.sql] := by cases connective <;> decide
  rw [joined, Text.words_append_space, Text.words_append_space, hconnective, List.append_assoc]
  rfl

private theorem depth_connective (connective : Connective) : Text.depth connective.sql = 0 := by
  cases connective <;> decide

private theorem isConnective_sql (connective : Connective) :
    isConnective connective connective.sql = true := Text.sameLetters_refl _

theorem alternatives_or {left : Text} (h : left.depth = 0) (right : Text) :
    alternatives (joined .or left right) = alternatives left ++ alternatives right := by
  have hdepth : 0 + Text.depth (Text.words left).flatten + Text.depth Connective.or.sql = 0 := by
    rw [Text.depth_flatten_words, h, depth_connective]
    rfl
  rw [alternatives, words_joined, Text.splitWords_append_separator (isConnective_sql .or) hdepth,
    List.map_append]
  rfl

theorem alternatives_and {left right : Text} (h : left.depth = 0) :
    ∃ front last first back, alternatives left = front ++ [last] ∧
      alternatives right = first :: back ∧
      alternatives (joined .and left right) = front ++ (last ++ first) :: back := by
  obtain ⟨front, last, hleft⟩ := (List.eq_nil_or_concat' _).resolve_left
    (@Text.splitWords_ne_nil (isConnective .or) 0 (Text.words left))
  obtain ⟨first, back, hright⟩ := List.exists_cons_of_ne_nil
    (@Text.splitWords_ne_nil (isConnective .or) 0 (Text.words right))
  have hstart : 0 + Text.depth (Text.words left).flatten = 0 := by
    rw [Text.depth_flatten_words, h]
    rfl
  have hlast : Text.depth last.flatten = 0 := by
    rw [Text.depth_last_splitWords hleft, ite_self, Text.depth_flatten_words, h]
    rfl
  -- the word `AND` itself opens the run that goes on behind it
  have hsecond : Text.splitWords (isConnective .or) (0 + Text.depth (Text.words left).flatten)
      (Connective.and.sql :: Text.words right) = (Connective.and.sql :: first) :: back := by
    have hother : isConnective .or Connective.and.sql = false := by decide
    rw [Text.splitWords, if_neg (by simp [hother]), hstart, depth_connective, Int.add_zero, hright,
      List.modifyHead_cons]
  have hmiddle : factors (last ++ Connective.and.sql :: first) = factors last ++ factors first := by
    have hdepth : 0 + Text.depth last.flatten + Text.depth Connective.and.sql = 0 := by
      rw [hlast, depth_connective]
      rfl
    rw [factors, Text.splitWords_append_separator (isConnective_sql .and) hdepth, List.map_append]
    rfl
  refine ⟨front.map factors, factors last, factors first, back.map factors, ?_, ?_, ?_⟩
  · rw [alternatives, hleft, List.map_append, List.map_singleton]
  · rw [alternatives, hright, List.map_cons]
  · rw [alternatives, words_joined, Text.splitWords_append hleft hsecond, List.map_append,
      List.map_cons, hmiddle]

theorem alternatives_parentheses {text : Text} (h : text.IsNested) :
    ∃ inner : Text, alternatives ('(' :: text ++ [')']) = [['(' :: inner ++ [')']]] ∧
      Text.words inner = Text.words text := by
  obtain ⟨inner, hspelled, hwords⟩ := Text.unwords_words_parentheses text
  have hfree (connective : Connective) :
      Text.freeOf (isConnective connective) 0 (Text.words ('(' :: text ++ [')'])) = true := by
    have hname : ∀ c ∈ ([] : Text), isBlank c = false := by simp
    refine Text.freeOf_call (fun word hclosing => ?_) hname rfl h
    exact Text.not_sameLetters_of_mem hclosing (by cases connective <;> decide)
  refine ⟨inner, ?_, hwords⟩
  rw [alternatives, Text.splitWords_of_freeOf (hfree .or), List.map_singleton, factors,
    Text.splitWords_of_freeOf (hfree .and), List.map_singleton, hspelled]

theorem holds_parentheses {text : Text} (h : text.IsNested) (truth : Text → Bool) :
    holds truth ('(' :: text ++ [')']) = holds truth text := by
  obtain ⟨inner, hone, hwords⟩ := alternatives_parentheses h
  have hinner : inner.IsNested := (Text.isNested_congr hwords).2 h
  have henclosed : enclosed? ('(' :: inner ++ [')']) = some inner := by
    rw [enclosed?, inside?_parentheses, Option.filter_some, (Text.closesFrom_zero_iff _).2 hinner]
    rfl
  rw [holds_eq, hone, List.any_cons, List.any_nil, Bool.or_false, allHold, List.all_cons,
    List.all_nil, Bool.and_true, factorHolds, henclosed]
  exact holds_congr hwords truth

end SqlSelect.FilterText
