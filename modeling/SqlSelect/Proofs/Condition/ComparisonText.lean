import SqlSelect.Proofs.Condition.Literals
import SqlSelect.Proofs.Query.Identifiers

/-!
Comparisons, read from what they are written as. Behind the comparator stands a settled operand: a
parameter, a literal or a bare word, each of them written again as it was read. Main statement: a
comparison of an identifier is written again as it was written, unless a null is looked for with
equality or `LIKE`. `IS NULL` loses its `IS`, which is no comparator.
-/

set_option autoImplicit false
set_option relaxedAutoImplicit false

namespace SqlSelect

namespace Text

/-- A text that can be written between quotes as it is, or stand as a part of a word. -/
def IsBlunt (text : Text) : Prop := ∀ c ∈ text, isBlank c = false ∧ c ≠ '\''

instance (text : Text) : Decidable text.IsBlunt :=
  decidable_of_iff (text.all (fun c => !isBlank c && c != '\'') = true) (by simp [IsBlunt])

private theorem IsBlunt.quote_notMem {text : Text} (h : text.IsBlunt) : '\'' ∉ text :=
  fun hmem => (h _ hmem).2 rfl

private theorem IsBlunt.isWord {text : Text} (h : text.IsBlunt) (hne : text ≠ []) : text.IsWord :=
  ⟨hne, fun c hc => (h c hc).1⟩

private theorem IsBlunt.isWord_literal {text : Text} (h : text.IsBlunt) :
    Text.IsWord ('\'' :: text ++ ['\'']) := by
  refine ⟨by simp, fun c hc => ?_⟩
  rw [List.mem_append, List.mem_cons, List.mem_singleton] at hc
  rcases hc with (rfl | hc) | rfl
  · decide
  · exact (h c hc).1
  · decide

private theorem IsBlunt.quoted_eq {text : Text} (h : text.IsBlunt) :
    quoted text = '\'' :: text ++ ['\''] := by
  have hsame : doubleQuotes text = text := by
    rw [doubleQuotes]
    calc text.flatMap (fun c => if c = '\'' then ['\'', '\''] else [c])
        = text.flatMap fun c => [c] := List.flatMap_congr fun c hc => if_neg (h c hc).2
      _ = text := List.flatMap_singleton' text
  rw [quoted, hsame]

private theorem IsBlunt.pattern {text : Text} (h : text.IsBlunt) :
    (LiteralSource.pattern text).IsBlunt ∧ '%' ∈ LiteralSource.pattern text := by
  rw [LiteralSource.pattern]
  split
  · next hwild => exact ⟨h, by simpa using hwild⟩
  · refine ⟨fun c hc => ?_, by simp⟩
    rw [List.mem_append, List.mem_cons, List.mem_singleton] at hc
    rcases hc with (rfl | hc) | rfl
    · decide
    · exact h c hc
    · decide

private theorem pattern_of_mem {text : Text} (h : '%' ∈ text) :
    LiteralSource.pattern text = text := by
  rw [LiteralSource.pattern, if_pos (by simpa using h)]

end Text

namespace Comparison

private def ofWords (field comparator operand : Text) : Comparison :=
  if operand.head? = some '@' then
    { field := Field.parse field
      comparator := Comparator.ofWord? comparator
      value := some operand
      parameter := true }
  else
    { field := Field.parse field
      comparator := Comparator.ofWord? comparator
      value := some (readValue operand)
      quoted := operand.contains '\'' }

private def rewritten (comparator : Option Comparator) (operand : Text) : Text :=
  if operand.head? = some '@' then operand
  else comparedValue comparator (readValue operand) (operand.contains '\'') false

private def comparatorText : Option Comparator → Text
  | some comparator => ' ' :: comparator.sql
  | none => []

private theorem parse?_of_words {text field comparator operand : Text}
    (h : Text.words text = [field, comparator, operand]) :
    parse? text = some (ofWords field comparator operand) := by
  rw [parse?, h]
  rfl

private theorem isBlunt_readValue {operand : Text} (h : operand.IsWord) :
    (readValue operand).IsBlunt := by
  rw [readValue]
  split
  · decide
  · split
    · decide
    · intro c hc
      obtain ⟨hmem, hquote⟩ := List.mem_filter.1 hc
      exact ⟨h.2 c hmem, by simpa using hquote⟩

private theorem filter_quotes_eq_self {text : Text} (h : '\'' ∉ text) :
    text.filter (· ≠ '\'') = text := by
  refine List.filter_eq_self.2 fun c hc => ?_
  have hne : c ≠ '\'' := fun hsame => h (hsame ▸ hc)
  simpa using hne

private theorem readValue_of_quote_notMem {word : Text} (h : '\'' ∉ word) :
    readValue word = ['1'] ∨ readValue word = ['0'] ∨ readValue word = word := by
  rw [readValue]
  split
  · exact .inl rfl
  · split
    · exact .inr (.inl rfl)
    · exact .inr (.inr (filter_quotes_eq_self h))

private theorem readValue_literal {content : Text} (h : content.IsBlunt) :
    readValue ('\'' :: content ++ ['\'']) = content := by
  have hquote : '\'' ∈ '\'' :: content ++ ['\''] := List.mem_cons_self
  have hother (keyword : Text) (hkeyword : '\''.toLower ∉ Text.foldCase keyword) :
      ¬Text.sameLetters ('\'' :: content ++ ['\'']) keyword = true := by
    rw [Text.sameLetters_comm, Text.not_sameLetters_of_mem hquote hkeyword]
    exact Bool.noConfusion
  rw [readValue, if_neg (hother _ (by decide)), if_neg (hother _ (by decide)), List.filter_append,
    List.filter_cons_of_neg (by simp), filter_quotes_eq_self h.quote_notMem]
  exact List.append_nil content

private theorem readValue_filled {word : Text} (h : word ≠ []) :
    readValue word ≠ [] ∨ word.contains '\'' = true := by
  by_cases hquote : '\'' ∈ word
  · exact .inr (by simpa using hquote)
  · rcases readValue_of_quote_notMem hquote with hread | hread | hread
    · exact .inl (by simp [hread])
    · exact .inl (by simp [hread])
    · exact .inl (by rwa [hread])

private theorem comparisonTail_filled (comparator : Option Comparator) {value : Text}
    {quoted : Bool}
    (h : value ≠ [] ∨ quoted = true) (parameter : Bool) :
    comparisonTail comparator (some value) quoted parameter =
      comparatorText comparator ++ ' ' :: comparedValue comparator value quoted parameter := by
  have hshown : ¬(!hasContent (some value) && !quoted) = true := by
    rcases h with h | rfl
    · obtain ⟨c, rest, rfl⟩ := List.exists_cons_of_ne_nil h
      exact Bool.noConfusion
    · simp
  unfold comparisonTail
  rw [if_neg hshown]
  cases comparator <;> rfl

private theorem comparedValue_quoted (comparator : Comparator) (value : Text) :
    comparedValue (some comparator) value true false =
      Text.quoted (if comparator = .like then LiteralSource.pattern value else value) := by
  cases comparator <;> rfl

private theorem comparedValue_bare {comparator : Comparator} (h : comparator ≠ .like)
    (value : Text) :
    comparedValue (some comparator) value false false = value := by
  cases comparator with
  | like => exact absurd rfl h
  | equal | greater | greaterOrEqual | less | lessOrEqual | notEqual => rfl

private theorem comparedValue_like (value : Text) (quoted : Bool) :
    comparedValue (some .like) value quoted false = comparedValue (some .like) value true false :=
  rfl

private theorem sql_of_filled {field : Field} (h : field.IsIdentifier)
    (comparator : Option Comparator)
    {value : Text} {quoted : Bool} (hvalue : value ≠ [] ∨ quoted = true) (parameter : Bool) :
    (Condition.comparison { field, comparator, value := some value, quoted, parameter }).sql false =
      .ok (field.identifierText ++ (comparatorText comparator ++
        ' ' :: comparedValue comparator value quoted parameter)) := by
  rw [Condition.sql, Comparison.sql, h.sql_eq, comparisonTail_filled comparator hvalue]
  rfl

private theorem sql_ofWords {field : Field} (h : field.IsIdentifier) (comparator : Text)
    {operand : Text}
    (hoperand : operand ≠ []) :
    (Condition.comparison (ofWords field.identifierText comparator operand)).sql false =
      .ok (field.identifierText ++ (comparatorText (Comparator.ofWord? comparator) ++
        ' ' :: rewritten (Comparator.ofWord? comparator) operand)) := by
  have hfield : Field.parse field.identifierText = field := h.parseWith_eq _
  rw [ofWords, rewritten, hfield]
  split
  · exact sql_of_filled h _ (.inl hoperand) true
  · exact sql_of_filled h _ (readValue_filled hoperand) false

/-- An operand that is written again as it is read. -/
private inductive IsSettled (comparator : Comparator) : Text → Prop
  | parameter {name : Text} : Text.IsWord ('@' :: name) → IsSettled comparator ('@' :: name)
  | literal {content : Text} : content.IsBlunt → (comparator = .like → '%' ∈ content) →
      IsSettled comparator ('\'' :: content ++ ['\''])
  | bare {word : Text} : comparator ≠ .like → word ≠ [] → word.IsBlunt → word.head? ≠ some '@' →
      readValue word = word → IsSettled comparator word

namespace IsSettled

variable {comparator : Comparator} {operand : Text}

private theorem isWord (h : IsSettled comparator operand) : operand.IsWord := by
  cases h with
  | parameter hname => exact hname
  | literal hcontent => exact hcontent.isWord_literal
  | bare _ hne hblunt => exact hblunt.isWord hne

private theorem rewritten_eq (h : IsSettled comparator operand) :
    rewritten (some comparator) operand = operand := by
  cases h with
  | parameter hname => rfl
  | @literal content hcontent hlike =>
    have hquoted : ('\'' :: content ++ ['\'']).contains '\'' = true := by simp
    rw [rewritten, if_neg (by simp), readValue_literal hcontent, hquoted, comparedValue_quoted,
      ← hcontent.quoted_eq]
    split
    · next hcomparator => rw [Text.pattern_of_mem (hlike hcomparator)]
    · rfl
  | bare hlike hne hblunt hhead hread =>
    have hquoted : operand.contains '\'' = false := by simpa using hblunt.quote_notMem
    rw [rewritten, if_neg hhead, hread, hquoted, comparedValue_bare hlike]

end IsSettled

private theorem isSettled_quoted (comparator : Comparator) {content : Text} (h : content.IsBlunt) :
    IsSettled comparator (comparedValue (some comparator) content true false) := by
  rw [comparedValue_quoted]
  split
  · rw [h.pattern.1.quoted_eq]
    exact .literal h.pattern.1 fun _ => h.pattern.2
  · next hother =>
    rw [h.quoted_eq]
    exact .literal h fun hlike => absurd hlike hother

private theorem isSettled_readValue {comparator : Comparator} (hlike : comparator ≠ .like)
    {operand : Text}
    (h : operand.IsWord) (hhead : operand.head? ≠ some '@') (hquote : '\'' ∉ operand) :
    IsSettled comparator (readValue operand) := by
  have hblunt := isBlunt_readValue h
  rcases readValue_of_quote_notMem hquote with hread | hread | hread
  · rw [hread]
    exact .bare hlike (by decide) (by decide) (by decide) (by decide)
  · rw [hread]
    exact .bare hlike (by decide) (by decide) (by decide) (by decide)
  · rw [hread] at hblunt ⊢
    exact .bare hlike h.1 hblunt hhead hread

private theorem isSettled_rewritten (comparator : Comparator) {operand : Text}
    (h : operand.IsWord) :
    IsSettled comparator (rewritten (some comparator) operand) := by
  rw [rewritten]
  split
  · next hhead =>
    obtain ⟨name, rfl⟩ := List.head?_eq_some_iff.1 hhead
    exact .parameter h
  · next hhead =>
    cases hquoted : operand.contains '\'' with
    | true => exact isSettled_quoted comparator (isBlunt_readValue h)
    | false =>
      by_cases hlike : comparator = .like
      · rw [hlike, comparedValue_like]
        exact isSettled_quoted .like (isBlunt_readValue h)
      · rw [comparedValue_bare hlike]
        exact isSettled_readValue hlike h hhead (by simpa using hquoted)

/-- How a comparison of a field is made: from a value whose text, if it is one, has no blank and no
quote, from the name of a parameter, or from three words, the first of which is the field. -/
inductive IsMade (field : Field) : Comparison → Prop
  | value (comparator : Comparator) {value : Value} :
      (∀ content ∈ value.text?, content.IsBlunt) → IsMade field (ofValue field comparator value)
  | parameter (comparator : Comparator) {name : Text} :
      name.IsWord → IsMade field (ofParameter field comparator name)
  | words {text comparator operand : Text} {comparison : Comparison} :
      Text.words text = [field.identifierText, comparator, operand] →
      parse? text = some comparison → IsMade field comparison

/-- The condition is written as the text, and what is read from the text is written so too. -/
private structure IsStable (condition : Condition) (text : Text) : Prop where
  written : condition.sql false = .ok text
  rewritten : (Condition.parse text).sql false = .ok text

variable {field : Field}

private theorem isWord_sql (comparator : Comparator) : comparator.sql.IsWord := by
  cases comparator <;> decide

private theorem words_three {first second third : Text} (hfirst : first.IsWord)
    (hsecond : second.IsWord)
    (hthird : third.IsWord) :
    Text.words (first ++ (' ' :: second ++ ' ' :: third)) = [first, second, third] := by
  rw [List.cons_append, Text.words_append_space, Text.words_append_space,
    Text.words_of_isWord hfirst, Text.words_of_isWord hsecond, Text.words_of_isWord hthird]
  rfl

private theorem parse_sql_of_words {text : Text} (hspaced : text.IsSpaced)
    (hwords : (Text.words text).length ≠ 3) : (Condition.parse text).sql false = .ok text := by
  have hnone : parse? text = none := by
    rw [parse?]
    split
    · next hthree => exact absurd (congrArg List.length hthree) hwords
    · rfl
  rw [Condition.parse, hnone, Condition.sql, hspaced.trim_eq, hspaced.trim_eq]
  rfl

private theorem parse_sql_of_three (h : field.IsIdentifier) {comparator operand : Text}
    (hcomparator : comparator.IsWord) (hoperand : operand.IsWord) :
    (Condition.parse (field.identifierText ++ (' ' :: comparator ++ ' ' :: operand))).sql false =
      .ok (field.identifierText ++ (comparatorText (Comparator.ofWord? comparator) ++
        ' ' :: rewritten (Comparator.ofWord? comparator) operand)) := by
  rw [Condition.parse, parse?_of_words (words_three h.isWord hcomparator hoperand)]
  exact sql_ofWords h comparator hoperand.1

private theorem parse_sql_of_isSettled (h : field.IsIdentifier) {comparator : Comparator}
    {operand : Text}
    (hoperand : IsSettled comparator operand) :
    (Condition.parse (field.identifierText ++
      (comparatorText (some comparator) ++ ' ' :: operand))).sql false =
        .ok (field.identifierText ++ (comparatorText (some comparator) ++ ' ' :: operand)) := by
  have hread := parse_sql_of_three h (isWord_sql comparator) hoperand.isWord
  rwa [Comparator.ofWord?_sql, hoperand.rewritten_eq] at hread

private theorem readValue_of_isNumeric {word : Text} (h : word.IsNumeric) :
    readValue word = word := by
  have htrue := h.not_sameLetters (show 'r' ∈ Text.foldCase "true".toList by decide) (by decide)
  have hfalse := h.not_sameLetters (show 's' ∈ Text.foldCase "false".toList by decide) (by decide)
  rw [readValue, htrue, hfalse]
  exact filter_quotes_eq_self (h.notMem (by decide))

private theorem isSettled_number (comparator : Comparator) {content : Text}
    (h : content.IsNumeric) :
    IsSettled comparator (comparedValue (some comparator) content false false) := by
  have hhead : content.head? ≠ some '@' :=
    fun hsign => h.notMem (by decide) (List.mem_of_mem_head? hsign)
  have hquoted : content.contains '\'' = false := by
    simpa using h.notMem (show isNumberChar '\'' = false by decide)
  have hsettled := isSettled_rewritten comparator h.isWord
  rwa [rewritten, if_neg hhead, readValue_of_isNumeric h, hquoted] at hsettled

private theorem exists_isStable_of_value (h : field.IsIdentifier) (comparator : Comparator)
    {value : Value}
    (hvalue : ∀ content ∈ value.text?, content.IsBlunt) (hnull : value ≠ .null) :
    ∃ text, IsStable (.comparison (ofValue field comparator value)) text := by
  rw [ofValue]
  cases hplain : value.plain? with
  | none =>
    cases value with
    | null => exact absurd rfl hnull
    | _ => cases hplain
  | some plain =>
    obtain ⟨content, quoted⟩ := plain
    cases quoted with
    | true =>
      have hcontent : content.IsBlunt := by
        cases value with
        | text written =>
          obtain ⟨rfl, -⟩ := Prod.mk.inj (Option.some.inj hplain)
          exact hvalue _ rfl
        | _ => cases hplain
      exact ⟨_, sql_of_filled h (some comparator) (.inr rfl) false,
        parse_sql_of_isSettled h (isSettled_quoted comparator hcontent)⟩
    | false =>
      have hcontent := Value.isNumeric_of_plain? hplain
      exact ⟨_, sql_of_filled h (some comparator) (.inl hcontent.1) false,
        parse_sql_of_isSettled h (isSettled_number comparator hcontent)⟩

private theorem exists_isStable_of_parameter (h : field.IsIdentifier) (comparator : Comparator)
    {name : Text} (hname : name.IsWord) :
    ∃ text, IsStable (.comparison (ofParameter field comparator name)) text := by
  obtain ⟨rest, hrest⟩ : ∃ rest, atName name = '@' :: rest :=
    List.head?_eq_some_iff.1 (head?_atName name)
  have hword : Text.IsWord ('@' :: rest) := by
    rw [← hrest]
    unfold atName
    split
    · exact hname
    · exact Text.IsWord.append (show Text.IsWord ['@'] by decide) hname
  rw [ofParameter, hrest]
  exact ⟨_, sql_of_filled h (some comparator) (.inl (List.cons_ne_nil _ _)) true,
    parse_sql_of_isSettled h (.parameter hword)⟩

private theorem isWord_rewritten_none {operand : Text} (h : operand.IsWord) :
    (rewritten none operand).IsWord := by
  have hblunt := isBlunt_readValue h
  rw [rewritten]
  split
  · exact h
  · cases hquoted : operand.contains '\'' with
    | true =>
      have hword := hblunt.isWord_literal
      rw [← hblunt.quoted_eq] at hword
      exact hword
    | false =>
      refine hblunt.isWord ((readValue_filled h.1).resolve_right ?_)
      rw [hquoted]
      exact Bool.noConfusion

private theorem exists_isStable_of_words (h : field.IsIdentifier) (comparator : Text)
    {operand : Text}
    (hoperand : operand.IsWord) :
    ∃ text, IsStable
      (.comparison (ofWords field.identifierText comparator operand)) text := by
  -- without a comparator two words are left, and these are kept as they are
  refine ⟨_, sql_ofWords h comparator hoperand.1, ?_⟩
  cases Comparator.ofWord? comparator with
  | some comparator => exact parse_sql_of_isSettled h (isSettled_rewritten comparator hoperand)
  | none =>
    have hword := isWord_rewritten_none hoperand
    refine parse_sql_of_words (h.isWord.isSpaced.append_space hword.isSpaced) ?_
    rw [comparatorText, List.nil_append, Text.words_append_space, Text.words_of_isWord h.isWord,
      Text.words_of_isWord hword]
    exact Nat.ne_of_lt (Nat.lt_succ_self 2)

private theorem sql_null (h : field.IsIdentifier) (comparator : Comparator) :
    (Condition.comparison (ofValue field comparator .null)).sql false =
      .ok (field.identifierText ++ nullTest (some comparator)) :=
  ValueCondition.sql_ofValue h.sql_eq comparator .null

private theorem parse_sql_isNull (h : field.IsIdentifier) :
    (Condition.parse (field.identifierText ++ Phrase.isNull)).sql false =
      .ok (field.identifierText ++ Phrase.null) := by
  -- `IS` is no comparator, so it is left out
  have his : Text.IsWord "IS".toList := by decide
  have hnull : Text.IsWord "NULL".toList := by decide
  have hphrase : Phrase.isNull = ' ' :: "IS".toList ++ ' ' :: "NULL".toList := by decide
  have hunknown : Comparator.ofWord? "IS".toList = none := by decide
  have hrewritten : rewritten none "NULL".toList = "NULL".toList := by decide
  have hread := parse_sql_of_three h his hnull
  rw [hunknown, hrewritten] at hread
  rwa [hphrase]

private theorem parse_sql_likeNull (h : field.IsIdentifier) :
    (Condition.parse (field.identifierText ++ nullTest (some .like))).sql false =
      .ok (field.identifierText ++ " LIKE '%NULL%'".toList) := by
  have hnull : Text.IsWord "NULL".toList := by decide
  have hrewritten : rewritten (some .like) "NULL".toList = "'%NULL%'".toList := by decide
  have hread := parse_sql_of_three h (isWord_sql .like) hnull
  rwa [Comparator.ofWord?_sql, hrewritten] at hread

private theorem parse_sql_nullTest (h : field.IsIdentifier) {comparator : Comparator}
    (hequal : comparator ≠ .equal) (hlike : comparator ≠ .like) :
    (Condition.parse (field.identifierText ++ nullTest (some comparator))).sql false =
      .ok (field.identifierText ++ nullTest (some comparator)) := by
  have hsettled : IsSettled comparator "NULL".toList :=
    .bare hlike (by decide) (by decide) (by decide) (by decide)
  have hread := parse_sql_of_isSettled h hsettled
  cases comparator with
  | equal => exact absurd rfl hequal
  | like => exact absurd rfl hlike
  | notEqual =>
    have hback : Text.IsSpaced "IS NOT NULL".toList := by decide
    have hphrase : nullTest (some .notEqual) = ' ' :: "IS NOT NULL".toList := by decide
    rw [hphrase]
    refine parse_sql_of_words (h.isWord.isSpaced.append_space hback) ?_
    have hthree : (Text.words "IS NOT NULL".toList).length = 3 := by decide
    rw [Text.words_append_space, Text.words_of_isWord h.isWord, List.length_append, hthree]
    exact Nat.succ_ne_self 3
  | greater | greaterOrEqual | less | lessOrEqual => exact hread

private theorem ofValue_value_ne_none (field : Field) (comparator : Comparator) {value : Value}
    (h : value ≠ .null) : (ofValue field comparator value).value ≠ none := by
  cases value with
  | null => exact absurd rfl h
  | _ => exact Option.some_ne_none _

private theorem ofWords_value_ne_none (field comparator operand : Text) :
    (ofWords field comparator operand).value ≠ none := by
  rw [ofWords]
  split <;> exact Option.some_ne_none _

private theorem IsMade.isStable_or (h : field.IsIdentifier) {comparison : Comparison}
    (hmade : comparison.IsMade field) :
    (∃ comparator, comparison = ofValue field comparator .null) ∨
      comparison.value ≠ none ∧ ∃ text, IsStable (.comparison comparison) text := by
  cases hmade with
  | @value comparator value hvalue =>
    by_cases hnull : value = .null
    · exact .inl ⟨comparator, by rw [hnull]⟩
    · exact .inr ⟨ofValue_value_ne_none field comparator hnull,
        exists_isStable_of_value h comparator hvalue hnull⟩
  | parameter comparator hname =>
    exact .inr ⟨Option.some_ne_none _, exists_isStable_of_parameter h comparator hname⟩
  | @words text comparator operand _ hwords hread =>
    rw [parse?_of_words hwords] at hread
    obtain rfl := Option.some.inj hread
    have hmem : operand ∈ Text.words text := by simp [hwords]
    have hoperand : operand.IsWord := Text.isWord_of_mem_words hmem
    exact .inr ⟨ofWords_value_ne_none _ _ _, exists_isStable_of_words h comparator hoperand⟩

/-- A comparison of a field that is an identifier, made from a value, from the name of a parameter
or from three words, is written as a text that is written again as it is once it was read, unless
the comparison looks for a null with equality or with `LIKE`. What is read for a null and equality
is the field in front of `NULL`. -/
theorem text_stable (h : field.IsIdentifier) {comparison : Comparison}
    (hmade : comparison.IsMade field) :
    ∃ text, (Condition.comparison comparison).sql false = .ok text ∧
      (comparison ≠ .ofValue field .equal .null → comparison ≠ .ofValue field .like .null →
        (Condition.parse text).sql false = .ok text) ∧
      (comparison = .ofValue field .equal .null → text = field.identifierText ++ Phrase.isNull ∧
        (Condition.parse text).sql false = .ok (field.identifierText ++ Phrase.null)) := by
  rcases hmade.isStable_or h with ⟨comparator, rfl⟩ | ⟨hvalue, text, hstable⟩
  · refine ⟨_, sql_null h comparator, fun hequal hlike => ?_, fun hequal => ?_⟩
    · exact parse_sql_nullTest h (fun hsame => hequal (by rw [hsame])) fun hsame =>
        hlike (by rw [hsame])
    · obtain rfl := Option.some.inj (congrArg Comparison.comparator hequal)
      exact ⟨rfl, parse_sql_isNull h⟩
  · refine ⟨text, hstable.written, fun _ _ => hstable.rewritten, ?_⟩
    rintro rfl
    exact absurd rfl hvalue

/-- A pattern of its own, and a null. -/
theorem text_stable_of_pattern_and_null :
    let field : Field := { name := "Name".toList, table := some "t".toList }
    let pattern : Value := .text "50%".toList
    field.IsIdentifier ∧
      ((ofValue field .like pattern).IsMade field ∧
        ∃ text, (Condition.comparison (ofValue field .like pattern)).sql false = .ok text ∧
          (Condition.parse text).sql false = .ok text) ∧
      (ofValue field .equal .null).IsMade field ∧
        ∃ text, (Condition.comparison (ofValue field .equal .null)).sql false = .ok text ∧
          text = "t.Name IS NULL".toList ∧
          (Condition.parse text).sql false = .ok "t.Name NULL".toList := by
  intro field pattern
  have hfield : field.IsIdentifier := by decide
  have hpattern : ∀ content ∈ pattern.text?, content.IsBlunt := by
    rintro content ⟨⟩
    decide
  have hnull : ∀ content ∈ Value.null.text?, content.IsBlunt := by
    rintro content ⟨⟩
  have hvalue : pattern ≠ .null := by decide
  have hother (comparator : Comparator) :
      ofValue field .like pattern ≠ ofValue field comparator .null := fun hsame =>
    ofValue_value_ne_none field .like hvalue (congrArg Comparison.value hsame)
  have hlike : (ofValue field .like pattern).IsMade field := .value .like hpattern
  have hequal : (ofValue field .equal .null).IsMade field := .value .equal hnull
  obtain ⟨text, hsql, hstable, -⟩ := text_stable hfield hlike
  obtain ⟨nullText, hnullSql, -, hread⟩ := text_stable hfield hequal
  exact ⟨hfield, ⟨hlike, text, hsql, hstable (hother _) (hother _)⟩, hequal, nullText, hnullSql,
    hread rfl⟩

/-- `Note IS NULL` is read and written as `Note NULL`, and `Note LIKE NULL` with a pattern. -/
theorem text_stable_not_of_null :
    let field : Field := { name := "Note".toList }
    field.IsIdentifier ∧
      ((ofValue field .equal .null).IsMade field ∧
        ∃ text, (Condition.comparison (ofValue field .equal .null)).sql false = .ok text ∧
          (Condition.parse text).sql false ≠ .ok text) ∧
      (ofValue field .like .null).IsMade field ∧
        ∃ text, (Condition.comparison (ofValue field .like .null)).sql false = .ok text ∧
          (Condition.parse text).sql false ≠ .ok text := by
  intro field
  have hfield : field.IsIdentifier := by decide
  have hnull : ∀ content ∈ Value.null.text?, content.IsBlunt := by
    rintro content ⟨⟩
  have hdiffers {written read : Text} (hne : read ≠ written)
      (hread : (Condition.parse (field.identifierText ++ written)).sql false =
        .ok (field.identifierText ++ read)) :
      (Condition.parse (field.identifierText ++ written)).sql false ≠
        .ok (field.identifierText ++ written) := fun hsame =>
    hne (List.append_cancel_left (Except.ok.inj (hread.symm.trans hsame)))
  have hequal := hdiffers (by decide) (parse_sql_isNull hfield)
  have hlike := hdiffers (by decide) (parse_sql_likeNull hfield)
  exact ⟨hfield, ⟨.value .equal hnull, _, sql_null hfield .equal, hequal⟩,
    .value .like hnull, _, sql_null hfield .like, hlike⟩

end Comparison

end SqlSelect
