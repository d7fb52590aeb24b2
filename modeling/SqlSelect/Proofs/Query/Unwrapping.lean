import SqlSelect.Condition.Membership
import SqlSelect.Query.Render
import SqlSelect.Proofs.Text.Cutting
import SqlSelect.Proofs.Text.Pairs
import SqlSelect.Proofs.Text.Spacing

/-!
Statements that are taken out of parentheses. Main statement: what decides whether a text is
unwrapped, in a field and in a membership test, and that the two parentheses that are taken off
match exactly if those between them are well nested, which neither of the two readers asks for.
-/

set_option autoImplicit false
set_option relaxedAutoImplicit false

namespace SqlSelect

/-- A text that is read as a name for a nested statement: behind its only `=` outside parentheses,
and behind blanks, it begins with `(`, it ends with `)`, and between the two stands a complete
statement. -/
structure Field.Unwraps (text front blanks inner : Text) (query : Query) : Prop where
  spaced : hasSpacedParenthesis text = true
  blank : blanks.all isBlank = true
  cut : Text.IsCutOnce '=' text front (blanks ++ ('(' :: inner ++ [')']))
  reads : Query.parse inner = .ok query
  complete : query.isComplete = true

private theorem Query.parse?_eq_some_iff {text : Text} {query : Query} :
    Query.parse? text = some query ↔ Query.parse text = .ok query := by
  rw [Query.parse?]
  cases Query.parse text with
  | error cause =>
    constructor
    · rintro ⟨⟩
    · rintro ⟨⟩
  | ok other =>
    exact ⟨fun h => congrArg Except.ok (Option.some.inj h), fun h => congrArg some (Except.ok.inj h)⟩

private theorem nestedParts?_eq_some_iff {text name inner : Text}
    (htext : Text.trimEnd text = text) :
    nestedParts? text = some (name, inner) ↔ ∃ front blanks : Text, Text.trim front = name ∧
      blanks.all isBlank = true ∧
      Text.IsCutOnce '=' text front (blanks ++ ('(' :: inner ++ [')'])) := by
  have hflat : Text.charDepth '=' = 0 := rfl
  have hpair : Text.trim ('(' :: inner ++ [')']) = '(' :: inner ++ [')'] :=
    Text.trim_enclosed (by decide) (by decide)
  constructor
  · intro h
    rw [nestedParts?] at h
    split at h
    · next front back hsplit =>
      obtain ⟨body, hbody, hparts⟩ := Option.map_eq_some_iff.1 h
      obtain ⟨rfl, rfl⟩ := Prod.mk.inj hparts
      have hcut := (Text.splitTopLevel_eq_pair_iff hflat).1 hsplit
      have hback := Text.trimEnd_eq_self_of_suffix htext hcut.suffix
      obtain ⟨blanks, hblanks, rfl⟩ :=
        (Text.trim_eq_iff hback hpair).1 (Text.inside?_eq_some_iff.1 hbody)
      exact ⟨front, blanks, rfl, hblanks, hcut⟩
    · cases h
  · rintro ⟨front, blanks, rfl, hblanks, hcut⟩
    have hsplit := (Text.splitTopLevel_eq_pair_iff hflat).2 hcut
    have hback := Text.trimEnd_eq_self_of_suffix htext hcut.suffix
    have htrim := (Text.trim_eq_iff hback hpair).2 ⟨blanks, hblanks, rfl⟩
    rw [nestedParts?, hsplit]
    simp only [htrim, Text.inside?_eq_some_iff.2 rfl, Option.map_some]

namespace Field

variable {text front blanks inner : Text} {query : Query}

private theorem parse_of_unwraps (h : Unwraps (Text.trim text) front blanks inner query) :
    parse text = { name := Text.trim front, nested := some query } := by
  have hparts := (nestedParts?_eq_some_iff (Text.trimEnd_trim text)).2
    ⟨front, blanks, rfl, h.blank, h.cut⟩
  have hread : (Query.parse? inner).filter Query.isComplete = some query :=
    Option.filter_eq_some_iff.2 ⟨Query.parse?_eq_some_iff.2 h.reads, h.complete⟩
  unfold parse parseWith
  simp only [h.spaced, if_true, hparts, hread]

private theorem parse_of_spaced (hspaced : hasSpacedParenthesis (Text.trim text) = true) :
    parse text = { name := Text.trim text } ∨
      ∃ front blanks inner query, Unwraps (Text.trim text) front blanks inner query := by
  cases hparts : nestedParts? (Text.trim text) with
  | none =>
    left
    unfold parse parseWith
    simp only [hspaced, if_true, hparts]
  | some parts =>
    obtain ⟨name, inner⟩ := parts
    cases hread : (Query.parse? inner).filter Query.isComplete with
    | none =>
      left
      unfold parse parseWith
      simp only [hspaced, if_true, hparts, hread]
    | some query =>
      right
      obtain ⟨hquery, hcomplete⟩ := Option.filter_eq_some_iff.1 hread
      obtain ⟨front, blanks, rfl, hblanks, hcut⟩ :=
        (nestedParts?_eq_some_iff (Text.trimEnd_trim text)).1 hparts
      have hreads := Query.parse?_eq_some_iff.1 hquery
      exact ⟨front, blanks, inner, query, hspaced, hblanks, hcut, hreads, hcomplete⟩

private theorem nested_of_unspaced (hspaced : hasSpacedParenthesis (Text.trim text) = false) :
    (parse text).nested = none := by
  unfold parse parseWith
  simp only [hspaced, Bool.false_eq_true, if_false]
  split
  · rfl
  · split <;> rfl

private theorem nested_parse_eq_some_iff : (parse text).nested = some query ↔
    ∃ front blanks inner, Unwraps (Text.trim text) front blanks inner query := by
  constructor
  · intro h
    cases hspaced : hasSpacedParenthesis (Text.trim text) with
    | false =>
      rw [nested_of_unspaced hspaced] at h
      cases h
    | true =>
      rcases parse_of_spaced hspaced with hkept | ⟨front, blanks, inner, other, hunwraps⟩
      · rw [hkept] at h
        cases h
      · rw [parse_of_unwraps hunwraps] at h
        obtain rfl := Option.some.inj h
        exact ⟨front, blanks, inner, hunwraps⟩
  · rintro ⟨front, blanks, inner, h⟩
    rw [parse_of_unwraps h]

end Field

/-- What stands behind the `IN` of a membership test, without the blanks around it. -/
def Membership.side? (text : Text) : Option Text :=
  (Text.cutWord? "in".toList text).map fun parts => Text.trim parts.2

private theorem Candidates.read_eq_query_iff {whole inner : Text} {query : Query} :
    read whole inner = .ok (.query query) ↔
      Text.startsWith "select".toList inner = true ∧ Query.parse inner = .ok query := by
  rw [read]
  cases hselect : Text.startsWith "select".toList inner with
  | false =>
    refine iff_of_false ?_ fun h => Bool.false_ne_true h.1
    cases readValues? inner with
    | none => rintro ⟨⟩
    | some bundle => rintro ⟨⟩
  | true =>
    rw [if_pos rfl, eq_self, true_and]
    cases Query.parse inner with
    | error cause =>
      constructor
      · rintro ⟨⟩
      · rintro ⟨⟩
    | ok other =>
      constructor
      · intro h
        exact congrArg Except.ok (Candidates.query.inj (Except.ok.inj h))
      · intro h
        exact congrArg (fun found => Except.ok (Candidates.query found)) (Except.ok.inj h)

/-- A membership test with something in parentheses has a nested statement if that begins with
`SELECT` and is a statement. -/
private theorem Membership.parse_enclosed_iff {text inner : Text} {query : Query}
    (h : side? text = some ('(' :: inner ++ [')'])) :
    (∃ membership, parse text = .ok membership ∧ membership.candidates = .query query) ↔
      Text.startsWith "select".toList (Text.trim inner) = true ∧
        Query.parse (Text.trim inner) = .ok query := by
  obtain ⟨⟨front, back⟩, hcut, hback⟩ := Option.map_eq_some_iff.1 h
  have hinside : (Text.inside? '(' ')' (Text.trim back)).getD (Text.trim back) = inner := by
    rw [Text.inside?_eq_some_iff.2 hback]
    rfl
  rw [parse, hcut]
  simp only [hinside]
  rw [← @Candidates.read_eq_query_iff text]
  cases Candidates.read text (Text.trim inner) with
  | error cause =>
    constructor
    · rintro ⟨membership, ⟨⟩, -⟩
    · rintro ⟨⟩
  | ok candidates =>
    constructor
    · rintro ⟨membership, hparse, hcandidates⟩
      rw [← hcandidates, ← Except.ok.inj hparse]
    · intro h
      exact ⟨_, rfl, Except.ok.inj h⟩

/-- What is taken out of parentheses, and when its parentheses match. A field text has a statement
taken out exactly if it stands behind the only `=` outside parentheses and is complete, and is kept
as its name otherwise; a membership test has one taken out exactly if what stands in its parentheses
begins with `SELECT` and is a statement. In both the first parenthesis is closed by the last one and
by none before it exactly if the parentheses between them are well nested. -/
theorem unwrapped_pair_matches_iff (text : Text) :
    (∀ query, (Field.parse text).nested = some query ↔
      ∃ front blanks inner, Field.Unwraps (Text.trim text) front blanks inner query) ∧
    (∀ (front blanks inner : Text) (query : Query),
      Field.Unwraps (Text.trim text) front blanks inner query →
      Field.parse text = { name := Text.trim front, nested := some query } ∧
      (Text.IsPair ('(' :: inner ++ [')']) ↔ inner.IsNested)) ∧
    (hasSpacedParenthesis (Text.trim text) = true → (Field.parse text).nested = none →
      Field.parse text = { name := Text.trim text }) ∧
    (∀ inner : Text, Membership.side? text = some ('(' :: inner ++ [')']) →
      (∀ query, (∃ membership, Membership.parse text = .ok membership ∧
          membership.candidates = .query query) ↔
        Text.startsWith "select".toList (Text.trim inner) = true ∧
          Query.parse (Text.trim inner) = .ok query) ∧
      (Text.IsPair ('(' :: inner ++ [')']) ↔ inner.IsNested)) := by
  refine ⟨fun query => Field.nested_parse_eq_some_iff, ?_, ?_, ?_⟩
  · intro front blanks inner query h
    exact ⟨Field.parse_of_unwraps h, Text.isPair_iff inner⟩
  · intro hspaced hnone
    rcases Field.parse_of_spaced hspaced with hkept | ⟨front, blanks, inner, query, h⟩
    · exact hkept
    · rw [Field.parse_of_unwraps h] at hnone
      cases hnone
  · intro inner hside
    exact ⟨fun query => Membership.parse_enclosed_iff hside, Text.isPair_iff inner⟩

/-- Between two statements in parentheses the first parenthesis is not closed by the last one, and
both readers unwrap them all the same. -/
theorem unwrapped_pair_matches_iff_of_two_statements :
    (∃ (inner : Text) (query : Query),
      "Total = (SELECT a FROM b) - (SELECT c FROM d)".toList =
        "Total = ".toList ++ ('(' :: inner ++ [')']) ∧
      Field.parse "Total = (SELECT a FROM b) - (SELECT c FROM d)".toList =
        { name := "Total".toList, nested := some query } ∧
      query.sql true = .ok "SELECT a FROM b) -".toList ∧
      ¬Text.IsPair ('(' :: inner ++ [')'])) ∧
    ∃ (inner : Text) (membership : Membership) (query : Query),
      Membership.side? "x IN (SELECT a FROM b) AND y IN (SELECT c FROM d)".toList =
        some ('(' :: inner ++ [')']) ∧
      Membership.parse "x IN (SELECT a FROM b) AND y IN (SELECT c FROM d)".toList = .ok membership ∧
      membership.candidates = .query query ∧ query.sql true = .ok "SELECT a FROM b) AND".toList ∧
      ¬Text.IsPair ('(' :: inner ++ [')']) := by
  constructor
  · let inner := "SELECT a FROM b) - (SELECT c FROM d".toList
    let query : Query := {
      fields := [{ name := ['a'] }]
      tables := [{ name := "b)".toList, aliasName := some ['-'] }] }
    have hreads : Query.parse "SELECT a FROM b) - (SELECT c FROM d".toList = .ok query := by rfl
    have hunwraps : Field.Unwraps (Text.trim "Total = (SELECT a FROM b) - (SELECT c FROM d)".toList)
        "Total ".toList [' '] inner query := by
      refine ⟨by decide, by decide, ?_, hreads, rfl⟩
      exact (Text.splitTopLevel_eq_pair_iff rfl).1 (by decide)
    obtain ⟨-, hfield, -⟩ :=
      unwrapped_pair_matches_iff "Total = (SELECT a FROM b) - (SELECT c FROM d)".toList
    obtain ⟨hparse, hpair⟩ := hfield _ _ _ _ hunwraps
    have hmismatched : ¬Text.IsNested inner := by decide
    exact ⟨inner, query, rfl, hparse, rfl, mt hpair.1 hmismatched⟩
  · let inner := "SELECT a FROM b) AND y IN (SELECT c FROM d".toList
    let query : Query := {
      fields := [{ name := ['a'] }]
      tables := [{ name := "b)".toList, aliasName := some "AND".toList }] }
    have hside : Membership.side? "x IN (SELECT a FROM b) AND y IN (SELECT c FROM d)".toList =
        some ('(' :: inner ++ [')']) := by decide
    obtain ⟨-, -, -, hmembership⟩ :=
      unwrapped_pair_matches_iff "x IN (SELECT a FROM b) AND y IN (SELECT c FROM d)".toList
    obtain ⟨hread, hpair⟩ := hmembership inner hside
    have hreads : Query.parse "SELECT a FROM b) AND y IN (SELECT c FROM d".toList = .ok query := by rfl
    obtain ⟨membership, hparse, hcandidates⟩ := (hread query).2 ⟨by decide, hreads⟩
    have hmismatched : ¬Text.IsNested inner := by decide
    exact ⟨inner, membership, query, hside, hparse, hcandidates, rfl, mt hpair.1 hmismatched⟩

end SqlSelect
