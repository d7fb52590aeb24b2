import SqlSelect.Query.Edit
import SqlSelect.Proofs.Query.FilterText
import SqlSelect.Proofs.Query.Written

/-!
A condition added to a filter that was read from a text. Main statement: `OR` always widens the
filter to what one of both admits, and `AND` narrows it to what both admit exactly if no alternative
that stands apart from the connective admits more.
-/

set_option autoImplicit false
set_option relaxedAutoImplicit false

namespace SqlSelect

namespace FilterText

/-- Whether an alternative holds that has another one behind it. -/
def holdsEarlier (truth : Text → Bool) (text : Text) : Bool :=
  (alternatives text).dropLast.any (allHold truth)

/-- Whether an alternative holds that has another one in front of it. -/
def holdsLater (truth : Text → Bool) (text : Text) : Bool :=
  (alternatives text).tail.any (allHold truth)

private theorem holds_or {left : Text} (h : left.depth = 0) (right : Text) (truth : Text → Bool) :
    holds truth (joined .or left right) = (holds truth left || holds truth right) := by
  rw [holds_eq, alternatives_or h, List.any_append, holds_eq, holds_eq]

private theorem holds_and_iff {left : Text} (h : left.depth = 0) (right : Text)
    (truth : Text → Bool) :
    holds truth (joined .and left right) = (holds truth left && holds truth right) ↔
      (holdsEarlier truth left = true → holds truth right = true) ∧
        (holdsLater truth right = true → holds truth left = true) := by
  obtain ⟨front, last, first, back, hleft, hright, hjoined⟩ := @alternatives_and left right h
  have hmiddle : allHold truth (last ++ first) = (allHold truth last && allHold truth first) :=
    List.all_append
  have hearlier : holdsEarlier truth left = front.any (allHold truth) := by
    rw [holdsEarlier, hleft, List.dropLast_concat]
  have hlater : holdsLater truth right = back.any (allHold truth) := by
    rw [holdsLater, hright, List.tail_cons]
  have hwhole : holds truth (joined .and left right) =
      (holdsEarlier truth left || (allHold truth last && allHold truth first ||
        holdsLater truth right)) := by
    rw [holds_eq, hjoined, List.any_append, List.any_cons, hmiddle, hearlier, hlater]
  have hfirst : holds truth left = (holdsEarlier truth left || allHold truth last) := by
    rw [holds_eq, hleft, List.any_append, hearlier, List.any_cons, List.any_nil, Bool.or_false]
  have hsecond : holds truth right = (allHold truth first || holdsLater truth right) := by
    rw [holds_eq, hright, List.any_cons, hlater]
  rw [hwhole, hfirst, hsecond]
  cases holdsEarlier truth left <;> cases allHold truth last <;> cases allHold truth first <;>
    cases holdsLater truth right <;> decide

private theorem holds_enclose {condition : Condition} {text : Text}
    (h : condition.isCompound = true → text.IsNested) (truth : Text → Bool) :
    holds truth (condition.enclose text) = holds truth text := by
  rw [Condition.enclose]
  split
  · next hcompound => exact holds_parentheses (h hcompound) truth
  · rfl

private theorem holdsLater_enclose {condition : Condition} {text : Text}
    (h : condition.isCompound = true → text.IsNested) (truth : Text → Bool) :
    holdsLater truth (condition.enclose text) =
      (!condition.isCompound && holdsLater truth text) := by
  rw [Condition.enclose]
  split
  · next hcompound =>
    obtain ⟨inner, hone, -⟩ := alternatives_parentheses (h hcompound)
    rw [holdsLater, hone, hcompound]
    rfl
  · next hsimple =>
    rw [Bool.not_eq_true] at hsimple
    rw [hsimple, Bool.not_false, Bool.true_and]

end FilterText

namespace Query

open FilterText

private theorem filter_of_parseTo {levels : Nat} {statement : Text} {query : Query}
    (h : parseTo levels statement = .ok query) :
    ∃ text, query.filter = Condition.ofText? text := by
  have hclauses {nested : Text → Option Query} (h : parseWith nested statement = .ok query) :
      ∃ text, query.filter = Condition.ofText? text := by
    obtain ⟨clauses, -, hquery⟩ := bind_eq_ok.1 h
    obtain ⟨joins, -, hquery⟩ := bind_eq_ok.1 hquery
    rw [← pure_eq_ok.1 hquery]
    exact ⟨clauses.filter, rfl⟩
  cases levels with
  | zero => exact hclauses h
  | succ levels => exact hclauses h

private theorem filterSql_addFilter {query : Query} {content filter added : Text}
    {condition : Condition}
    {ignoresEmpty : Bool} (hcontent : query.filter = some (.raw content))
    (hfilter : query.filterSql ignoresEmpty = .ok (Phrase.filter ++ filter))
    (hadded : condition.sql ignoresEmpty = .ok added) (hne : added ≠ []) (connective : Connective) :
    (query.addFilter connective condition).filterSql ignoresEmpty =
      .ok (Phrase.filter ++ joined connective filter (condition.enclose added)) := by
  have hraw : (Condition.raw content).sql ignoresEmpty = .ok (Text.trim content) := by
    rw [Condition.sql]
    rfl
  have htrim : clauseText Phrase.filter (Text.trim content) = Phrase.filter ++ filter := by
    rw [filterSql, hcontent, Condition.clauseSql_of_sql hraw] at hfilter
    exact Except.ok.inj hfilter
  have hspoken : Text.trim content ≠ [] := by
    intro hnil
    rw [hnil] at htrim
    exact absurd (List.append_eq_nil_iff.1 htrim.symm).1 (by decide)
  obtain rfl : Text.trim content = filter := by
    rw [clauseText, if_neg (by simpa using hspoken)] at htrim
    exact List.append_cancel_left htrim
  have hlast : Condition.memberSqls ignoresEmpty [condition] = .ok [condition.enclose added] :=
    Condition.memberSqls_cons_eq_ok.2 ⟨added, [], hadded, rfl, by simp [hne]⟩
  have hmembers : Condition.memberSqls ignoresEmpty [.raw content, condition] =
      .ok [Text.trim content, condition.enclose added] :=
    Condition.memberSqls_cons_eq_ok.2 ⟨_, _, hraw, hlast, by simp [hspoken, Condition.enclose,
      Condition.isCompound]⟩
  have hgroup : (Condition.group connective [.raw content, condition]).sql ignoresEmpty =
      .ok (joined connective (Text.trim content) (condition.enclose added)) :=
    Condition.sql_group_eq_ok.2 ⟨_, hmembers, by simp [Text.joinWith_cons_cons, joined]⟩
  have hcombined : (query.addFilter connective condition).filter =
      some (.group connective [.raw content, condition]) := by
    rw [addFilter, hcontent]
    rfl
  rw [filterSql, hcombined, Condition.clauseSql_of_sql hgroup, clauseText,
    if_neg (by simp [joined])]

/-- A condition `c` added to the filter `w` of a statement that was read. With `OR` the filter
admits what `w` or `c` admits. With `AND` it admits what both admit exactly if `c` holds wherever
an alternative of `w` holds that is not next to the `AND`, and `w` wherever such an alternative of
`c` does; only a compound `c` is protected by parentheses. -/
theorem addFilter_admits {statement filter added : Text} {query : Query} {condition : Condition}
    (hquery : Query.parse statement = .ok query)
    (hfilter : query.filterSql query.ignoresEmpty = .ok (Phrase.filter ++ filter))
    (hclosed : filter.depth = 0)
    (hadded : condition.sql query.ignoresEmpty = .ok added) (hne : added ≠ [])
    (hnested : condition.isCompound = true → added.IsNested) :
    ∃ narrowed widened,
      (query.andFilter condition).filterSql query.ignoresEmpty = .ok (Phrase.filter ++ narrowed) ∧
      (query.orFilter condition).filterSql query.ignoresEmpty = .ok (Phrase.filter ++ widened) ∧
      ∀ truth, holds truth widened = (holds truth filter || holds truth added) ∧
        (holds truth narrowed = (holds truth filter && holds truth added) ↔
          (holdsEarlier truth filter = true → holds truth added = true) ∧
            (condition.isCompound = false → holdsLater truth added = true →
              holds truth filter = true)) := by
  obtain ⟨content, hcontent⟩ := filter_of_parseTo hquery
  have hkept : query.filter = some (.raw (Text.trim content)) := by
    rw [Condition.ofText?] at hcontent
    split at hcontent
    · rw [filterSql, hcontent] at hfilter
      exact absurd (List.append_eq_nil_iff.1 (Except.ok.inj hfilter).symm).1 (by decide)
    · exact hcontent
  refine ⟨_, _, filterSql_addFilter hkept hfilter hadded hne .and,
    filterSql_addFilter hkept hfilter hadded hne .or, fun truth => ⟨?_, ?_⟩⟩
  · rw [holds_or hclosed, holds_enclose hnested]
  · have hnarrowed := holds_and_iff hclosed (condition.enclose added) truth
    rw [holds_enclose hnested, holdsLater_enclose hnested] at hnarrowed
    rw [hnarrowed]
    cases condition.isCompound <;> simp

/-- With two alternatives in the filter, `AND` admits rows that the added condition excludes. -/
theorem addFilter_admits_more_of_alternatives :
    ∃ query narrowed widened,
      Query.parse "SELECT * FROM t WHERE a = 1 OR b = 2".toList = .ok query ∧
      (query.andFilter (.raw "c = 3".toList)).filterSql query.ignoresEmpty =
        .ok (Phrase.filter ++ narrowed) ∧
      (query.orFilter (.raw "c = 3".toList)).filterSql query.ignoresEmpty =
        .ok (Phrase.filter ++ widened) ∧
      holds (· == "a = 1".toList) narrowed ≠
        (holds (· == "a = 1".toList) "a = 1 OR b = 2".toList &&
          holds (· == "a = 1".toList) "c = 3".toList) := by
  have hquery : Query.parse "SELECT * FROM t WHERE a = 1 OR b = 2".toList = .ok {
      selectsAll := true
      tables := [{ name := ['t'] }]
      filter := some (.raw "a = 1 OR b = 2".toList) } := rfl
  obtain ⟨narrowed, widened, hand, hor, hadmits⟩ := @addFilter_admits _ "a = 1 OR b = 2".toList
    "c = 3".toList _ (.raw "c = 3".toList) hquery rfl (by decide) rfl (by decide)
    (fun hcompound => absurd hcompound (by decide))
  refine ⟨_, narrowed, widened, hquery, hand, hor, fun hsame => ?_⟩
  have hadded := ((hadmits (· == "a = 1".toList)).2.1 hsame).1 rfl
  rw [holds_eq] at hadded
  exact absurd hadded (by decide)

end Query

end SqlSelect
