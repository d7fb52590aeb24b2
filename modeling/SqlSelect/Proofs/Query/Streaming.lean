import SqlSelect.Query.Stream
import SqlSelect.Proofs.Query.Reached
import SqlSelect.Proofs.Text.Joining

/-!
Writing piece by piece comes to the text that is put together from the parts. Main statement: there
is a rendering exactly if every query that is reached is complete, and otherwise the failure is that
of the first one that is not, whatever was captured on the way to it.
-/

set_option autoImplicit false
set_option relaxedAutoImplicit false

namespace SqlSelect

open Writing

theorem Writing.bind_apply {α β : Type} (first : Writing α) (next : α → Writing β) (sink : Sink) :
    (first >>= next) sink = match first sink with
      | (some a, sink) => next a sink
      | (none, sink) => (none, sink) := by
  cases hfirst : first sink with
  | mk result after =>
    cases result with
    | none =>
      simp only [bind, OptionT.bind, OptionT.mk, StateT.bind, hfirst]
      rfl
    | some a => simp [bind, OptionT.bind, OptionT.mk, StateT.bind, hfirst]

/-- With the flag given, writing adds the text to the sink and leaves the rest of it alone, or fails
and leaves the cause there. -/
def Streams (ignoresEmpty : Bool) (writing : Writing Unit) (result : Except SqlError Text) : Prop :=
  ∀ sink : Sink, sink.ignoresEmpty = ignoresEmpty →
    match result with
    | .ok text => writing sink = (some (), { sink with written := sink.written ++ text })
    | .error cause => ∃ written, writing sink = (none, { sink with written, failure := some cause })

namespace Streams

variable {flag : Bool} {writing next : Writing Unit} {result after : Except SqlError Text}

theorem nothing : Streams flag (pure ()) (pure []) := by
  intro sink _
  have hnone : sink.written ++ [] = sink.written := List.append_nil _
  exact congrArg (fun written => (some (), { sink with written })) hnone.symm

theorem put (text : Text) : Streams flag (Writing.put text) (pure text) := fun _ _ => rfl

theorem append (hfirst : Streams flag writing result) (hnext : Streams flag next after) :
    Streams flag (do writing; next)
      (do let front ← result; let back ← after; return front ++ back) := by
  intro sink hsink
  have hwriting := hfirst sink hsink
  rw [Writing.bind_apply]
  cases result with
  | error cause =>
    obtain ⟨written, hwritten⟩ := hwriting
    exact ⟨written, by rw [hwritten]⟩
  | ok front =>
    have hmore := hnext { sink with written := sink.written ++ front } hsink
    rw [hwriting]
    cases after with
    | error cause =>
      obtain ⟨written, hwritten⟩ := hmore
      exact ⟨written, hwritten⟩
    | ok back =>
      simp only [List.append_assoc] at hmore
      exact hmore

private theorem captureWith {inner : Bool} {rest : Text → Writing Unit}
    {tail : Text → Except SqlError Text} (hwriting : Streams inner writing result)
    (hrest : ∀ text, Streams flag (rest text) (tail text)) :
    Streams flag (Writing.captureWith inner writing >>= rest) (result >>= tail) := by
  intro sink hsink
  have hinner := hwriting { ignoresEmpty := inner } rfl
  rw [Writing.bind_apply, Writing.captureWith]
  cases result with
  | error cause =>
    obtain ⟨written, hwritten⟩ := hinner
    exact ⟨sink.written, by rw [hwritten]; rfl⟩
  | ok text =>
    rw [hinner]
    exact hrest text sink hsink

theorem capture {rest : Text → Writing Unit} {tail : Text → Except SqlError Text}
    (hwriting : Streams flag writing result) (hrest : ∀ text, Streams flag (rest text) (tail text)) :
    Streams flag (Writing.capture writing >>= rest) (result >>= tail) := by
  intro sink hsink
  have hflag : (Writing.capture writing >>= rest) sink =
      (Writing.captureWith flag writing >>= rest) sink := by
    rw [Writing.bind_apply, Writing.bind_apply, ← hsink]
    rfl
  rw [hflag]
  exact captureWith hwriting hrest sink hsink

private theorem ofFlag {writing : Bool → Writing Unit} (h : Streams flag (writing flag) result) :
    Streams flag (Writing.ignoresEmpty >>= writing) result := by
  intro sink hsink
  have hflag : (Writing.ignoresEmpty >>= writing) sink = writing flag sink := by
    rw [Writing.bind_apply, ← hsink]
    rfl
  rw [hflag]
  exact h sink hsink

private theorem separate (separator : Text) (first : Bool) :
    Streams flag (Writing.separate separator first) (pure (if first then [] else separator)) := by
  cases first with
  | true => exact nothing
  | false => exact put separator

private theorem clause (phrase content : Text) :
    Streams flag (Writing.clause phrase content) (pure (clauseText phrase content)) := by
  rw [Writing.clause, clauseText]
  split
  · exact nothing
  · exact (put phrase).append (put content)

theorem render_eq (h : Streams false writing result) :
    Writing.render writing = result.mapError .lacking := by
  have hempty := h {} rfl
  rw [Writing.render]
  cases result with
  | error cause =>
    obtain ⟨written, hwritten⟩ := hempty
    rw [hwritten]
    rfl
  | ok text =>
    rw [hempty]
    rfl

end Streams

def Text.joinFrom (separator : Text) (first : Bool) (entries : List Text) : Text :=
  if first then Text.joinWith separator entries else entries.flatMap (separator ++ ·)

private theorem Text.joinFrom_nil (separator : Text) (first : Bool) :
    Text.joinFrom separator first [] = [] := by
  cases first <;> rfl

theorem Text.joinFrom_cons (separator : Text) (first : Bool) (entry : Text) (rest : List Text) :
    Text.joinFrom separator first (entry :: rest) =
      (if first then [] else separator) ++ (entry ++ Text.joinFrom separator false rest) := by
  cases first with
  | true => exact Text.joinWith_eq_flatMap separator entry rest
  | false => exact List.append_assoc separator entry _

namespace Streams

variable {flag : Bool} {writing next : Writing Unit} {result after : Except SqlError Text}
  {entries : Except SqlError (List Text)}

theorem of_eq (h : Streams flag writing result) (hsame : result = after) :
    Streams flag writing after := hsame ▸ h

private theorem entry (separator : Text) (first : Bool) (hentry : Streams flag writing result)
    (hothers : Streams flag next (do let texts ← entries; return Text.joinFrom separator false texts)) :
    Streams flag (do Writing.separate separator first; writing; next)
      (do
        let texts ← (do let text ← result; let others ← entries; return text :: others)
        return Text.joinFrom separator first texts) := by
  refine ((separate separator first).append (hentry.append hothers)).of_eq ?_
  simp only [bind_assoc, pure_bind, Text.joinFrom_cons]

private theorem require {tables : List TableRef} {selectsAll : Bool} {fields : List Field}
    (hnext : Streams flag next after) :
    Streams flag (do requireParts tables selectsAll fields; next)
      (do completeness tables selectsAll fields; after) := by
  rw [requireParts, completeness]
  cases tables.isEmpty with
  | true => exact fun sink _ => ⟨sink.written, rfl⟩
  | false =>
    cases !selectsAll && fields.isEmpty with
    | true => exact fun sink _ => ⟨sink.written, rfl⟩
    | false => exact hnext

theorem projection (selectsAll : Bool)
    (hfields : Streams flag writing
      (do let texts ← entries; return Text.joinFrom Phrase.comma true texts)) :
    Streams flag (Writing.starOr selectsAll writing)
      (do let texts ← starOr selectsAll entries; return Text.joinWith Phrase.comma texts) := by
  cases selectsAll with
  | true => exact put ['*']
  | false => exact hfields

theorem each {α : Type} (writeEach : Bool → List α → Writing Unit) {write : α → Writing Unit}
    (sql : α → Text) {separator : Text} (hnil : ∀ first, writeEach first [] = pure ())
    (hcons : ∀ first a rest, writeEach first (a :: rest) =
      (do Writing.separate separator first; write a; writeEach false rest))
    (hwrite : ∀ a, Streams flag (write a) (pure (sql a))) (first : Bool) (list : List α) :
    Streams flag (writeEach first list) (pure (Text.joinFrom separator first (list.map sql))) := by
  induction list generalizing first with
  | nil =>
    rw [hnil, List.map_nil, Text.joinFrom_nil]
    exact nothing
  | cons a rest ih =>
    have hothers : Streams flag (writeEach false rest)
      (do
        let texts ← pure (rest.map sql)
        return Text.joinFrom separator false texts) := ih false
    rw [hcons]
    exact entry separator first (hwrite a) hothers

theorem tables (first : Bool) (tables : List TableRef) :
    Streams flag (TableRef.writeEach first tables)
      (pure (Text.joinFrom Phrase.comma first (tables.map TableRef.sql))) :=
  each TableRef.writeEach TableRef.sql (fun _ => rfl) (fun _ _ _ => rfl)
    (fun table => put table.sql) first tables

theorem joins {joins : List Join}
    (h : Streams flag (Join.writeEach true joins)
      (do let texts ← Join.sqls joins; return Text.joinFrom [' '] true texts)) :
    Streams flag (Writing.behind [' '] (!joins.isEmpty) (Join.writeEach true joins))
      (do let texts ← Join.sqls joins; return joinsText texts) := by
  cases joins with
  | nil => exact nothing
  | cons join rest =>
    refine ((put [' ']).append h).of_eq ?_
    simp only [Join.sqls, bind_assoc, pure_bind, Text.joinFrom, if_true, Text.joinWith_eq_flatMap,
      joinsText, List.flatMap_cons]
    rfl

private theorem groups {groups : List Field}
    (h : Streams flag (Field.writeEach true groups)
      (do let texts ← Field.sqls groups; return Text.joinFrom Phrase.comma true texts)) :
    Streams flag (Writing.behind Phrase.groups (!groups.isEmpty) (Field.writeEach true groups))
      (do let texts ← Field.sqls groups; return groupsText texts) := by
  cases groups with
  | nil => exact nothing
  | cons field rest =>
    refine ((put Phrase.groups).append h).of_eq ?_
    simp only [Field.sqls, bind_assoc, pure_bind]
    rfl

private theorem sorts (ordered : Bool) {sorts : List SortKey}
    (h : Streams flag (SortKey.writeEach true true sorts)
      (do let texts ← SortKey.sqls true sorts; return Text.joinFrom Phrase.comma true texts)) :
    Streams flag
      (Writing.behind Phrase.sorts (ordered && !sorts.isEmpty) (SortKey.writeEach true true sorts))
      (do let texts ← entriesIf ordered (SortKey.sqls true sorts); return sortsText texts) := by
  cases ordered with
  | false => exact nothing
  | true =>
    cases sorts with
    | nil => exact nothing
    | cons key rest =>
      refine ((put Phrase.sorts).append h).of_eq ?_
      simp only [entriesIf, if_true, SortKey.sqls, bind_assoc, pure_bind]
      rfl

end Streams

mutual

theorem Field.streams (flag withTable : Bool) (field : Field) :
    Streams flag (field.write withTable) (field.sql withTable) :=
  match field with
  | ⟨name, table, _, nested⟩ => by
    rw [Field.write, Field.sql]
    exact (Streams.put _).append (Query.streams_nested flag nested)
termination_by structural field

private theorem Query.streams_nested (flag : Bool) (query : Option Query) :
    Streams flag (Query.writeNested query) (Query.nestedSql query) :=
  match query with
  | none => Streams.nothing
  | some query => by
    rw [Query.writeNested, Query.nestedSql]
    refine ((Streams.put _).append (Streams.capture (Query.streams flag true query) fun text =>
      (Streams.put text).append (Streams.put [')']))).of_eq ?_
    simp only [bind_assoc, pure_bind, List.append_assoc]
termination_by structural query

private theorem Field.streams_each (flag first : Bool) (fields : List Field) :
    Streams flag (Field.writeEach first fields)
      (do let texts ← Field.sqls fields; return Text.joinFrom Phrase.comma first texts) :=
  match fields with
  | [] => by
    rw [Field.writeEach, Field.sqls, pure_bind, Text.joinFrom_nil]
    exact Streams.nothing
  | field :: rest => by
    rw [Field.writeEach, Field.sqls]
    exact Streams.entry _ first (Field.streams flag true field) (Field.streams_each flag false rest)
termination_by structural fields

theorem Field.streams_eachSelected (flag first : Bool) (fields : List Field) :
    Streams flag (Field.writeEachSelected first fields)
      (do let texts ← Field.selectSqls fields; return Text.joinFrom Phrase.comma first texts) :=
  match fields with
  | [] => by
    rw [Field.writeEachSelected, Field.selectSqls, pure_bind, Text.joinFrom_nil]
    exact Streams.nothing
  | field :: rest => by
    have hentry := (Field.streams flag true field).append (Streams.put (aliasSuffix field.aliasName))
    have hothers := Field.streams_eachSelected flag false rest
    rw [Field.writeEachSelected, Field.selectSqls]
    have hlist := Streams.entry Phrase.comma first hentry hothers
    simp only [bind_assoc, pure_bind] at hlist ⊢
    exact hlist
termination_by structural fields

private theorem Comparison.streams (flag : Bool) (comparison : Comparison) :
    Streams flag comparison.write (comparison.sql flag) :=
  match comparison with
  | ⟨field, comparator, value, quoted, parameter⟩ => by
    rw [Comparison.write, Comparison.sql]
    refine Streams.ofFlag ?_
    split
    · exact Streams.nothing
    · exact (Field.streams flag true field).append (Streams.put _)
termination_by structural comparison

private theorem Candidates.streams (flag : Bool) (candidates : Candidates) :
    Streams flag candidates.write candidates.sql :=
  match candidates with
  | .values bundle => Streams.put bundle.sql
  | .query nested => by
    rw [Candidates.write, Candidates.sql]
    exact Query.streams flag false nested
termination_by structural candidates

theorem Membership.streams (flag : Bool) (membership : Membership) :
    Streams flag membership.write membership.sql :=
  match membership with
  | ⟨field, candidates, negated⟩ => by
    rw [Membership.write, Membership.sql]
    split
    · exact Streams.nothing
    · have hinner := (Candidates.streams flag candidates).append (Streams.put [')'])
      refine ((Field.streams flag true field).append ((Streams.put _).append hinner)).of_eq ?_
      simp only [bind_assoc, pure_bind, List.append_assoc]
termination_by structural membership

theorem Condition.streams (flag : Bool) (condition : Condition) :
    Streams flag condition.write (condition.sql flag) :=
  match condition with
  | .comparison comparison => by
    rw [Condition.write, Condition.sql]
    exact Comparison.streams flag comparison
  | .raw text => by
    rw [Condition.write, Condition.sql]
    exact Streams.put _
  | .membership membership => by
    rw [Condition.write, Condition.sql]
    exact Membership.streams flag membership
  | .group connective members => by
    rw [Condition.write, Condition.sql]
    exact Condition.streams_members flag connective true members
termination_by structural condition

private theorem Condition.streams_members (flag : Bool) (connective : Connective) (first : Bool)
    (members : List Condition) :
    Streams flag (Condition.writeMembers connective first members)
      (do
        let texts ← Condition.memberSqls flag members
        return Text.joinFrom (' ' :: connective.sql ++ [' ']) first texts) :=
  match members with
  | [] => by
    rw [Condition.writeMembers, Condition.memberSqls, pure_bind, Text.joinFrom_nil]
    exact Streams.nothing
  | member :: rest => by
    rw [Condition.writeMembers, Condition.memberSqls]
    simp only [bind_assoc, pure_bind]
    refine Streams.capture (Condition.streams flag member) fun text => ?_
    cases text.isEmpty with
    | true => exact Condition.streams_members flag connective first rest
    | false =>
      have hothers := Condition.streams_members flag connective false rest
      refine (Streams.entry _ first (Streams.put (member.enclose text)) hothers).of_eq ?_
      simp only [bind_assoc, pure_bind]
      rfl
termination_by structural members

theorem Condition.streams_clause (flag ignoresEmpty : Bool) (phrase : Text)
    (condition : Option Condition) :
    Streams flag (Condition.writeClause ignoresEmpty phrase condition)
      (Condition.clauseSql ignoresEmpty phrase condition) :=
  match condition with
  | none => Streams.nothing
  | some condition => by
    rw [Condition.writeClause, Condition.clauseSql]
    exact Streams.captureWith (Condition.streams ignoresEmpty condition) fun text =>
      Streams.clause phrase text
termination_by structural condition

private theorem Join.streams (flag : Bool) (join : Join) : Streams flag join.write join.sql :=
  match join with
  | ⟨kind, table, localField, foreignField⟩ => by
    have hsides := (Field.streams flag true localField).append
      ((Streams.put Phrase.equals).append (Field.streams flag true foreignField))
    rw [Join.write, Join.sql]
    refine ((Streams.put _).append ((Streams.put _).append
      ((Streams.put Phrase.on).append hsides))).of_eq ?_
    simp only [bind_assoc, pure_bind, List.append_assoc]
    rfl
termination_by structural join

theorem Join.streams_each (flag first : Bool) (joins : List Join) :
    Streams flag (Join.writeEach first joins)
      (do let texts ← Join.sqls joins; return Text.joinFrom [' '] first texts) :=
  match joins with
  | [] => by
    rw [Join.writeEach, Join.sqls, pure_bind, Text.joinFrom_nil]
    exact Streams.nothing
  | join :: rest => by
    rw [Join.writeEach, Join.sqls]
    exact Streams.entry _ first (Join.streams flag join) (Join.streams_each flag false rest)
termination_by structural joins

private theorem SortKey.streams (flag withTable : Bool) (key : SortKey) :
    Streams flag (key.write withTable) (key.sql withTable) :=
  match key with
  | ⟨field, direction⟩ => by
    rw [SortKey.write, SortKey.sql]
    exact (Field.streams flag withTable field).append (Streams.put _)
termination_by structural key

theorem SortKey.streams_each (flag withTable first : Bool) (keys : List SortKey) :
    Streams flag (SortKey.writeEach withTable first keys)
      (do let texts ← SortKey.sqls withTable keys; return Text.joinFrom Phrase.comma first texts) :=
  match keys with
  | [] => by
    rw [SortKey.writeEach, SortKey.sqls, pure_bind, Text.joinFrom_nil]
    exact Streams.nothing
  | key :: rest => by
    rw [SortKey.writeEach, SortKey.sqls]
    exact Streams.entry _ first (SortKey.streams flag withTable key)
      (SortKey.streams_each flag withTable false rest)
termination_by structural keys

theorem Query.streams (flag ordered : Bool) (query : Query) :
    Streams flag (query.write ordered) (query.sql ordered) :=
  match query with
  | ⟨fields, selectsAll, into, tables, joins, filter, groups, having, sorts, top, ignoresEmpty⟩ => by
    have hsorts := (Streams.sorts ordered (SortKey.streams_each flag true true sorts))
    have hhaving := (Condition.streams_clause flag ignoresEmpty Phrase.having having).append hsorts
    have hgroups := (Streams.groups (Field.streams_each flag true groups)).append hhaving
    have hfilter := (Condition.streams_clause flag ignoresEmpty Phrase.filter filter).append hgroups
    have hjoins := (Streams.joins (Join.streams_each flag true joins)).append hfilter
    have htables := (Streams.put Phrase.tables).append ((Streams.tables true tables).append hjoins)
    have hinto := (Streams.put (intoText into)).append htables
    have hprojection :=
      (Streams.projection selectsAll (Field.streams_eachSelected flag true fields)).append hinto
    have hstatement := (Streams.put Phrase.select).append ((Streams.put (topText top)).append hprojection)
    rw [Query.write, Query.sql]
    refine (Streams.require hstatement).of_eq ?_
    simp only [bind_assoc, pure_bind, List.append_assoc, tablesText]
    rfl
termination_by structural query

end

namespace Query

/-- A rendering is the text of the query, and a failure is what that text fails with. -/
theorem render_eq_sql (ordered : Bool) (query : Query) :
    query.render ordered = (query.sql ordered).mapError .lacking :=
  (Query.streams false ordered query).render_eq

/-- A statement is rendered exactly if every query that is reached, in it and in the parts that are
not left out, is complete. Otherwise the failure is that of the first one that is not: no table
comes before no field. Writing itself never fails. -/
theorem render_fails_at_first_incomplete (ordered : Bool) (query : Query) :
    ((∃ text, query.render ordered = .ok text) ↔
      ∀ inner ∈ query.reached ordered, inner.isComplete = true) ∧
    (∀ inner, (query.reached ordered).find? (!·.isComplete) = some inner →
      query.render ordered =
        .error (.lacking (if inner.tables.isEmpty then .noTables else .noFields))) ∧
    query.render ordered ≠ .error .format ∧
    query.render ordered = (query.sql ordered).mapError .lacking := by
  have hsettled := Query.isSettledBy ordered query
  rw [IsSettledBy, forM_requireComplete] at hsettled
  rw [render_eq_sql]
  cases hfound : (query.reached ordered).find? (!·.isComplete) with
  | none =>
    have hcomplete : ∀ inner ∈ query.reached ordered, inner.isComplete = true := by
      intro inner hinner
      simpa using List.find?_eq_none.1 hfound inner hinner
    rw [hfound] at hsettled
    cases hsql : query.sql ordered with
    | error cause =>
      rw [hsql] at hsettled
      exact Except.noConfusion rfl rfl (heq_of_eq hsettled)
    | ok text =>
      refine ⟨⟨fun _ => hcomplete, fun _ => ⟨text, rfl⟩⟩, ?_, ?_, rfl⟩
      · rintro inner ⟨⟩
      · rintro ⟨⟩
  | some first =>
    have hincomplete : first.isComplete = false := by simpa using List.find?_some hfound
    have hreached := List.mem_of_find?_eq_some hfound
    rw [hfound] at hsettled
    cases hsql : query.sql ordered with
    | ok text =>
      rw [hsql] at hsettled
      exact Except.noConfusion rfl rfl (heq_of_eq hsettled)
    | error cause =>
      rw [hsql] at hsettled
      obtain rfl := Except.error.inj hsettled
      refine ⟨⟨?_, ?_⟩, ?_, ?_, rfl⟩
      · rintro ⟨text, ⟨⟩⟩
      · intro hall
        rw [hall first hreached] at hincomplete
        exact Bool.noConfusion hincomplete
      · intro inner hinner
        obtain rfl := Option.some.inj hinner
        rfl
      · rintro ⟨⟩

end Query

end SqlSelect
