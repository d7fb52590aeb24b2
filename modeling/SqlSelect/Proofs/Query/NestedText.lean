import SqlSelect.Proofs.Query.PageStreaming
import SqlSelect.Proofs.Text.Spacing

/-!
Nested queries in what is written. The queries nested in a part of a statement are listed in the
order in which writing comes to them, each with the text that opens it. Main statement: what is
written holds the listed queries one behind the other, and each stands between its opening and `)`
as it is rendered alone, whatever the flag of the sink.
-/

set_option autoImplicit false
set_option relaxedAutoImplicit false

namespace SqlSelect

/-- A query nested in something written: what opens it, and whether it keeps its order. -/
structure NestedQuery where
  opening : Text
  ordered : Bool
  query : Query

/-- A text in which nested queries stand one behind the other, each between its opening and `)` as
it is rendered alone. -/
inductive Text.Nests : Text → List NestedQuery → Prop
  | plain (text : Text) : Nests text []
  | next {nested : NestedQuery} {rest : List NestedQuery} {inner behind : Text} (front : Text) :
    nested.query.render nested.ordered = .ok inner → Nests behind rest →
      Nests (front ++ (nested.opening ++ (inner ++ ')' :: behind))) (nested :: rest)

namespace Text.Nests

variable {front back text : Text} {nested others : List NestedQuery}

private theorem prepend (front : Text) (h : text.Nests nested) : (front ++ text).Nests nested := by
  cases h with
  | plain => exact plain _
  | next gap hinner hrest =>
    rw [← List.append_assoc]
    exact next (front ++ gap) hinner hrest

private theorem append (hfront : front.Nests nested) (hback : back.Nests others) :
    (front ++ back).Nests (nested ++ others) := by
  induction hfront with
  | plain text => exact hback.prepend text
  | next gap hinner hrest ih =>
    rw [List.append_assoc, List.append_assoc, List.append_assoc]
    exact next gap hinner ih

private theorem extend (h : text.Nests nested) (back : Text) : (text ++ back).Nests nested := by
  have hboth := h.append (plain back)
  rwa [List.append_nil] at hboth

private theorem eq_nil (h : text.Nests nested) (htext : text = []) : nested = [] := by
  cases h with
  | plain => rfl
  | next => simp at htext

end Text.Nests

private theorem NestedQuery.nests (nested : NestedQuery) {inner : Text}
    (h : nested.query.sql nested.ordered = .ok inner) :
    (nested.opening ++ (inner ++ [')'])).Nests [nested] := by
  have hrender : nested.query.render nested.ordered = .ok inner := by
    rw [Query.render_eq_sql, h]
    rfl
  exact .next [] hrender (.plain [])

/-! The queries nested in each part of a statement, in the order in which they are written. -/

def Field.nestedQueries (withTable : Bool) (field : Field) : List NestedQuery :=
  match field.nested with
  | none => []
  | some query => [⟨qualifiedName withTable field.table field.name ++ Phrase.nested, true, query⟩]

def Comparison.nestedQueries (ignoresEmpty : Bool) (comparison : Comparison) : List NestedQuery :=
  if ignoresEmpty && !hasContent comparison.value then [] else comparison.field.nestedQueries true

def Candidates.nestedQueries (opening : Text) : Candidates → List NestedQuery
  | .values _ => []
  | .query nested => [⟨opening, false, nested⟩]

def Membership.nestedQueries (membership : Membership) : List NestedQuery :=
  if membership.candidates.isEmpty then []
  else membership.field.nestedQueries true ++
    membership.candidates.nestedQueries (if membership.negated then Phrase.notIn else Phrase.isIn)

mutual

def Condition.nestedQueries (ignoresEmpty : Bool) : Condition → List NestedQuery
  | .comparison tested => tested.nestedQueries ignoresEmpty
  | .raw _ => []
  | .membership tested => tested.nestedQueries
  | .group _ members => Condition.nestedInMembers ignoresEmpty members
termination_by structural condition => condition

def Condition.nestedInMembers (ignoresEmpty : Bool) : List Condition → List NestedQuery
  | [] => []
  | member :: rest =>
    member.nestedQueries ignoresEmpty ++ Condition.nestedInMembers ignoresEmpty rest
termination_by structural members => members

end

/-- A membership test in a condition, alone or inside any nesting of groups. -/
inductive Condition.Tests (membership : Membership) : Condition → Prop
  | alone : Tests membership (.membership membership)
  | grouped {connective : Connective} {members : List Condition} {member : Condition} :
    member ∈ members → Tests membership member → Tests membership (.group connective members)

/-- No flag leaves out a query that a membership test looks into. -/
theorem Condition.Tests.mem_nestedQueries {field : Field} {query : Query} {negated : Bool}
    {condition : Condition} (h : condition.Tests ⟨field, .query query, negated⟩)
    (ignoresEmpty : Bool) :
    ⟨if negated then Phrase.notIn else Phrase.isIn, false, query⟩ ∈
      condition.nestedQueries ignoresEmpty := by
  induction h with
  | alone =>
    rw [Condition.nestedQueries]
    exact List.mem_append_right _ (List.mem_singleton_self _)
  | @grouped connective members member hmem _ ih =>
    rw [Condition.nestedQueries]
    induction members with
    | nil => cases hmem
    | cons first rest ihrest =>
      rw [Condition.nestedInMembers]
      rcases List.mem_cons.1 hmem with rfl | hrest
      · exact List.mem_append_left _ ih
      · exact List.mem_append_right _ (ihrest hrest)

def Condition.nestedInClause (ignoresEmpty : Bool) : Option Condition → List NestedQuery
  | none => []
  | some condition => condition.nestedQueries ignoresEmpty

def Join.nestedQueries (join : Join) : List NestedQuery :=
  join.localField.nestedQueries true ++ join.foreignField.nestedQueries true

namespace Query

variable (query : Query)

def nestedInProjection : List NestedQuery :=
  if query.selectsAll then [] else query.fields.flatMap (Field.nestedQueries true)

def nestedInSources : List NestedQuery := query.joins.flatMap Join.nestedQueries

def nestedInFilter (ignoresEmpty : Bool) : List NestedQuery :=
  Condition.nestedInClause ignoresEmpty query.filter

def nestedInSorts (withTable : Bool) : List NestedQuery :=
  query.sorts.flatMap fun key => key.field.nestedQueries withTable

def nestedQueries (ordered : Bool) : List NestedQuery :=
  query.nestedInProjection ++ (query.nestedInSources ++
    (query.nestedInFilter query.ignoresEmpty ++ (query.groups.flatMap (Field.nestedQueries true) ++
      (Condition.nestedInClause query.ignoresEmpty query.having ++
        if ordered then query.nestedInSorts true else []))))

def nestedInCount : List NestedQuery :=
  if query.groups.isEmpty then query.nestedInSources ++ query.nestedInFilter true
  else query.nestedQueries false

def nestedInNumbered : List NestedQuery :=
  query.nestedInSorts true ++ (query.nestedInProjection ++
    (query.nestedInSources ++ query.nestedInFilter true))

def nestedInTotal (request : PageRequest) (column : List NestedQuery) : List NestedQuery :=
  if request.withTotal then column ++ query.nestedInCount else []

def nestedInPage (request : PageRequest) : List NestedQuery :=
  (if query.groups.isEmpty then query.nestedInNumbered
    else query.nestedQueries true ++ query.nestedInSorts false) ++ query.nestedInTotal request []

def nestedInNumberedGroups : List NestedQuery :=
  if query.groups.isEmpty then query.nestedInNumbered
  else query.nestedInSorts false ++ query.nestedQueries false

/-- The column stands at the beginning of its window and at the end. -/
def nestedInColumnWindow (field : Field) : List NestedQuery :=
  field.nestedQueries false ++ (query.nestedInNumberedGroups ++ field.nestedQueries false)

def nestedInPageByColumn (request : PageRequest) (field : Field) : List NestedQuery :=
  query.nestedQueries false ++ (field.nestedQueries false ++ (query.nestedInColumnWindow field ++
    (query.nestedInSorts false ++
      query.nestedInTotal request (field.nestedQueries query.groups.isEmpty))))

end Query

def Writable.nestedQueries (ignoresEmpty : Bool) : Writable → List NestedQuery
  | .field withTable column => column.nestedQueries withTable
  | .selected column => column.nestedQueries true
  | .condition tested => tested.nestedQueries ignoresEmpty
  | .statement ordered query => query.nestedQueries ordered
  | .count query _ => query.nestedInCount
  | .page query request => query.nestedInPage request
  | .pageByColumn query request column => query.nestedInPageByColumn request column

/-! Each part holds the queries that are nested in it. -/

private theorem Field.sql_nests {withTable : Bool} {field : Field} {text : Text}
    (h : field.sql withTable = .ok text) : text.Nests (field.nestedQueries withTable) := by
  rw [Field.nestedQueries]
  rcases Field.sql_eq_ok h with ⟨hnested, -⟩ | ⟨query, inner, hnested, hinner, rfl⟩
  · rw [hnested]
    exact .plain text
  · rw [hnested, List.append_assoc]
    exact NestedQuery.nests ⟨_, true, query⟩ hinner

private theorem Comparison.sql_nests {ignoresEmpty : Bool} {comparison : Comparison} {text : Text}
    (h : comparison.sql ignoresEmpty = .ok text) :
    text.Nests (comparison.nestedQueries ignoresEmpty) := by
  rw [Comparison.nestedQueries]
  rcases Comparison.sql_eq_ok h with ⟨hignores, hempty, -⟩ | ⟨hwritten, name, hname, rfl⟩
  · rw [hignores, hempty]
    exact .plain text
  · rw [hwritten]
    exact (Field.sql_nests hname).extend _

private theorem Candidates.sql_nests {opening text : Text} {candidates : Candidates}
    (h : candidates.sql = .ok text) :
    (opening ++ (text ++ [')'])).Nests (candidates.nestedQueries opening) := by
  cases candidates with
  | values bundle => exact .plain _
  | query nested =>
    rw [Candidates.sql] at h
    exact NestedQuery.nests ⟨opening, false, nested⟩ h

private theorem Membership.sql_nests {membership : Membership} {text : Text}
    (h : membership.sql = .ok text) : text.Nests membership.nestedQueries := by
  rw [Membership.nestedQueries]
  rcases Membership.sql_eq_ok h with ⟨hempty, -⟩ | ⟨hwritten, name, inner, hname, hinner, rfl⟩
  · rw [hempty]
    exact .plain text
  · rw [hwritten, List.append_assoc, List.append_assoc]
    exact (Field.sql_nests hname).append (Candidates.sql_nests hinner)

mutual

private theorem Condition.sql_nests {ignoresEmpty : Bool} (condition : Condition) {text : Text}
    (h : condition.sql ignoresEmpty = .ok text) :
    text.Nests (condition.nestedQueries ignoresEmpty) :=
  match condition with
  | .comparison _ => by
    rw [Condition.sql] at h
    rw [Condition.nestedQueries]
    exact Comparison.sql_nests h
  | .raw _ => by
    rw [Condition.nestedQueries]
    exact .plain text
  | .membership _ => by
    rw [Condition.sql] at h
    rw [Condition.nestedQueries]
    exact Membership.sql_nests h
  | .group connective members => by
    rw [Condition.sql] at h
    obtain ⟨texts, htexts, h⟩ := bind_eq_ok.1 h
    rw [← pure_eq_ok.1 h, Condition.nestedQueries]
    exact Condition.memberSqls_nest members htexts _ true
termination_by structural condition

private theorem Condition.memberSqls_nest {ignoresEmpty : Bool} (members : List Condition)
    {texts : List Text} (h : Condition.memberSqls ignoresEmpty members = .ok texts)
    (separator : Text) (first : Bool) :
    (Text.joinFrom separator first texts).Nests (Condition.nestedInMembers ignoresEmpty members) :=
  match members with
  | [] => by
    rw [Condition.nestedInMembers]
    exact .plain _
  | member :: rest => by
    rw [Condition.memberSqls] at h
    obtain ⟨text, htext, h⟩ := bind_eq_ok.1 h
    obtain ⟨others, hothers, h⟩ := bind_eq_ok.1 h
    have hmember := Condition.sql_nests member htext
    rw [← pure_eq_ok.1 h, Condition.nestedInMembers]
    -- whether a member is left out is known only from its text
    cases hempty : text.isEmpty with
    | true =>
      rw [hmember.eq_nil (List.isEmpty_iff.1 hempty), List.nil_append]
      exact Condition.memberSqls_nest rest hothers separator first
    | false =>
      have henclosed : (member.enclose text).Nests (member.nestedQueries ignoresEmpty) := by
        rw [Condition.enclose]
        split
        · exact (hmember.extend [')']).prepend ['(']
        · exact hmember
      have hrest := Condition.memberSqls_nest rest hothers separator false
      rw [if_neg Bool.false_ne_true, Text.joinFrom_cons]
      exact (henclosed.append hrest).prepend _
termination_by structural members

end

private theorem Condition.clauseSql_nests {ignoresEmpty : Bool} {phrase : Text}
    {condition : Option Condition} {text : Text}
    (h : Condition.clauseSql ignoresEmpty phrase condition = .ok text) :
    text.Nests (Condition.nestedInClause ignoresEmpty condition) := by
  cases condition with
  | none => exact .plain text
  | some condition =>
    rw [Condition.clauseSql] at h
    obtain ⟨content, hcontent, h⟩ := bind_eq_ok.1 h
    have hnests := Condition.sql_nests condition hcontent
    rw [← pure_eq_ok.1 h, clauseText]
    cases content with
    | nil => exact hnests
    | cons first rest => exact hnests.prepend phrase

private theorem Join.sql_nests {join : Join} {text : Text} (h : join.sql = .ok text) :
    text.Nests join.nestedQueries := by
  obtain ⟨kind, table, localField, foreignField⟩ := join
  rw [Join.sql] at h
  obtain ⟨left, hleft, h⟩ := bind_eq_ok.1 h
  obtain ⟨right, hright, h⟩ := bind_eq_ok.1 h
  rw [← pure_eq_ok.1 h]
  exact (((Field.sql_nests hleft).prepend _).extend _).append (Field.sql_nests hright)

private theorem Field.selectSql_nests {field : Field} {text : Text}
    (h : field.selectSql = .ok text) :
    text.Nests (field.nestedQueries true) := by
  rw [Field.selectSql] at h
  obtain ⟨name, hname, h⟩ := bind_eq_ok.1 h
  rw [← pure_eq_ok.1 h]
  exact (Field.sql_nests hname).extend _

private theorem SortKey.sql_nests {withTable : Bool} {key : SortKey} {text : Text}
    (h : key.sql withTable = .ok text) : text.Nests (key.field.nestedQueries withTable) := by
  obtain ⟨field, direction⟩ := key
  rw [SortKey.sql] at h
  obtain ⟨name, hname, h⟩ := bind_eq_ok.1 h
  rw [← pure_eq_ok.1 h]
  exact (Field.sql_nests hname).extend _

private theorem Text.nests_joinFrom {α : Type} {sql : α → Except SqlError Text}
    {sqls : List α → Except SqlError (List Text)} {nested : α → List NestedQuery}
    (hcons : ∀ entry rest, sqls (entry :: rest) = (do
      let text ← sql entry
      let others ← sqls rest
      return text :: others))
    (hnests : ∀ {entry text}, sql entry = .ok text → text.Nests (nested entry))
    {entries : List α} {texts : List Text} (h : sqls entries = .ok texts) (separator : Text)
    (first : Bool) : (Text.joinFrom separator first texts).Nests (entries.flatMap nested) := by
  induction entries generalizing texts first with
  | nil => exact .plain _
  | cons entry rest ih =>
    rw [hcons] at h
    obtain ⟨text, htext, h⟩ := bind_eq_ok.1 h
    obtain ⟨others, hothers, h⟩ := bind_eq_ok.1 h
    rw [← pure_eq_ok.1 h, Text.joinFrom_cons, List.flatMap_cons]
    exact ((hnests htext).append (ih hothers false)).prepend _

private theorem Text.nests_listed {phrase : Text} {texts : List Text} {nested : List NestedQuery}
    (h : (Text.joinFrom Phrase.comma true texts).Nests nested) :
    Text.Nests (if texts.isEmpty then [] else phrase ++ Text.joinWith Phrase.comma texts) nested := by
  cases texts with
  | nil => exact h
  | cons first rest => exact h.prepend phrase

private theorem Field.sqls_nest {fields : List Field} {texts : List Text}
    (h : Field.sqls fields = .ok texts) :
    (Text.joinFrom Phrase.comma true texts).Nests (fields.flatMap (Field.nestedQueries true)) :=
  Text.nests_joinFrom (fun _ _ => by rw [Field.sqls]) Field.sql_nests h Phrase.comma true

private theorem SortKey.sqls_nest {withTable : Bool} {keys : List SortKey} {texts : List Text}
    (h : SortKey.sqls withTable keys = .ok texts) :
    (Text.joinFrom Phrase.comma true texts).Nests
      (keys.flatMap fun key => key.field.nestedQueries withTable) :=
  Text.nests_joinFrom (fun _ _ => by rw [SortKey.sqls]) SortKey.sql_nests h Phrase.comma true

namespace Query

variable {query : Query} {text : Text}

private theorem projectionSql_nests (h : query.projectionSql = .ok text) :
    text.Nests query.nestedInProjection := by
  obtain ⟨texts, htexts, h⟩ := bind_eq_ok.1 h
  rw [← pure_eq_ok.1 h, nestedInProjection]
  cases hall : query.selectsAll with
  | true => exact .plain _
  | false =>
    rw [hall] at htexts
    have hcons : ∀ field rest, Field.selectSqls (field :: rest) = (do
        let text ← field.selectSql
        let others ← Field.selectSqls rest
        return text :: others) := by
      intro field rest
      simp only [Field.selectSqls, Field.selectSql, bind_assoc, pure_bind]
    exact Text.nests_joinFrom hcons Field.selectSql_nests htexts Phrase.comma true

private theorem sourcesSql_nests (h : query.sourcesSql = .ok text) :
    text.Nests query.nestedInSources := by
  obtain ⟨texts, htexts, h⟩ := bind_eq_ok.1 h
  rw [← pure_eq_ok.1 h]
  have hjoins := Text.nests_joinFrom (fun _ _ => by rw [Join.sqls]) Join.sql_nests htexts [' '] false
  exact hjoins.prepend _

private theorem sortsSql_nests {withTable : Bool} (h : query.sortsSql withTable = .ok text) :
    text.Nests (query.nestedInSorts withTable) := by
  obtain ⟨texts, htexts, h⟩ := bind_eq_ok.1 h
  rw [← pure_eq_ok.1 h]
  exact SortKey.sqls_nest htexts

private theorem sql_nests {ordered : Bool} (h : query.sql ordered = .ok text) :
    text.Nests (query.nestedQueries ordered) := by
  rw [sql_eq] at h
  obtain ⟨-, -, h⟩ := bind_eq_ok.1 h
  obtain ⟨projection, hprojection, h⟩ := bind_eq_ok.1 h
  obtain ⟨sources, hsources, h⟩ := bind_eq_ok.1 h
  obtain ⟨filter, hfilter, h⟩ := bind_eq_ok.1 h
  obtain ⟨groups, hgroups, h⟩ := bind_eq_ok.1 h
  obtain ⟨having, hhaving, h⟩ := bind_eq_ok.1 h
  obtain ⟨sorts, hsorts, h⟩ := bind_eq_ok.1 h
  have hlisted : (sortsText sorts).Nests (if ordered then query.nestedInSorts true else []) := by
    cases ordered with
    | false =>
      rw [← pure_eq_ok.1 hsorts]
      exact .plain _
    | true => exact Text.nests_listed (SortKey.sqls_nest hsorts)
  have hgrouped : (groupsText groups).Nests (query.groups.flatMap (Field.nestedQueries true)) :=
    Text.nests_listed (Field.sqls_nest hgroups)
  have hfiltered := (Condition.clauseSql_nests hfilter).append
    (hgrouped.append ((Condition.clauseSql_nests hhaving).append hlisted))
  have hselected := ((projectionSql_nests hprojection).extend (intoText query.into)).append
    ((sourcesSql_nests hsources).append hfiltered)
  rw [← pure_eq_ok.1 h, nestedQueries]
  simp only [List.append_assoc] at hselected ⊢
  exact (hselected.prepend _).prepend _

end Query

/-- Writing that, with the flag given, adds a text with the queries nested in it whenever it goes
through. -/
private def Writing.Nests (flag : Bool) (writing : Writing Unit) (nested : List NestedQuery) :
    Prop :=
  ∀ sink after : Sink, sink.ignoresEmpty = flag → writing sink = (some (), after) →
    ∃ text, after = { sink with written := sink.written ++ text } ∧ text.Nests nested

namespace Writing.Nests

variable {flag : Bool} {writing next : Writing Unit} {nested others : List NestedQuery}
  {result : Except SqlError Text}

private theorem of_streams (h : Streams flag writing result)
    (hnests : ∀ {text}, result = .ok text → text.Nests nested) : Writing.Nests flag writing nested := by
  intro sink after hflag hwritten
  obtain ⟨text, hresult, hafter⟩ := h.of_written hflag hwritten
  exact ⟨text, hafter, hnests hresult⟩

private theorem put {text : Text} (h : text.Nests nested) :
    Writing.Nests flag (Writing.put text) nested :=
  of_streams (Streams.put text) fun hresult => pure_eq_ok.1 hresult ▸ h

private theorem plain (text : Text) : Writing.Nests flag (Writing.put text) [] := put (.plain text)

private theorem append (hfirst : Writing.Nests flag writing nested)
    (hnext : Writing.Nests flag next others) :
    Writing.Nests flag (do writing; next) (nested ++ others) := by
  intro sink after hflag hwritten
  rw [Writing.bind_apply] at hwritten
  cases hwriting : writing sink with
  | mk outcome middle =>
    rw [hwriting] at hwritten
    cases outcome with
    | none => cases hwritten
    | some _ =>
      obtain ⟨front, rfl, hfront⟩ := hfirst sink middle hflag hwriting
      let between : Sink := { sink with written := sink.written ++ front }
      obtain ⟨back, hafter, hback⟩ := hnext between after hflag hwritten
      refine ⟨front ++ back, ?_, hfront.append hback⟩
      rw [hafter, ← List.append_assoc]

private theorem close (h : Writing.Nests flag writing nested) (text : Text) :
    Writing.Nests flag (do writing; Writing.put text) nested := by
  have hboth := h.append (plain text)
  rwa [List.append_nil] at hboth

private theorem check {α : Type} {checked : Except SqlError α} {rest : α → Writing Unit}
    (hrest : ∀ a, Writing.Nests flag (rest a) nested) :
    Writing.Nests flag (Writing.check checked >>= rest) nested := by
  intro sink after hflag hwritten
  rw [Writing.bind_apply] at hwritten
  cases checked with
  | error cause => cases hwritten
  | ok a => exact hrest a sink after hflag hwritten

private theorem capture {rest : Text → Writing Unit} (hwriting : Streams flag writing result)
    (hrest : ∀ text, result = .ok text → Writing.Nests flag (rest text) nested) :
    Writing.Nests flag (Writing.capture writing >>= rest) nested := by
  intro sink after hflag hwritten
  have hcaptured : Writing.capture writing sink = Writing.captureWith flag writing sink := by
    rw [← hflag]
    rfl
  have hinner := hwriting { ignoresEmpty := flag } rfl
  rw [Writing.bind_apply, hcaptured, Writing.captureWith] at hwritten
  cases result with
  | error cause =>
    obtain ⟨written, hfailed⟩ := hinner
    rw [hfailed] at hwritten
    cases hwritten
  | ok text =>
    rw [hinner] at hwritten
    exact hrest text rfl sink after hflag hwritten

end Writing.Nests

namespace Query

variable (flag : Bool) (query : Query) (request : PageRequest) (field : Field)

private theorem write_nests (ordered : Bool) :
    Writing.Nests flag (query.write ordered) (query.nestedQueries ordered) :=
  .of_streams (Query.streams flag ordered query) sql_nests

private theorem writeProjection_nests :
    Writing.Nests flag query.writeProjection query.nestedInProjection :=
  .of_streams (query.streams_projection flag) projectionSql_nests

private theorem writeSorts_nests (withTable : Bool) :
    Writing.Nests flag (query.writeSorts withTable) (query.nestedInSorts withTable) :=
  .of_streams (query.streams_sorts flag withTable) sortsSql_nests

private theorem writeFiltered_nests :
    Writing.Nests flag (do query.writeSources; query.writeFilter true)
    (query.nestedInSources ++ query.nestedInFilter true) :=
  (Writing.Nests.of_streams (query.streams_sources flag) sourcesSql_nests).append
    (.of_streams (query.streams_filter flag true) Condition.clauseSql_nests)

private theorem writeCount_nests {column : Text} {nested : List NestedQuery}
    (hcolumn : (countedColumn column).Nests nested) :
    Writing.Nests flag (query.writeCount column) (nested ++ query.nestedInCount) := by
  have hcounted : ∀ behind, (Phrase.count ++ countedColumn column ++ behind).Nests nested := by
    intro behind
    exact (hcolumn.prepend Phrase.count).extend behind
  rw [writeCount, nestedInCount]
  split
  · split
    · intro sink after _ hwritten
      cases hwritten
    · exact (Writing.Nests.put (hcounted _)).append (query.writeFiltered_nests flag)
  · exact (Writing.Nests.put (hcounted _)).append ((query.write_nests flag false).close _)

private theorem writeRowTotal_nests :
    Writing.Nests flag (query.writeTotal request (pure ['*'])) (query.nestedInTotal request []) := by
  rw [writeTotal, nestedInTotal]
  split
  · have hall : (countedColumn ['*']).Nests [] := .plain _
    exact (Writing.Nests.plain Phrase.also).append (query.writeCount_nests flag hall)
  · exact .of_streams Streams.nothing fun _ => .plain _

private theorem writeNumbered_nests :
    Writing.Nests flag query.writeNumbered query.nestedInNumbered :=
  (Writing.Nests.plain Phrase.numbering).append ((query.writeSorts_nests flag true).append
    ((Writing.Nests.plain Phrase.asRowNumber).append
      ((query.writeProjection_nests flag).append (query.writeFiltered_nests flag))))

private theorem writePage_nests :
    Writing.Nests flag (query.writePage request) (query.nestedInPage request) := by
  have htotal := query.writeRowTotal_nests flag request
  rw [writePage, nestedInPage]
  split
  · rw [writeWindowPage]
    refine .check fun offset => ?_
    exact (Writing.Nests.plain _).append ((query.writeNumbered_nests flag).append
      ((Writing.Nests.plain _).append htotal))
  · rw [writeTemporaryPage, List.append_assoc (query.nestedQueries true)]
    refine .check fun offset => ?_
    have hrows := (query.withTemporary request).write_nests flag true
    refine hrows.append ((Writing.Nests.plain _).append ((Writing.Nests.plain _).append ?_))
    exact (query.writeSorts_nests flag false).append ((Writing.Nests.plain _).append htotal)

private theorem writeNumberedGroups_nests :
    Writing.Nests flag query.writeNumberedGroups query.nestedInNumberedGroups := by
  rw [writeNumberedGroups, nestedInNumberedGroups]
  split
  · exact query.writeNumbered_nests flag
  · exact (Writing.Nests.plain _).append ((query.writeSorts_nests flag false).append
      ((Writing.Nests.plain _).append ((query.write_nests flag false).close _)))

private theorem countedColumn_distinct {name : Text} (hnested : field.nested ≠ none)
    (hname : query.distinctSql field = .ok name) : countedColumn name = name := by
  -- a name with a nested query ends in `)`, so nothing of it is trimmed
  obtain ⟨column, hcolumn, hname⟩ := bind_eq_ok.1 hname
  have htrim : Text.trim name = name := by
    rcases Field.sql_eq_ok hcolumn with ⟨hnone, -⟩ | ⟨other, inner, -, -, rfl⟩
    · exact absurd hnone hnested
    · rw [← pure_eq_ok.1 hname, ← List.append_assoc]
      exact Text.trim_enclosed (by decide) (by decide)
  have hnonempty : name.isEmpty = false := by
    rw [← pure_eq_ok.1 hname]
    rfl
  rw [countedColumn, htrim, hnonempty, if_neg Bool.false_ne_true]

private theorem distinctSql_nests {name : Text} (hname : query.distinctSql field = .ok name) :
    (countedColumn name).Nests (field.nestedQueries query.groups.isEmpty) := by
  by_cases hnested : field.nested = none
  · rw [Field.nestedQueries, hnested]
    exact .plain _
  · rw [query.countedColumn_distinct field hnested hname]
    obtain ⟨column, hcolumn, hname⟩ := bind_eq_ok.1 hname
    rw [← pure_eq_ok.1 hname]
    exact (Field.sql_nests hcolumn).prepend Phrase.distinct

private theorem writeDistinctTotal_nests :
    Writing.Nests flag (query.writeTotal request (Writing.capture (query.writeDistinct field)))
      (query.nestedInTotal request (field.nestedQueries query.groups.isEmpty)) := by
  rw [writeTotal, nestedInTotal]
  split
  · refine .capture (query.streams_distinct flag field) fun name hname => ?_
    exact (Writing.Nests.plain Phrase.also).append
      (query.writeCount_nests flag (query.distinctSql_nests field hname))
  · exact .of_streams Streams.nothing fun _ => .plain _

private theorem writePageByColumn_nests :
    Writing.Nests flag (query.writePageByColumn request field)
      (query.nestedInPageByColumn request field) := by
  have hfield : Writing.Nests flag (field.write false) (field.nestedQueries false) :=
    .of_streams (Field.streams flag false field) Field.sql_nests
  have hwindow : ∀ offset, Writing.Nests flag (query.writeColumnWindow request offset field)
      (query.nestedInColumnWindow field) := by
    intro offset
    refine (Writing.Nests.plain _).append (hfield.append ((Writing.Nests.plain _).append ?_))
    exact (query.writeNumberedGroups_nests flag).append ((Writing.Nests.plain _).append hfield)
  rw [writePageByColumn]
  refine .check fun offset => ?_
  refine (Writing.Nests.plain _).append ((query.write_nests flag false).append ?_)
  refine (Writing.Nests.plain _).append (hfield.append ((Writing.Nests.plain _).append ?_))
  refine (hwindow offset).append ((Writing.Nests.plain _).append ?_)
  exact (query.writeSorts_nests flag false).append
    (query.writeDistinctTotal_nests flag request field)

end Query

private theorem Writable.write_nests (flag : Bool) (written : Writable) :
    Writing.Nests flag written.write (written.nestedQueries flag) := by
  cases written with
  | field withTable column => exact .of_streams (Field.streams flag withTable column) Field.sql_nests
  | selected column =>
    exact .of_streams (Writable.streams flag (.selected column)) Field.selectSql_nests
  | condition tested => exact .of_streams (Condition.streams flag tested) (Condition.sql_nests tested)
  | statement ordered query => exact query.write_nests flag ordered
  | count query column => exact query.writeCount_nests flag (.plain _)
  | page query request => exact query.writePage_nests flag request
  | pageByColumn query request column => exact query.writePageByColumn_nests flag request column

/-- Whatever is written, under either flag: if writing goes through, it adds its text, and in that
text the nested queries stand one behind the other, each between what opens it and `)` as it is
rendered alone. -/
theorem Writable.nested_queries_stand_as_alone (written : Writable) (sink after : Sink)
    (h : written.write sink = (some (), after)) :
    ∃ text, written.sql sink.ignoresEmpty = .ok text ∧
      after = { sink with written := sink.written ++ text } ∧
      text.Nests (written.nestedQueries sink.ignoresEmpty) := by
  obtain ⟨text, hafter, hnests⟩ := written.write_nests sink.ignoresEmpty sink after rfl h
  obtain ⟨same, hsame, hwritten⟩ := (written.streams sink.ignoresEmpty).of_written rfl h
  have hsink : sink.written ++ same = sink.written ++ text :=
    congrArg Sink.written (hwritten.symm.trans hafter)
  rw [List.append_cancel_left hsink] at hsame
  exact ⟨text, hsame, hafter, hnests⟩

/-- The count leaves the empty comparison of its own query out and keeps the one of the nested
query. -/
theorem Writable.nested_queries_stand_as_alone_of_count :
    ∃ (query nested : Query) (after : Sink) (text : Text),
      nested.render false = .ok "SELECT * FROM u WHERE d IS NULL".toList ∧
      (Writable.count query ['*']).write {} = (some (), after) ∧ after.written = text ∧
      text = "SELECT COUNT(*) AS count FROM t WHERE b IN (SELECT * FROM u WHERE d IS NULL)".toList ∧
      text.Nests [⟨Phrase.isIn, false, nested⟩] := by
  let isNull (name : Text) : Condition :=
    .comparison { field := { name }, comparator := some .equal, value := none }
  let nested : Query :=
    { selectsAll := true, tables := [{ name := ['u'] }], filter := some (isNull ['d']) }
  let isIn : Condition := .membership { field := { name := ['b'] }, candidates := .query nested }
  let query : Query := {
    selectsAll := true
    tables := [{ name := ['t'] }]
    filter := some (.group .and [isNull ['a'], isIn]) }
  have hcount : (Writable.count query ['*']).sql false = .ok
      "SELECT COUNT(*) AS count FROM t WHERE b IN (SELECT * FROM u WHERE d IS NULL)".toList := rfl
  have hwritten := Writable.streams false (.count query ['*']) {} rfl
  rw [hcount] at hwritten
  obtain ⟨text, htext, hafter, hnests⟩ :=
    Writable.nested_queries_stand_as_alone (.count query ['*']) {} _ hwritten
  have hsame := Except.ok.inj (htext.symm.trans hcount)
  exact ⟨query, nested, _, text, rfl, hwritten, congrArg Sink.written hafter, hsame, hnests⟩

end SqlSelect
