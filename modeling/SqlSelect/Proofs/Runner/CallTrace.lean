import SqlSelect.Proofs.Runner.Exchange

/-!
The calls of the executor that operations make. Main statement: in every sequence of operations an
operation calls nothing if its statement cannot be written, and otherwise makes one call with that
statement, behind which a page may be counted by a second one.
-/

set_option autoImplicit false
set_option relaxedAutoImplicit false

namespace SqlSelect

section Answers

private theorem failsIn_mapM {α β : Type} {origin : FailureOrigin} {f : α → Except SqlError β}
    (h : ∀ a, FailsIn origin (f a)) (list : List α) : FailsIn origin (list.mapM f) := by
  induction list with
  | nil => exact failsIn_ok []
  | cons a rest ih =>
    rw [List.mapM_cons]
    exact (h a).bind fun b => ih.map (b :: ·)

private theorem Runner.failsIn_readCount (cell : Option Value) :
    FailsIn .answering (readCount cell) := by
  cases cell with
  | none => exact failsIn_ok 0
  | some value =>
    rw [readCount]
    cases value.int64? with
    | none => exact failsIn_error rfl
    | some rows => exact failsIn_ok rows

variable {ρ : Type}

private theorem Binder.origin_of_applyAll {row : Row} {bindings : List (Binding ρ)} {record : ρ}
    {cause : SqlError} (h : (applyAll row bindings record).failure = some cause) :
    cause.origin = .answering := by
  induction bindings generalizing record with
  | nil => simp [applyAll] at h
  | cons binding rest ih =>
    rw [applyAll] at h
    split at h
    · exact ih h
    · split at h
      · exact ih h
      · rw [← Option.some.inj h]
        rfl

private theorem Binder.failsIn_bindTable [Inhabited ρ] (binder : Binder ρ) (table : ResultTable) :
    FailsIn .answering (binder.bindTable table) := by
  refine failsIn_mapM (fun row => ?_) table.allRows
  rw [bindRow]
  cases hfailure : (binder.bindInto row default).failure with
  | none => exact failsIn_ok _
  | some cause => exact failsIn_error (origin_of_applyAll hfailure)

end Answers

namespace Operation

variable {ρ : Type}

/-- The statement that an operation calls the executor with first. A page leaves its total to a
second call. -/
def statement : Operation ρ → Except SqlError Text
  | .fetch query => query.sql true
  | .fetchPage query request => query.pageSql { request with withTotal := false }
  | .count query => query.countSql
  | .fetchAs query _ => query.sql true
  | .fetchSql sql => .ok sql
  | .scalar sql => .ok sql
  | .execute sql => .ok sql

def kind : Operation ρ → CallKind
  | .fetch _ | .fetchPage .. | .fetchAs .. | .fetchSql _ => .table
  | .count _ | .scalar _ => .scalar
  | .execute _ => .execute

/-- What an operation notes before anything else, under every policy. -/
def notes : Operation ρ → List RunEvent
  | .fetchPage query request => [.paging request.size request.index !query.groups.isEmpty]
  | _ => []

/-- The query that an operation counts behind the page it fetched. -/
def counted? : Operation ρ → Option Query
  | .fetchPage query request => if request.withTotal then some query else none
  | _ => none

private theorem failsIn_statement (operation : Operation ρ) :
    FailsIn .writing operation.statement := by
  cases operation with
  | fetch query => exact query.failsIn_sql true
  | fetchPage query request => exact query.failsIn_pageSql _
  | count query => exact query.failsIn_countSql
  | fetchAs query binder => exact query.failsIn_sql true
  | fetchSql sql => exact failsIn_ok sql
  | scalar sql => exact failsIn_ok sql
  | execute sql => exact failsIn_ok sql

private theorem exists_countSql_of_counted? {operation : Operation ρ} {query : Query} {sql : Text}
    (hcounted : operation.counted? = some query) (hstatement : operation.statement = .ok sql) :
    ∃ total, query.countSql = .ok total := by
  cases operation with
  | fetchPage paged request =>
    rw [counted?] at hcounted
    split at hcounted
    · rw [← Option.some.inj hcounted]
      exact Query.exists_countSql_of_pageSql hstatement
    · cases hcounted
  | _ => cases hcounted

end Operation

/-- An operation of a sequence with its exchanges and its answer. -/
structure Performed (ρ : Type) where
  parameters : Parameters
  operation : Operation ρ
  exchanges : List Exchange
  answer : Except SqlError (Answer ρ)

namespace Performed

variable {ρ : Type}

def asked (performed : Performed ρ) : Parameters × Operation ρ :=
  (performed.parameters, performed.operation)

/-- What is seen of an operation under a log policy. -/
def seen (policy : LogPolicy) (performed : Performed ρ) : List RunEvent :=
  performed.operation.notes ++ performed.exchanges.flatMap (Exchange.seen policy)

/-- The calls of an operation and what it answers when they fail. -/
structure IsTraced (performed : Performed ρ) : Prop where
  /-- Without its statement an operation calls nothing, and that is its failure. -/
  unwritten : ∀ cause, performed.operation.statement = .error cause →
    cause.origin = .writing ∧ performed.exchanges = [] ∧ performed.answer = .error cause
  /-- An operation that counts nothing afterwards makes one call. -/
  single : performed.operation.counted? = none → ∀ sql, performed.operation.statement = .ok sql →
    ∃ failure, performed.exchanges =
      [⟨performed.operation.kind, sql, performed.parameters, failure⟩]
  /-- A call that succeeds is followed by the count, if there is one to make; a call that fails is
  not. -/
  paged : ∀ query, performed.operation.counted? = some query →
    ∀ sql, performed.operation.statement = .ok sql →
      (∃ cause, performed.exchanges =
        [⟨performed.operation.kind, sql, performed.parameters, some cause⟩]) ∨
      ∃ total failure, query.countSql = .ok total ∧ performed.exchanges =
        [⟨performed.operation.kind, sql, performed.parameters, none⟩,
          ⟨.scalar, total, performed.parameters, failure⟩]
  /-- The failure of a call is the failure of the operation, and no other failure looks like it. -/
  dataAccess : ∀ cause, performed.answer = .error (.dataAccess cause) ↔
    ∃ exchange ∈ performed.exchanges, exchange.failure = some cause
  /-- An operation that has called the executor does not fail for a statement. -/
  called : performed.exchanges ≠ [] → ∀ cause, performed.answer = .error cause →
    cause.origin ≠ .writing

end Performed

namespace OneCall

variable {α : Type} {written : Except SqlError Text} {kind : CallKind} {parameters : Parameters}
  {exchanges : List Exchange} {outcome : Except SqlError α}

private theorem of_unwritten (h : OneCall written kind parameters exchanges outcome)
    {cause : SqlError}
    (hcause : written = .error cause) : exchanges = [] ∧ outcome = .error cause := by
  cases h with
  | unwritten h => exact ⟨rfl, by rw [Except.error.inj (h.symm.trans hcause)]⟩
  | failed h _ => cases h.symm.trans hcause
  | answered h _ => cases h.symm.trans hcause

private theorem of_written (h : OneCall written kind parameters exchanges outcome) {sql : Text}
    (hsql : written = .ok sql) : ∃ failure, exchanges = [⟨kind, sql, parameters, failure⟩] := by
  cases h with
  | unwritten h => cases h.symm.trans hsql
  | failed h cause =>
    rw [Except.ok.inj (hsql.symm.trans h)]
    exact ⟨some cause, rfl⟩
  | answered h _ =>
    rw [Except.ok.inj (hsql.symm.trans h)]
    exact ⟨none, rfl⟩

private theorem dataAccess_iff (h : OneCall written kind parameters exchanges outcome)
    (hwritten : FailsIn .writing written) (cause : Text) :
    outcome = .error (.dataAccess cause) ↔ ∃ exchange ∈ exchanges, exchange.failure = some cause := by
  cases h with
  | unwritten h =>
    refine ⟨fun hcause => ?_, nofun⟩
    cases hwritten _ (h.trans (by rw [Except.error.inj hcause]))
  | failed => simp
  | answered h houtcome =>
    refine ⟨fun hcause => ?_, by simp⟩
    cases houtcome _ hcause

private theorem origin_ne_writing (h : OneCall written kind parameters exchanges outcome)
    (hcalled : exchanges ≠ []) {cause : SqlError} (hcause : outcome = .error cause) :
    cause.origin ≠ .writing := by
  cases h with
  | unwritten => exact absurd rfl hcalled
  | failed =>
    rw [← Except.error.inj hcause]
    exact nofun
  | answered _ houtcome =>
    rw [houtcome cause hcause]
    exact nofun

end OneCall

section Trace

variable {ρ : Type} {operation : Operation ρ} {parameters : Parameters} {exchanges : List Exchange}
  {answer : Except SqlError (Answer ρ)}

private theorem OneCall.isTraced (operation : Operation ρ)
    (h : OneCall operation.statement operation.kind parameters exchanges answer)
    (hover : operation.counted?.isSome → ∀ exchange ∈ exchanges, exchange.failure.isSome) :
    Performed.IsTraced ⟨parameters, operation, exchanges, answer⟩ where
  unwritten _ hcause := ⟨operation.failsIn_statement _ hcause, h.of_unwritten hcause⟩
  single _ _ hsql := h.of_written hsql
  paged query hquery sql hsql := by
    obtain ⟨failure, rfl⟩ := h.of_written hsql
    have hfailed := hover (by rw [hquery]; rfl) _ (List.mem_singleton_self _)
    obtain ⟨cause, rfl⟩ := Option.isSome_iff_exists.1 hfailed
    exact .inl ⟨cause, rfl⟩
  dataAccess := h.dataAccess_iff operation.failsIn_statement
  called hcalled _ := h.origin_ne_writing hcalled

private theorem OneCall.isTraced_paged {query : Query} {sql total : Text}
    (hcounted : operation.counted? = some query) (hsql : operation.statement = .ok sql)
    (htotal : query.countSql = .ok total)
    (h : OneCall query.countSql .scalar parameters exchanges answer) :
    Performed.IsTraced
      ⟨parameters, operation, ⟨operation.kind, sql, parameters, none⟩ :: exchanges, answer⟩ where
  unwritten cause hcause := by cases hsql.symm.trans hcause
  single hnone := by cases hcounted.symm.trans hnone
  paged other hother text htext := by
    obtain rfl := Option.some.inj (hcounted.symm.trans hother)
    obtain rfl := Except.ok.inj (hsql.symm.trans htext)
    obtain ⟨failure, rfl⟩ := h.of_written htotal
    exact .inr ⟨total, failure, htotal, rfl⟩
  dataAccess cause := by
    rw [h.dataAccess_iff query.failsIn_countSql]
    simp
  called _ cause := by
    obtain ⟨failure, hexchanges⟩ := h.of_written htotal
    exact h.origin_ne_writing (by rw [hexchanges]; exact List.cons_ne_nil _ _)

end Trace

section Conduct

variable {σ ρ : Type} (executor : Executor σ) (parameters : Parameters)

private theorem conducts_fetch (query : Query) :
    Conducts executor (fun policy => Runner.fetch ⟨executor, policy⟩ query parameters)
      (OneCall (query.sql true) .table parameters) :=
  Conducts.write (query.sql true) fun sql => conducts_fetchSql executor sql parameters

private theorem conducts_count (query : Query) :
    Conducts executor (fun policy => Runner.count ⟨executor, policy⟩ query parameters)
      (OneCall query.countSql .scalar parameters) := by
  have hcell := Conducts.write query.countSql fun sql => conducts_scalar executor sql parameters
  have hcount := hcell.finish Runner.failsIn_readCount
  simp only [bind_assoc] at hcount
  exact hcount

variable {executor parameters}

private theorem Conducts.traced {program : LogPolicy → Run σ (Answer ρ)} (operation : Operation ρ)
    (hsingle : operation.counted? = none)
    (h : Conducts executor program (OneCall operation.statement operation.kind parameters)) :
    Conducts executor program fun exchanges answer =>
      Performed.IsTraced ⟨parameters, operation, exchanges, answer⟩ :=
  h.mono fun exchanges answer hcall => hcall.isTraced operation (by rw [hsingle]; exact nofun)

private def Runner.closePage (runner : Runner σ) (query : Query) (request : PageRequest)
    (parameters : Parameters) (rows : ResultTable) : Run σ (Answer ρ) :=
  if request.withTotal then do
    let total ← runner.count query parameters
    liftM (.ok (.page ⟨rows, some total⟩) : Except SqlError (Answer ρ))
  else liftM (.ok (.page ⟨rows, none⟩) : Except SqlError (Answer ρ))

/-- An operation without what it notes. -/
private def Runner.performRest [Inhabited ρ] (runner : Runner σ) (parameters : Parameters) :
    Operation ρ → Run σ (Answer ρ)
  | .fetchPage query request => do
    let sql ← query.pageSql { request with withTotal := false }
    let rows ← runner.fetchSql sql parameters
    runner.closePage query request parameters rows
  | operation => runner.perform parameters operation

private theorem Runner.perform_apply [Inhabited ρ] (runner : Runner σ) (parameters : Parameters)
    (operation : Operation ρ) (session : Session σ) :
    runner.perform parameters operation session =
      runner.performRest parameters operation
        ⟨session.state, session.events ++ operation.notes⟩ := by
  cases operation with
  | fetchPage query request =>
    have hpage : (runner.perform parameters (.fetchPage query request) : Run σ (Answer ρ)) =
        note (.paging request.size request.index !query.groups.isEmpty) >>= fun _ =>
          runner.performRest parameters (.fetchPage query request) := by
      simp only [perform, fetchPage, map_bind, apply_ite, map_pure]
      rfl
    rw [hpage]
    exact Run.bind_apply _ _ _
  | _ => simp only [performRest, Operation.notes, List.append_nil]

variable (executor parameters)

private theorem conducts_closePage {operation : Operation ρ} {query : Query} {request : PageRequest}
    (hoperation : operation = .fetchPage query request) {sql : Text}
    (hsql : operation.statement = .ok sql) (rows : ResultTable) :
    Conducts executor
      (fun policy => Runner.closePage ⟨executor, policy⟩ query request parameters rows)
      fun others answer => Performed.IsTraced
        ⟨parameters, operation, ⟨.table, sql, parameters, none⟩ :: others, answer⟩ := by
  subst hoperation
  unfold Runner.closePage
  cases htotal : request.withTotal with
  | false =>
    have hnone : (Operation.fetchPage query request : Operation ρ).counted? = none := by
      rw [Operation.counted?, htotal, if_neg (by decide)]
    refine (conducts_lift (.ok (Answer.page ⟨rows, none⟩))).mono ?_
    rintro _ _ ⟨rfl, rfl⟩
    refine OneCall.isTraced (.fetchPage query request) (.answered hsql (failsIn_ok _)) ?_
    rw [hnone]
    exact nofun
  | true =>
    have hquery : (Operation.fetchPage query request : Operation ρ).counted? = some query := by
      rw [Operation.counted?, htotal, if_pos rfl]
    obtain ⟨total, hcount⟩ := Operation.exists_countSql_of_counted? hquery hsql
    exact ((conducts_count executor parameters query).finish fun _ => failsIn_ok _).mono
      fun _ _ hcall => hcall.isTraced_paged hquery hsql hcount

private theorem conducts_fetchPage [Inhabited ρ] (query : Query) (request : PageRequest) :
    Conducts executor (fun policy =>
        Runner.performRest ⟨executor, policy⟩ parameters (.fetchPage query request : Operation ρ))
      fun exchanges answer =>
        Performed.IsTraced ⟨parameters, .fetchPage query request, exchanges, answer⟩ := by
  simp only [Runner.performRest]
  refine (conducts_lift _).bind ?_ ?_
  · rintro exchanges cause ⟨rfl, hcause⟩
    exact OneCall.isTraced (.fetchPage query request) (.unwritten hcause.symm) fun _ => nofun
  · rintro exchanges sql ⟨rfl, hsql⟩
    refine (conducts_fetchSql executor sql parameters).bind ?_ ?_
    · rintro _ _ (_ | cause)
      refine OneCall.isTraced (.fetchPage query request) (.failed hsql.symm cause) fun _ _ hmem => ?_
      rw [List.mem_singleton.1 hmem]
      rfl
    · rintro _ rows ⟨⟩
      exact conducts_closePage executor parameters rfl hsql.symm rows

private theorem conducts_performRest [Inhabited ρ] (operation : Operation ρ) :
    Conducts executor (fun policy => Runner.performRest ⟨executor, policy⟩ parameters operation)
      fun exchanges answer => Performed.IsTraced ⟨parameters, operation, exchanges, answer⟩ := by
  cases operation with
  | fetch query =>
    exact .traced (.fetch query) rfl ((conducts_fetch executor parameters query).map Answer.table)
  | fetchPage query request => exact conducts_fetchPage executor parameters query request
  | count query =>
    exact .traced (.count query) rfl ((conducts_count executor parameters query).map Answer.count)
  | fetchAs query binder =>
    have hrecords := (conducts_fetch executor parameters query).finish binder.failsIn_bindTable
    exact .traced (.fetchAs query binder) rfl (hrecords.map Answer.records)
  | fetchSql sql =>
    have hcall := (conducts_fetchSql executor sql parameters).mono
      fun _ _ hcall => hcall.oneCall (rfl : Except.ok sql = .ok sql)
    exact .traced (.fetchSql sql) rfl (hcall.map Answer.table)
  | scalar sql =>
    have hcall := (conducts_scalar executor sql parameters).mono
      fun _ _ hcall => hcall.oneCall (rfl : Except.ok sql = .ok sql)
    exact .traced (.scalar sql) rfl (hcall.map Answer.cell)
  | execute sql =>
    have hcall := (conducts_execute executor sql parameters).mono
      fun _ _ hcall => hcall.oneCall (rfl : Except.ok sql = .ok sql)
    exact .traced (.execute sql) rfl (hcall.map Answer.affected)

variable {parameters}

/-- Sequences of operations: each one goes on from the state that the one before it left. -/
theorem performAll_traced [Inhabited ρ] (operations : List (Parameters × Operation ρ)) (before : σ) :
    ∃ (performed : List (Performed ρ)) (after : σ),
      performed.map Performed.asked = operations ∧
      (∀ one ∈ performed, one.IsTraced) ∧
      executor.Serves before (performed.flatMap Performed.exchanges) after ∧
      ∀ policy events, Runner.performAll ⟨executor, policy⟩ operations ⟨before, events⟩ =
        (performed.map Performed.answer,
          ⟨after, events ++ performed.flatMap (Performed.seen policy)⟩) := by
  induction operations generalizing before with
  | nil => exact ⟨[], before, rfl, nofun, .nil before, fun policy events => by simp [Runner.performAll]⟩
  | cons asked rest ih =>
    obtain ⟨parameters, operation⟩ := asked
    obtain ⟨answer, exchanges, between, hserves, htraced, hruns⟩ :=
      conducts_performRest executor parameters operation before
    obtain ⟨performed, after, hasked, hall, hothers, hgoes⟩ := ih between
    refine ⟨⟨parameters, operation, exchanges, answer⟩ :: performed, after, ?_, ?_, ?_, ?_⟩
    · rw [List.map_cons, hasked]
      rfl
    · exact List.forall_mem_cons.2 ⟨htraced, hall⟩
    · rw [List.flatMap_cons]
      exact hserves.append hothers
    · intro policy events
      have hrun : Runner.perform ⟨executor, policy⟩ parameters operation ⟨before, events⟩ = _ :=
        (Runner.perform_apply _ _ _ _).trans (hruns policy _)
      simp only [Runner.performAll, hrun, hgoes, List.map_cons, List.flatMap_cons, Performed.seen,
        List.append_assoc]

end Conduct

def RunEvent.isCall : RunEvent → Bool
  | .call .. => true
  | _ => false

def Session.calls {σ : Type} (session : Session σ) : List RunEvent :=
  session.events.filter RunEvent.isCall

private theorem filter_isCall_seen (policy : LogPolicy) (exchanges : List Exchange) :
    (exchanges.flatMap (Exchange.seen policy)).filter RunEvent.isCall =
      exchanges.map Exchange.call := by
  induction exchanges with
  | nil => rfl
  | cons exchange rest ih =>
    have hhead : (Exchange.seen policy exchange).filter RunEvent.isCall = [exchange.call] := by
      obtain ⟨kind, sql, parameters, failure⟩ := exchange
      obtain ⟨enabled, everything⟩ := policy
      cases enabled <;> cases everything <;> cases failure <;> rfl
    rw [List.flatMap_cons, List.filter_append, hhead, ih, List.map_cons, List.singleton_append]

theorem filter_seen {ρ : Type} {wanted : RunEvent → Bool}
    (hpaging : ∀ size index grouped, wanted (.paging size index grouped) = false)
    (policy : LogPolicy) (performed : List (Performed ρ)) :
    (performed.flatMap (Performed.seen policy)).filter wanted =
      ((performed.flatMap Performed.exchanges).flatMap (Exchange.seen policy)).filter wanted := by
  induction performed with
  | nil => rfl
  | cons one rest ih =>
    have hnotes : one.operation.notes.filter wanted = [] := by
      cases one.operation with
      | fetchPage query request => exact List.filter_cons_of_neg (by rw [hpaging]; decide)
      | _ => rfl
    rw [List.flatMap_cons, List.filter_append, ih, Performed.seen, List.filter_append, hnotes,
      List.flatMap_cons, List.flatMap_append, List.filter_append, List.nil_append]

theorem Session.calls_seen {σ ρ : Type} (session : Session σ) (after : σ) (policy : LogPolicy)
    (performed : List (Performed ρ)) :
    Session.calls ⟨after, session.events ++ performed.flatMap (Performed.seen policy)⟩ =
      session.calls ++ (performed.flatMap Performed.exchanges).map Exchange.call := by
  rw [calls, calls, List.filter_append, filter_seen fun _ _ _ => rfl, filter_isCall_seen]

/-- For every executor, policy and sequence of operations: the calls made are those of the
operations one behind the other, and each operation is traced. -/
theorem Runner.performAll_calls_are_traced {σ ρ : Type} [Inhabited ρ] (runner : Runner σ)
    (operations : List (Parameters × Operation ρ)) (session : Session σ) :
    let (answers, last) := runner.performAll operations session
    ∃ performed : List (Performed ρ),
      performed.map Performed.asked = operations ∧
      performed.map Performed.answer = answers ∧
      runner.executor.Serves session.state (performed.flatMap Performed.exchanges) last.state ∧
      last.calls = session.calls ++ (performed.flatMap Performed.exchanges).map Exchange.call ∧
      ∀ one ∈ performed, one.IsTraced := by
  obtain ⟨performed, after, hasked, htraced, hserves, hruns⟩ :=
    performAll_traced runner.executor operations session.state
  have hrun : runner.performAll operations session = _ := hruns runner.policy session.events
  rw [hrun]
  exact ⟨performed, hasked, rfl, hserves, session.calls_seen after runner.policy _, htraced⟩

end SqlSelect
