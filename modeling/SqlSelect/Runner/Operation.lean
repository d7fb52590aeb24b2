import SqlSelect.Runner.Basic

/-!
Operations of a runner as values, so that a whole sequence of them can be run on one session. The
session goes on behind an operation that fails.
-/

set_option autoImplicit false
set_option relaxedAutoImplicit false

namespace SqlSelect

/-- What a runner is asked to do; `ρ` is the type of the records that rows are carried into. -/
inductive Operation (ρ : Type) where
  | fetch (query : Query)
  | fetchPage (query : Query) (request : PageRequest)
  | count (query : Query)
  | fetchAs (query : Query) (binder : Binder ρ)
  | fetchSql (sql : Text)
  | scalar (sql : Text)
  | execute (sql : Text)

inductive Answer (ρ : Type) where
  | table (table : ResultTable)
  | page (page : ResultPage)
  | count (rows : Int64)
  | records (records : List ρ)
  | cell (cell : Option Value)
  | affected (rows : UInt64)

namespace Runner

variable {σ ρ : Type}

def perform [Inhabited ρ] (runner : Runner σ) (parameters : Parameters) :
    Operation ρ → Run σ (Answer ρ)
  | .fetch query => Answer.table <$> runner.fetch query parameters
  | .fetchPage query request => Answer.page <$> runner.fetchPage query request parameters
  | .count query => Answer.count <$> runner.count query parameters
  | .fetchAs query binder => Answer.records <$> runner.fetchAs query parameters binder
  | .fetchSql sql => Answer.table <$> runner.fetchSql sql parameters
  | .scalar sql => Answer.cell <$> runner.scalar sql parameters
  | .execute sql => Answer.affected <$> runner.execute sql parameters

def performAll [Inhabited ρ] (runner : Runner σ) : List (Parameters × Operation ρ) → Session σ →
    List (Except SqlError (Answer ρ)) × Session σ
  | [], session => ([], session)
  | (parameters, operation) :: rest, session =>
    let (answer, next) := runner.perform parameters operation session
    let (answers, last) := performAll runner rest next
    (answer :: answers, last)

end Runner

end SqlSelect
