import SqlSelect.Parameters.Basic
import SqlSelect.Query.Page
import SqlSelect.Result.Binder

/-!
Running queries. An executor takes a finished statement with its parameters and answers from a
state of its own; a runner writes queries, hands them over and records, in order, what it called
and what it logged. Its policy decides on the statements and failures in the log, not on the pages.
-/

set_option autoImplicit false
set_option relaxedAutoImplicit false

namespace SqlSelect

inductive CallKind where
  /-- For its rows. -/
  | table
  /-- For the first cell of its first row. -/
  | scalar
  /-- For the number of rows it changes. -/
  | execute
deriving DecidableEq

/-- Something that runs statements, with a state `σ`. A failure is a text. -/
structure Executor (σ : Type) where
  fetchTable : Text → Parameters → σ → Except Text ResultTable × σ
  fetchScalar : Text → Parameters → σ → Except Text (Option Value) × σ
  execute : Text → Parameters → σ → Except Text UInt64 × σ

structure LogPolicy where
  enabled : Bool := false
  /-- Every statement is logged, not only the failing ones. -/
  logsEverything : Bool := false
deriving DecidableEq

namespace LogPolicy

def disabled : LogPolicy := {}

def errorsOnly : LogPolicy := { enabled := true }

def everything : LogPolicy := { enabled := true, logsEverything := true }

end LogPolicy

/-- What an operation of a runner logs and calls. Reading a statement has a trace of its own,
`ReadingStep`. -/
inductive RunEvent where
  /-- A page is asked for, of a query with groups or without. -/
  | paging (size index : UInt64) (grouped : Bool)
  /-- A statement is logged, with the names of its parameters. -/
  | info (sql parameterNames : Text)
  /-- The executor is called. -/
  | call (kind : CallKind) (sql : Text) (parameters : Parameters)
  /-- A failure is logged. -/
  | error (sql cause : Text)
deriving DecidableEq

/-- The state of the executor and the events so far. -/
structure Session (σ : Type) where
  state : σ
  events : List RunEvent := []

/-- Operations of a runner: the session goes on behind a failure. -/
abbrev Run (σ α : Type) := ExceptT SqlError (StateM (Session σ)) α

structure ResultPage where
  rows : ResultTable
  total : Option Int64
deriving DecidableEq

/-- An executor with a log policy. -/
structure Runner (σ : Type) where
  executor : Executor σ
  policy : LogPolicy := {}

namespace Runner

variable {σ α ρ : Type}

def record (wanted : Bool) (event : RunEvent) (session : Session σ) : Session σ :=
  if wanted then { session with events := session.events ++ [event] } else session

/-- Records an event under every policy. -/
def note (event : RunEvent) : Run σ Unit := fun session => (.ok (), record true event session)

def run (runner : Runner σ) (kind : CallKind)
    (call : Text → Parameters → σ → Except Text α × σ) (sql : Text) (parameters : Parameters) :
    Run σ α := fun session =>
  let policy := runner.policy
  let names := Text.joinWith [',', ' '] parameters.names
  let logged := record (policy.enabled && policy.logsEverything) (.info sql names) session
  let called := record true (.call kind sql parameters) logged
  match call sql parameters called.state with
  | (.ok answer, state) => (.ok answer, { called with state })
  | (.error cause, state) =>
    (.error (.dataAccess cause), record policy.enabled (.error sql cause) { called with state })

def fetchSql (runner : Runner σ) (sql : Text) (parameters : Parameters) : Run σ ResultTable :=
  runner.run .table runner.executor.fetchTable sql parameters

def scalar (runner : Runner σ) (sql : Text) (parameters : Parameters) : Run σ (Option Value) :=
  runner.run .scalar runner.executor.fetchScalar sql parameters

def execute (runner : Runner σ) (sql : Text) (parameters : Parameters) : Run σ UInt64 :=
  runner.run .execute runner.executor.execute sql parameters

def fetch (runner : Runner σ) (query : Query) (parameters : Parameters) : Run σ ResultTable := do
  let sql ← query.sql true
  runner.fetchSql sql parameters

/-- The number in a count; no cell counts as zero. -/
def readCount : Option Value → Except SqlError Int64
  | none => .ok 0
  | some value =>
    match value.int64? with
    | some n => .ok n
    | none => .error (.typeMismatch "count".toList (FromValue.expected Int64))

def count (runner : Runner σ) (query : Query) (parameters : Parameters) : Run σ Int64 := do
  let sql ← query.countSql
  let cell ← runner.scalar sql parameters
  readCount cell

/-- A page of a query. The total count is a statement of its own, run behind the page. -/
def fetchPage (runner : Runner σ) (query : Query) (request : PageRequest)
    (parameters : Parameters) : Run σ ResultPage := do
  -- the page is in the log even if its statement cannot be written
  note (.paging request.size request.index !query.groups.isEmpty)
  let sql ← query.pageSql { request with withTotal := false }
  let rows ← runner.fetchSql sql parameters
  if request.withTotal then
    let total ← runner.count query parameters
    return ⟨rows, some total⟩
  else return ⟨rows, none⟩

def fetchAs [Inhabited ρ] (runner : Runner σ) (query : Query) (parameters : Parameters)
    (binder : Binder ρ) : Run σ (List ρ) := do
  let table ← runner.fetch query parameters
  binder.bindTable table

end Runner

end SqlSelect
