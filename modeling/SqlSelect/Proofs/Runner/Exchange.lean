import SqlSelect.Runner.Operation
import SqlSelect.Proofs.Query.WritingFailure

/-!
Exchanges with the executor, and running as a sequence of them. A program is a run for each log
policy. Main statements: what one call exchanges, and that programs one behind the other exchange
what the first one does and then what the second one does, under every policy alike.
-/

set_option autoImplicit false
set_option relaxedAutoImplicit false

namespace SqlSelect

/-- A call of the executor and the failure it ended with, if it failed. -/
structure Exchange where
  kind : CallKind
  sql : Text
  parameters : Parameters
  failure : Option Text
deriving DecidableEq

namespace Exchange

def call (exchange : Exchange) : RunEvent :=
  .call exchange.kind exchange.sql exchange.parameters

def info (exchange : Exchange) : RunEvent :=
  .info exchange.sql (Text.joinWith [',', ' '] exchange.parameters.names)

def errors (exchange : Exchange) : List RunEvent :=
  exchange.failure.toList.map (RunEvent.error exchange.sql)

/-- What is seen of an exchange under a log policy. -/
def seen (policy : LogPolicy) (exchange : Exchange) : List RunEvent :=
  match policy with
  | { enabled := false, .. } => [exchange.call]
  | { enabled := true, logsEverything := false } => exchange.call :: exchange.errors
  | { enabled := true, logsEverything := true } => exchange.info :: exchange.call :: exchange.errors

end Exchange

def failure? {α : Type} : Except Text α → Option Text
  | .ok _ => none
  | .error cause => some cause

namespace Executor

variable {σ : Type}

def respond (executor : Executor σ) (kind : CallKind) (sql : Text) (parameters : Parameters)
    (state : σ) : Option Text × σ :=
  match kind with
  | .table => (executor.fetchTable sql parameters state).map failure? id
  | .scalar => (executor.fetchScalar sql parameters state).map failure? id
  | .execute => (executor.execute sql parameters state).map failure? id

/-- The exchanges are calls made one behind the other, each of them with the failure that the
executor gives it. -/
inductive Serves (executor : Executor σ) : σ → List Exchange → σ → Prop where
  | nil (state : σ) : Serves executor state [] state
  | cons {before between after : σ} {exchange : Exchange} {rest : List Exchange}
      (first : executor.respond exchange.kind exchange.sql exchange.parameters before =
        (exchange.failure, between))
      (others : Serves executor between rest after) :
      Serves executor before (exchange :: rest) after

theorem Serves.append {executor : Executor σ} {before between after : σ}
    {first second : List Exchange} (hfirst : executor.Serves before first between)
    (hsecond : executor.Serves between second after) :
    executor.Serves before (first ++ second) after := by
  induction hfirst with
  | nil => exact hsecond
  | cons hhead _ ih => exact .cons hhead (ih hsecond)

end Executor

/-- From every state a program has one outcome, one list of exchanges and one state behind them,
whatever is logged; and outcome and exchanges are as specified. -/
def Conducts {σ α : Type} (executor : Executor σ) (program : LogPolicy → Run σ α)
    (specified : List Exchange → Except SqlError α → Prop) : Prop :=
  ∀ before, ∃ outcome exchanges after,
    executor.Serves before exchanges after ∧ specified exchanges outcome ∧
      ∀ policy events, program policy ⟨before, events⟩ =
        (outcome, ⟨after, events ++ exchanges.flatMap (Exchange.seen policy)⟩)

theorem Run.bind_apply {σ α β : Type} (first : Run σ α) (next : α → Run σ β) (session : Session σ) :
    (first >>= next) session = match first session with
      | (.ok a, between) => next a between
      | (.error cause, between) => (.error cause, between) := by
  show (StateT.bind first (ExceptT.bindCont next)) session = _
  rw [StateT.bind]
  rcases first session with ⟨_ | _, between⟩ <;> rfl

section Programs

variable {σ α β : Type} {executor : Executor σ} {program : LogPolicy → Run σ α}
  {specified : List Exchange → Except SqlError α → Prop}
  {wanted : List Exchange → Except SqlError β → Prop}

theorem Conducts.mono {weaker : List Exchange → Except SqlError α → Prop}
    (h : Conducts executor program specified)
    (himp : ∀ exchanges outcome, specified exchanges outcome → weaker exchanges outcome) :
    Conducts executor program weaker := by
  intro before
  obtain ⟨outcome, exchanges, after, hserves, hspecified, hruns⟩ := h before
  exact ⟨outcome, exchanges, after, hserves, himp _ _ hspecified, hruns⟩

theorem conducts_lift (written : Except SqlError α) :
    Conducts executor (fun _ => (liftM written : Run σ α))
      fun exchanges outcome => exchanges = [] ∧ outcome = written := by
  intro before
  refine ⟨written, [], before, .nil before, ⟨rfl, rfl⟩, fun policy events => ?_⟩
  rw [List.flatMap_nil, List.append_nil]
  rfl

/-- A program behind another one goes on where that one ended. A failure ends both. -/
theorem Conducts.bind {next : α → LogPolicy → Run σ β} (h : Conducts executor program specified)
    (hfailed : ∀ exchanges cause, specified exchanges (.error cause) → wanted exchanges (.error cause))
    (hnext : ∀ exchanges a, specified exchanges (.ok a) →
      Conducts executor (next a) fun others outcome => wanted (exchanges ++ others) outcome) :
    Conducts executor (fun policy => program policy >>= fun a => next a policy) wanted := by
  intro before
  obtain ⟨outcome, exchanges, between, hserves, hspecified, hruns⟩ := h before
  cases outcome with
  | error cause =>
    refine ⟨.error cause, exchanges, between, hserves, hfailed _ _ hspecified, fun policy events => ?_⟩
    exact (Run.bind_apply _ _ _).trans (by rw [hruns])
  | ok a =>
    obtain ⟨result, others, after, hothers, hwanted, hgoes⟩ := hnext exchanges a hspecified between
    refine ⟨result, exchanges ++ others, after, hserves.append hothers, hwanted, fun policy events => ?_⟩
    refine (Run.bind_apply _ _ _).trans ?_
    rw [hruns, List.flatMap_append, ← List.append_assoc, ← hgoes]

end Programs

inductive IsCall {α : Type} (kind : CallKind) (sql : Text) (parameters : Parameters) :
    List Exchange → Except SqlError α → Prop where
  | answered (answer : α) : IsCall kind sql parameters [⟨kind, sql, parameters, none⟩] (.ok answer)
  | failed (cause : Text) :
      IsCall kind sql parameters [⟨kind, sql, parameters, some cause⟩] (.error (.dataAccess cause))

/-- What writing a statement and calling the executor with it exchanges: nothing if it cannot be
written, and else one call. Then the failure of the call is the failure, or an answer is read. -/
inductive OneCall {α : Type} (written : Except SqlError Text) (kind : CallKind)
    (parameters : Parameters) : List Exchange → Except SqlError α → Prop where
  | unwritten {cause : SqlError} (h : written = .error cause) :
      OneCall written kind parameters [] (.error cause)
  | failed {sql : Text} (h : written = .ok sql) (cause : Text) :
      OneCall written kind parameters [⟨kind, sql, parameters, some cause⟩]
        (.error (.dataAccess cause))
  | answered {sql : Text} (h : written = .ok sql) {outcome : Except SqlError α}
      (houtcome : FailsIn .answering outcome) :
      OneCall written kind parameters [⟨kind, sql, parameters, none⟩] outcome

section OneCall

variable {σ α β : Type} {executor : Executor σ} {program : LogPolicy → Run σ α}
  {written : Except SqlError Text} {kind : CallKind} {parameters : Parameters}

private theorem OneCall.bind {exchanges : List Exchange} {outcome : Except SqlError α}
    (h : OneCall written kind parameters exchanges outcome) {finish : α → Except SqlError β}
    (hfinish : ∀ a, FailsIn .answering (finish a)) :
    OneCall written kind parameters exchanges (outcome >>= finish) := by
  cases h with
  | unwritten h => exact .unwritten h
  | failed h cause => exact .failed h cause
  | answered h houtcome => exact .answered h (houtcome.bind hfinish)

theorem Conducts.finish (h : Conducts executor program (OneCall written kind parameters))
    {finish : α → Except SqlError β} (hfinish : ∀ a, FailsIn .answering (finish a)) :
    Conducts executor (fun policy => program policy >>= fun a => liftM (finish a))
      (OneCall written kind parameters) := by
  refine h.bind (fun exchanges cause hfailed => hfailed.bind hfinish) fun exchanges a hanswer => ?_
  refine (conducts_lift (finish a)).mono fun others outcome hlifted => ?_
  obtain ⟨rfl, rfl⟩ := hlifted
  rw [List.append_nil]
  exact hanswer.bind hfinish

theorem Conducts.map (h : Conducts executor program (OneCall written kind parameters)) (f : α → β) :
    Conducts executor (fun policy => f <$> program policy) (OneCall written kind parameters) := by
  have hprogram : (fun policy => f <$> program policy) =
      fun policy => program policy >>= fun a => liftM (.ok (f a) : Except SqlError β) := by
    funext policy
    exact map_eq_pure_bind f (program policy)
  rw [hprogram]
  exact h.finish fun a => failsIn_ok (f a)

theorem IsCall.oneCall {sql : Text} {exchanges : List Exchange} {outcome : Except SqlError α}
    (h : IsCall kind sql parameters exchanges outcome) (hsql : written = .ok sql) :
    OneCall written kind parameters exchanges outcome := by
  cases h with
  | answered answer => exact .answered hsql (failsIn_ok answer)
  | failed cause => exact .failed hsql cause

theorem Conducts.write (written : Except SqlError Text) {call : Text → LogPolicy → Run σ α}
    (h : ∀ sql, Conducts executor (call sql) (IsCall kind sql parameters)) :
    Conducts executor (fun policy => (liftM written : Run σ Text) >>= fun sql => call sql policy)
      (OneCall written kind parameters) := by
  refine (conducts_lift written).bind ?_ ?_
  · rintro exchanges cause ⟨rfl, hcause⟩
    exact .unwritten hcause.symm
  · rintro exchanges sql ⟨rfl, hsql⟩
    exact (h sql).mono fun others outcome hcall => hcall.oneCall hsql.symm

end OneCall

section Calls

variable {σ α : Type} (executor : Executor σ) (sql : Text) (parameters : Parameters)

@[simp] theorem state_record (wanted : Bool) (event : RunEvent) (session : Session σ) :
    (Runner.record wanted event session).state = session.state := by
  cases wanted <;> rfl

private theorem run_apply (runner : Runner σ) (kind : CallKind)
    (call : Text → Parameters → σ → Except Text α × σ) (session : Session σ) :
    runner.run kind call sql parameters session =
      let reply := call sql parameters session.state
      (reply.1.mapError .dataAccess, ⟨reply.2, session.events ++
        Exchange.seen runner.policy ⟨kind, sql, parameters, failure? reply.1⟩⟩) := by
  obtain ⟨executor, enabled, everything⟩ := runner
  simp only [Runner.run, state_record]
  rcases call sql parameters session.state with ⟨cause | answer, after⟩ <;>
    cases enabled <;> cases everything <;>
    simp [Runner.record, Exchange.seen, Exchange.call, Exchange.info, Exchange.errors, failure?] <;>
    rfl

private theorem conducts_run (kind : CallKind) (call : Text → Parameters → σ → Except Text α × σ)
    (hcall : ∀ state, executor.respond kind sql parameters state =
      (call sql parameters state).map failure? id) :
    Conducts executor (fun policy => Runner.run ⟨executor, policy⟩ kind call sql parameters)
      (IsCall kind sql parameters) := by
  intro before
  let reply := call sql parameters before
  refine ⟨reply.1.mapError .dataAccess, [⟨kind, sql, parameters, failure? reply.1⟩], reply.2,
    .cons (hcall before) (.nil _), ?_, fun policy events => ?_⟩
  · rcases reply.1 with cause | answer
    · exact .failed cause
    · exact .answered answer
  · exact (run_apply sql parameters _ kind call _).trans (by rw [List.flatMap_singleton])

theorem conducts_fetchSql :
    Conducts executor (fun policy => Runner.fetchSql ⟨executor, policy⟩ sql parameters)
      (IsCall .table sql parameters) :=
  conducts_run executor sql parameters .table executor.fetchTable fun _ => rfl

theorem conducts_scalar :
    Conducts executor (fun policy => Runner.scalar ⟨executor, policy⟩ sql parameters)
      (IsCall .scalar sql parameters) :=
  conducts_run executor sql parameters .scalar executor.fetchScalar fun _ => rfl

theorem conducts_execute :
    Conducts executor (fun policy => Runner.execute ⟨executor, policy⟩ sql parameters)
      (IsCall .execute sql parameters) :=
  conducts_run executor sql parameters .execute executor.execute fun _ => rfl

end Calls

end SqlSelect
