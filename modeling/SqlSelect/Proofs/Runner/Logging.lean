import SqlSelect.Proofs.Runner.CallTrace

/-!
Logging. Main statement: the policy of a runner changes neither what it answers nor what it calls,
and decides what is logged around each call. The pages that are asked for are logged whatever the
policy is.
-/

set_option autoImplicit false
set_option relaxedAutoImplicit false

namespace SqlSelect

def RunEvent.isPaging : RunEvent → Bool
  | .paging .. => true
  | _ => false

/-- The events of a session apart from the pages that were asked for. -/
def Session.unpaged {σ : Type} (session : Session σ) : List RunEvent :=
  session.events.filter fun event => !event.isPaging

private theorem all_unpaged_seen (policy : LogPolicy) (exchange : Exchange) :
    (exchange.seen policy).all (fun event => !event.isPaging) = true := by
  obtain ⟨kind, sql, parameters, failure⟩ := exchange
  obtain ⟨enabled, everything⟩ := policy
  cases enabled <;> cases everything <;> cases failure <;> rfl

private theorem Session.unpaged_seen {σ ρ : Type} (session : Session σ) (after : σ)
    (policy : LogPolicy) (performed : List (Performed ρ)) :
    Session.unpaged ⟨after, session.events ++ performed.flatMap (Performed.seen policy)⟩ =
      session.unpaged ++
        (performed.flatMap Performed.exchanges).flatMap (Exchange.seen policy) := by
  rw [unpaged, unpaged, List.filter_append, filter_seen fun _ _ _ => rfl]
  refine congrArg (_ ++ ·) (List.filter_eq_self.2 fun event hevent => ?_)
  obtain ⟨exchange, -, hseen⟩ := List.mem_flatMap.1 hevent
  exact List.all_eq_true.1 (all_unpaged_seen policy exchange) event hseen

/-- Under any two policies a sequence of operations gives the same answers, makes the same calls and
leaves the executor in the same state. The operations have exchanges, the same for all policies, and
apart from the pages that are asked for the events of a run are what is seen of the exchanges under
its policy. Every page that is asked for is in the log before what is seen of its exchanges. -/
theorem Runner.performAll_logs_by_policy {σ ρ : Type} [Inhabited ρ] (executor : Executor σ)
    (operations : List (Parameters × Operation ρ)) (session : Session σ) :
    let run (policy : LogPolicy) := performAll ⟨executor, policy⟩ operations session
    (∀ policy other, (run policy).1 = (run other).1 ∧
      (run policy).2.calls = (run other).2.calls ∧ (run policy).2.state = (run other).2.state) ∧
    ∃ (performed : List (Performed ρ)) (after : σ),
      performed.map Performed.asked = operations ∧
      (∀ one ∈ performed, one.IsTraced) ∧
      executor.Serves session.state (performed.flatMap Performed.exchanges) after ∧
      ∀ policy, (run policy).1 = performed.map Performed.answer ∧ (run policy).2.state = after ∧
        (run policy).2.calls =
          session.calls ++ (performed.flatMap Performed.exchanges).map Exchange.call ∧
        (run policy).2.unpaged = session.unpaged ++
          (performed.flatMap Performed.exchanges).flatMap (Exchange.seen policy) ∧
        (run policy).2.events = session.events ++ performed.flatMap (Performed.seen policy) := by
  intro run
  obtain ⟨performed, after, hasked, htraced, hserves, hruns⟩ :=
    performAll_traced executor operations session.state
  have hrun (policy : LogPolicy) : run policy = _ := hruns policy session.events
  have hcalls (policy : LogPolicy) : (run policy).2.calls =
      session.calls ++ (performed.flatMap Performed.exchanges).map Exchange.call := by
    rw [hrun]
    exact session.calls_seen after policy performed
  constructor
  · intro policy other
    rw [hcalls, hcalls, hrun, hrun]
    exact ⟨rfl, rfl, rfl⟩
  · refine ⟨performed, after, hasked, htraced, hserves, fun policy => ?_⟩
    rw [hcalls, hrun]
    exact ⟨rfl, rfl, rfl, session.unpaged_seen after policy performed, rfl⟩

/-- A page is in the log of a runner whose policy is not to log. -/
theorem Runner.performAll_logs_by_policy_not_of_page :
    let executor : Executor Unit :=
      ⟨fun _ _ state => (.ok {}, state), fun _ _ state => (.ok none, state),
        fun _ _ state => (.ok 0, state)⟩
    let query : Query :=
      { selectsAll := true
        tables := [{ name := ['t'] }]
        sorts := [{ field := { name := ['a'] } }] }
    let page : Operation Unit := .fetchPage query {}
    let last := (performAll ⟨executor, .disabled⟩ [({}, page)] ⟨(), []⟩).2
    LogPolicy.disabled.enabled = false ∧
      last.events.filter (fun event => !event.isCall) = [.paging 15 0 false] ∧
      last.calls = [.call .table ("SELECT TOP 15 * FROM (SELECT ROW_NUMBER() OVER " ++
        "(ORDER BY a ASC) AS RowNumber, * FROM t) AS a WHERE RowNumber > 0").toList {}] := by
  exact ⟨rfl, rfl, rfl⟩

end SqlSelect
