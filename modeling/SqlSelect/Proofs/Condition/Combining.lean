import SqlSelect.Query.Edit
import SqlSelect.Proofs.Condition.Precedence

/-!
Conditions that are added to the filters of a query, one after the other. Main statement: whatever
groups are there, a filter keeps its leaves in the order in which they were added, and its truth is
that of the added conditions folded from left to right.
-/

set_option autoImplicit false
set_option relaxedAutoImplicit false

namespace SqlSelect

namespace Connective

/-- The truth of two parts with a connective between them; where one is absent, that of the
other. -/
def merge? (connective : Connective) : Option Bool → Option Bool → Option Bool
  | none, right => right
  | left, none => left
  | some left, some right =>
    match connective with
    | .and => some (left && right)
    | .or => some (left || right)

private theorem join?_toList (connective : Connective) (truth : Option Bool) :
    connective.join? truth.toList = truth := by
  cases truth with
  | none => rfl
  | some value => cases connective <;> simp [join?]

private theorem join?_append (connective : Connective) (left right : List Bool) :
    connective.join? (left ++ right) =
      connective.merge? (connective.join? left) (connective.join? right) := by
  cases left with
  | nil => rfl
  | cons first rest =>
    cases right with
    | nil => cases connective <;> simp [join?, merge?]
    | cons second more => cases connective <;> simp [join?, merge?, Bool.and_assoc, Bool.or_assoc]

end Connective

mutual

/-- The truth of a condition tree whose first leaf has the number `start`, when leaf `n` is true,
false or absent as `assigned n` says. A group joins the members that are not absent. -/
def Condition.truth? (assigned : Nat → Option Bool) (start : Nat) : Condition → Option Bool
  | .group connective members => connective.join? (Condition.memberTruths assigned start members)
  | _ => assigned start
termination_by structural condition => condition

def Condition.memberTruths (assigned : Nat → Option Bool) (start : Nat) :
    List Condition → List Bool
  | [] => []
  | member :: rest =>
    (member.truth? assigned start).toList ++
      Condition.memberTruths assigned (start + member.leaves.length) rest
termination_by structural members => members

end

inductive FilterSlot where
  | rows
  | groups
deriving DecidableEq

def Query.filterIn (query : Query) : FilterSlot → Option Condition
  | .rows => query.filter
  | .groups => query.having

structure FilterCall where
  slot : FilterSlot
  connective : Connective
  condition : Condition

def FilterCall.apply (query : Query) (call : FilterCall) : Query :=
  match call.slot, call.connective with
  | .rows, .and => query.andFilter call.condition
  | .rows, .or => query.orFilter call.condition
  | .groups, .and => query.andHaving call.condition
  | .groups, .or => query.orHaving call.condition

namespace Condition

def slotLeaves : Option Condition → List Condition
  | none => []
  | some condition => condition.leaves

/-- The truth of a filter; one that is missing is absent. -/
def slotTruth? (assigned : Nat → Option Bool) : Option Condition → Option Bool
  | none => none
  | some condition => condition.truth? assigned 0

/-- The truths of the conditions that calls add, folded into the truth of what is there. The first
leaf of the next condition has the number `start`. -/
def foldTruth? (assigned : Nat → Option Bool) : Option Bool → Nat → List FilterCall → Option Bool
  | truth, _, [] => truth
  | truth, start, call :: rest =>
    foldTruth? assigned (call.connective.merge? truth (call.condition.truth? assigned start))
      (start + call.condition.leaves.length) rest

variable {assigned : Nat → Option Bool}

private theorem leavesOf_append (left right : List Condition) :
    leavesOf (left ++ right) = leavesOf left ++ leavesOf right := by
  induction left with
  | nil => rfl
  | cons member rest ih => rw [List.cons_append, leavesOf, ih, leavesOf, List.append_assoc]

private theorem memberTruths_append (start : Nat) (left right : List Condition) :
    memberTruths assigned start (left ++ right) =
      memberTruths assigned start left ++
        memberTruths assigned (start + (leavesOf left).length) right := by
  induction left generalizing start with
  | nil => rfl
  | cons member rest ih =>
    rw [List.cons_append, memberTruths, ih, memberTruths, leavesOf, List.length_append,
      List.append_assoc, Nat.add_assoc]

private theorem leavesOf_singleton (condition : Condition) :
    leavesOf [condition] = condition.leaves := by
  rw [leavesOf, leavesOf, List.append_nil]

private theorem memberTruths_singleton (start : Nat) (condition : Condition) :
    memberTruths assigned start [condition] = (condition.truth? assigned start).toList := by
  rw [memberTruths, memberTruths, List.append_nil]

private theorem truth?_group_concat (connective : Connective) (members : List Condition)
    (added : Condition) :
    (group connective (members ++ [added])).truth? assigned 0 =
      connective.merge? ((group connective members).truth? assigned 0)
        (added.truth? assigned (leavesOf members).length) := by
  rw [truth?, memberTruths_append, memberTruths_singleton, Nat.zero_add, Connective.join?_append,
    Connective.join?_toList, truth?]

private theorem truth?_group_singleton (connective : Connective) (condition : Condition) :
    (group connective [condition]).truth? assigned 0 = condition.truth? assigned 0 := by
  rw [truth?, memberTruths_singleton, Connective.join?_toList]

/-- A condition joins the group that is there or a new group of what is there. Without it, the group
has the leaves and the truth of what was there. -/
private theorem exists_combine_eq (connective : Connective) (added present : Condition) :
    ∃ members, combine connective added (some present) = .group connective (members ++ [added]) ∧
      leavesOf members = present.leaves ∧
      ∀ assigned, (group connective members).truth? assigned 0 = present.truth? assigned 0 := by
  have hwrapped : leavesOf [present] = present.leaves ∧ ∀ assigned,
      (group connective [present]).truth? assigned 0 = present.truth? assigned 0 :=
    ⟨leavesOf_singleton present, fun assigned => truth?_group_singleton connective present⟩
  cases present with
  | comparison test => exact ⟨_, rfl, hwrapped⟩
  | raw text => exact ⟨_, rfl, hwrapped⟩
  | membership test => exact ⟨_, rfl, hwrapped⟩
  | group kind members =>
    by_cases hsame : kind = connective
    · subst hsame
      exact ⟨members, by rw [combine, if_pos rfl], by rw [leaves], fun assigned => rfl⟩
    · exact ⟨_, by rw [combine, if_neg hsame]; rfl, hwrapped⟩

private theorem leaves_combine (connective : Connective) (added : Condition)
    (slot : Option Condition) :
    (combine connective added slot).leaves = slotLeaves slot ++ added.leaves := by
  cases slot with
  | none => rfl
  | some present =>
    obtain ⟨members, hcombine, hleaves, -⟩ := exists_combine_eq connective added present
    rw [hcombine, leaves, leavesOf_append, leavesOf_singleton, hleaves, slotLeaves]

private theorem truth?_combine (connective : Connective) (added : Condition)
    (slot : Option Condition) :
    (combine connective added slot).truth? assigned 0 =
      connective.merge? (slotTruth? assigned slot)
        (added.truth? assigned (slotLeaves slot).length) := by
  cases slot with
  | none => rfl
  | some present =>
    obtain ⟨members, hcombine, hleaves, htruth⟩ := exists_combine_eq connective added present
    rw [hcombine, truth?_group_concat, htruth, hleaves, slotTruth?, slotLeaves]

end Condition

namespace Query

open Condition

private theorem filterIn_apply (query : Query) (call : FilterCall) (slot : FilterSlot) :
    (call.apply query).filterIn slot =
      if call.slot = slot then
        some (combine call.connective call.condition (query.filterIn slot))
      else query.filterIn slot := by
  obtain ⟨own, connective, condition⟩ := call
  cases own <;> cases connective <;> cases slot <;> rfl

/-- Calls that add conditions to the filters of a query, in any order and to both of them. Each
filter has the leaves it had and behind them those of the conditions added to it, in order; and
whichever of its leaves are true, false or absent, its truth is the truth it had with those of
the added conditions folded into it from left to right, each under the connective of its call. -/
theorem filters_fold_added (query : Query) (calls : List FilterCall) (slot : FilterSlot) :
    slotLeaves ((calls.foldl FilterCall.apply query).filterIn slot) =
        slotLeaves (query.filterIn slot) ++
          (calls.filter (·.slot = slot)).flatMap (·.condition.leaves) ∧
      ∀ assigned : Nat → Option Bool,
        slotTruth? assigned ((calls.foldl FilterCall.apply query).filterIn slot) =
          foldTruth? assigned (slotTruth? assigned (query.filterIn slot))
            (slotLeaves (query.filterIn slot)).length (calls.filter (·.slot = slot)) := by
  induction calls generalizing query with
  | nil => simp [foldTruth?]
  | cons call rest ih =>
    obtain ⟨hleaves, htruth⟩ := ih (call.apply query)
    have hstep := filterIn_apply query call slot
    by_cases hown : call.slot = slot
    · rw [if_pos hown] at hstep
      have hfilter : (call :: rest).filter (·.slot = slot) =
          call :: rest.filter (·.slot = slot) := List.filter_cons_of_pos (by simpa using hown)
      rw [hstep] at hleaves htruth
      rw [List.foldl_cons, hfilter]
      constructor
      · rw [hleaves, slotLeaves, leaves_combine, List.flatMap_cons, List.append_assoc]
      · intro assigned
        rw [htruth, slotTruth?, slotLeaves, leaves_combine, truth?_combine, foldTruth?,
          List.length_append]
    · rw [if_neg hown] at hstep
      have hfilter : (call :: rest).filter (·.slot = slot) = rest.filter (·.slot = slot) :=
        List.filter_cons_of_neg (by simpa using hown)
      rw [hstep] at hleaves htruth
      rw [List.foldl_cons, hfilter]
      exact ⟨hleaves, htruth⟩

end Query

end SqlSelect
