import SqlSelect.Proofs.Condition.Precedence
import SqlSelect.Proofs.Text.Joining

/-!
Conditions written with and without their empty comparisons. Main statement: leaving these out gives
the same text exactly if there are none, and a shorter one otherwise.
-/

set_option autoImplicit false
set_option relaxedAutoImplicit false

namespace SqlSelect

private theorem Text.length_joinWith (separator : Text) (pieces : List Text) :
    (Text.joinWith separator pieces).length =
      pieces.flatten.length + (pieces.length - 1) * separator.length := by
  induction pieces with
  | nil => simp
  | cons first rest ih =>
    cases rest with
    | nil => simp
    | cons second more =>
      have hcount : (first :: second :: more).length - 1 = (second :: more).length - 1 + 1 := by
        simp
      have hsize : (first :: second :: more).flatten.length =
          first.length + (second :: more).flatten.length := by
        rw [List.flatten_cons, List.length_append]
      rw [Text.joinWith_cons_cons, List.length_append, List.length_append, ih, hsize, hcount,
        Nat.succ_mul]
      omega

namespace Condition

def isEmptyComparison : Condition → Bool
  | .comparison test => !hasContent test.value
  | _ => false

def hasEmptyComparison (condition : Condition) : Bool := condition.leaves.any isEmptyComparison

/-- A text that is shorter than another one if something is left out, and the same otherwise. -/
def Shortens (leftOut : Bool) (short long : Text) : Prop :=
  if leftOut then short.length < long.length else short = long

private def ShortensAll (leftOut : Bool) (shorts longs : List Text) : Prop :=
  if leftOut then shorts.length ≤ longs.length ∧ shorts.flatten.length < longs.flatten.length
  else shorts = longs

theorem Shortens.eq_iff {leftOut : Bool} {short long : Text} (h : Shortens leftOut short long) :
    long = short ↔ leftOut = false := by
  cases leftOut with
  | false => exact iff_of_true (Eq.symm h) rfl
  | true =>
    refine iff_of_false ?_ nofun
    rintro rfl
    exact absurd h (Nat.lt_irrefl _)

private theorem ShortensAll.length_le {leftOut : Bool} {shorts longs : List Text}
    (h : ShortensAll leftOut shorts longs) :
    shorts.length ≤ longs.length ∧ shorts.flatten.length ≤ longs.flatten.length := by
  cases leftOut with
  | false => exact ⟨Nat.le_of_eq (congrArg _ h), Nat.le_of_eq (congrArg (·.flatten.length) h)⟩
  | true => exact ⟨h.1, Nat.le_of_lt h.2⟩

private theorem length_enclose (condition : Condition) (text : Text) :
    (condition.enclose text).length = text.length + if condition.isCompound then 2 else 0 := by
  rw [enclose]
  split <;> simp

private theorem ShortensAll.cons {member : Condition} {left right : Bool} {short long : Text}
    {shorts longs : List Text} (hmember : Shortens left short long)
    (hrest : ShortensAll right shorts longs) :
    ShortensAll (left || right)
      (if short.isEmpty then shorts else member.enclose short :: shorts)
      (if long.isEmpty then longs else member.enclose long :: longs) := by
  obtain ⟨hcount, hsize⟩ := hrest.length_le
  cases left with
  | false =>
    obtain rfl : short = long := hmember
    cases right with
    | false =>
      obtain rfl : shorts = longs := hrest
      rfl
    | true =>
      obtain ⟨-, hstrict⟩ : _ ∧ _ := hrest
      cases short with
      | nil => exact ⟨hcount, hstrict⟩
      | cons c cs => exact ⟨by simpa using hcount, by simpa using hstrict⟩
  | true =>
    have hstrict : short.length < long.length := hmember
    obtain ⟨c, cs, rfl⟩ : ∃ c cs, long = c :: cs := by
      refine List.exists_cons_of_ne_nil ?_
      rintro rfl
      exact absurd hstrict (Nat.not_lt_zero _)
    have hlong := length_enclose member (c :: cs)
    cases short with
    | nil =>
      refine ⟨Nat.le_succ_of_le hcount, ?_⟩
      simp only [List.isEmpty_nil, List.isEmpty_cons, if_true, Bool.false_eq_true, if_false,
        List.flatten_cons, List.length_append, hlong]
      simp only [List.length_cons]
      omega
    | cons b bs =>
      refine ⟨Nat.succ_le_succ hcount, ?_⟩
      simp only [List.isEmpty_cons, Bool.false_eq_true, if_false, List.flatten_cons,
        List.length_append, hlong, length_enclose member (b :: bs)]
      omega

private theorem ShortensAll.joinWith {leftOut : Bool} {shorts longs : List Text}
    (h : ShortensAll leftOut shorts longs) (separator : Text) :
    Shortens leftOut (Text.joinWith separator shorts) (Text.joinWith separator longs) := by
  cases leftOut with
  | false => exact congrArg _ h
  | true =>
    obtain ⟨hcount, hsize⟩ : _ ∧ _ := h
    have hseparators := Nat.mul_le_mul_right separator.length (Nat.sub_le_sub_right hcount 1)
    show (Text.joinWith separator shorts).length < (Text.joinWith separator longs).length
    rw [Text.length_joinWith, Text.length_joinWith]
    omega

private theorem shortens_comparison {test : Comparison} {short long : Text}
    (hshort : test.sql true = .ok short) (hlong : test.sql false = .ok long) :
    Shortens (!hasContent test.value) short long := by
  rcases Comparison.sql_eq_ok hlong with ⟨hignores, -⟩ | ⟨-, name, hname, rfl⟩
  · cases hignores
  rcases Comparison.sql_eq_ok hshort with ⟨-, hvalue, rfl⟩ | ⟨hspoken, other, hother, rfl⟩
  · rw [hvalue]
    refine List.length_pos_of_ne_nil fun hnil => ?_
    exact comparisonTail_ne_nil _ _ _ _ (List.append_eq_nil_iff.1 hnil).2
  · rw [Bool.true_and] at hspoken
    rw [hspoken]
    rw [Except.ok.inj (hother.symm.trans hname)]
    rfl

mutual

theorem shortens_sql (condition : Condition) {short long : Text}
    (hshort : condition.sql true = .ok short) (hlong : condition.sql false = .ok long) :
    Shortens condition.hasEmptyComparison short long :=
  match condition with
  | .comparison test => by
    rw [Condition.sql] at hshort hlong
    rw [hasEmptyComparison, leaves, List.any_cons, List.any_nil, Bool.or_false]
    · exact shortens_comparison hshort hlong
    · nofun
  | .raw text => by
    rw [Condition.sql, pure_eq_ok] at hshort hlong
    rw [hasEmptyComparison, leaves]
    · exact hshort.symm.trans hlong
    · nofun
  | .membership test => by
    rw [Condition.sql] at hshort hlong
    rw [hasEmptyComparison, leaves]
    · exact Except.ok.inj (hshort.symm.trans hlong)
    · nofun
  | .group connective members => by
    obtain ⟨shorts, hshorts, rfl⟩ := sql_group_eq_ok.1 hshort
    obtain ⟨longs, hlongs, rfl⟩ := sql_group_eq_ok.1 hlong
    rw [hasEmptyComparison, leaves]
    exact (shortensAll_memberSqls members hshorts hlongs).joinWith _
termination_by structural condition

private theorem shortensAll_memberSqls (members : List Condition) {shorts longs : List Text}
    (hshort : memberSqls true members = .ok shorts) (hlong : memberSqls false members = .ok longs) :
    ShortensAll ((leavesOf members).any isEmptyComparison) shorts longs :=
  match members with
  | [] => by
    rw [memberSqls_nil_eq_ok] at hshort hlong
    rw [hshort, hlong]
    rfl
  | member :: rest => by
    obtain ⟨short, shorts, hfirst, hothers, rfl⟩ := memberSqls_cons_eq_ok.1 hshort
    obtain ⟨long, longs, hfirst', hothers', rfl⟩ := memberSqls_cons_eq_ok.1 hlong
    rw [leavesOf, List.any_append]
    exact ShortensAll.cons (shortens_sql member hfirst hfirst')
      (shortensAll_memberSqls rest hothers hothers')
termination_by structural members

end

end Condition

end SqlSelect
