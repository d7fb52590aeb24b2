import SqlSelect.Proofs.Query.Written
import SqlSelect.Proofs.Text.Spacing
import Mathlib.Data.List.Forall2

/-!
A written condition is a sequence of leaves, connectives and parentheses. Such a sequence is read
with parentheses first, then `AND`, then `OR`. Main statement: read in this way, the text of a
condition tree has the truth of the tree, whatever its leaves hold and however groups are nested.
-/

set_option autoImplicit false
set_option relaxedAutoImplicit false

namespace SqlSelect

/-- A piece of a written condition. A leaf carries its number among the leaves of the tree. -/
inductive ConditionToken where
  | leaf (place : Nat) (text : Text)
  | connective (kind : Connective)
  | opening
  | closing
deriving DecidableEq

namespace ConditionToken

def sql : ConditionToken → Text
  | .leaf _ text => text
  | .connective kind => ' ' :: kind.sql ++ [' ']
  | .opening => ['(']
  | .closing => [')']

def leaf? : ConditionToken → Option (Nat × Text)
  | .leaf place text => some (place, text)
  | _ => none

def spell (tokens : List ConditionToken) : Text := tokens.flatMap sql

def leaves (tokens : List ConditionToken) : List (Nat × Text) := tokens.filterMap leaf?

end ConditionToken

/-- What has been read inside one pair of parentheses. -/
structure ReadingLevel where
  /-- An alternative in front of the last `OR` holds. -/
  settled : Bool
  /-- The factors since then all hold. -/
  chain : Bool
  /-- A factor has to come next. -/
  due : Bool
deriving DecidableEq

namespace ReadingLevel

def start : ReadingLevel := ⟨false, true, true⟩

def holds (level : ReadingLevel) : Bool := level.settled || level.chain

def factor? (level : ReadingLevel) (truth : Bool) : Option ReadingLevel :=
  if level.due then some ⟨level.settled, level.chain && truth, false⟩ else none

/-- Reads a connective. `AND` goes on with the alternative and `OR` begins the next one. -/
def connect? (level : ReadingLevel) (connective : Connective) : Option ReadingLevel :=
  if level.due then none
  else match connective with
    | .and => some { level with due := true }
    | .or => some ⟨level.holds, true, true⟩

end ReadingLevel

namespace ConditionToken

def step? (truth : Nat → Bool) : ConditionToken → List ReadingLevel → Option (List ReadingLevel)
  | .leaf place _, level :: outer => (level.factor? (truth place)).map (· :: outer)
  | .connective kind, level :: outer => (level.connect? kind).map (· :: outer)
  | .opening, level :: outer => if level.due then some (.start :: level :: outer) else none
  | .closing, inner :: level :: outer =>
    if inner.due then none else (level.factor? inner.holds).map (· :: outer)
  | _, _ => none

def run? (truth : Nat → Bool) : List ConditionToken → List ReadingLevel → Option (List ReadingLevel)
  | [], levels => some levels
  | token :: tokens, levels => (token.step? truth levels).bind (run? truth tokens)

/-- The truth of a sequence when leaf `n` has the truth `truth n`. -/
def truth? (truth : Nat → Bool) (tokens : List ConditionToken) : Option Bool :=
  match run? truth tokens [.start] with
  | some [level] => if level.due then none else some level.holds
  | _ => none

private theorem run?_append (truth : Nat → Bool) (left right : List ConditionToken)
    (levels : List ReadingLevel) :
    run? truth (left ++ right) levels = (run? truth left levels).bind (run? truth right) := by
  induction left generalizing levels with
  | nil => rfl
  | cons token tokens ih =>
    rw [List.cons_append, run?, run?, Option.bind_assoc]
    exact congrArg _ (funext ih)

end ConditionToken

def Connective.join? (connective : Connective) : List Bool → Option Bool
  | [] => none
  | values => match connective with
    | .and => some (values.all id)
    | .or => some (values.any id)

/-- Whether a leaf writes nothing: a comparison without a value where those are ignored, a blank
text, or a membership test over no value. -/
def Condition.isElided (ignoresEmpty : Bool) : Condition → Bool
  | .comparison test => ignoresEmpty && !hasContent test.value
  | .raw text => text.all isBlank
  | .membership ⟨_, .values bundle, _⟩ => bundle.toList.isEmpty
  | .membership ⟨_, .query _, _⟩ => false
  | .group _ _ => false

mutual

def Condition.leaves : Condition → List Condition
  | .group _ members => Condition.leavesOf members
  | condition => [condition]
termination_by structural condition => condition

def Condition.leavesOf : List Condition → List Condition
  | [] => []
  | member :: rest => member.leaves ++ Condition.leavesOf rest
termination_by structural members => members

end

mutual

/-- The truth of a condition tree whose first leaf has the number `start`; a tree without a leaf
that writes something has none. A group joins the members that have one. -/
def Condition.value? (ignoresEmpty : Bool) (truth : Nat → Bool) (start : Nat) :
    Condition → Option Bool
  | .group connective members =>
    connective.join? (Condition.memberValues ignoresEmpty truth start members)
  | condition => if condition.isElided ignoresEmpty then none else some (truth start)
termination_by structural condition => condition

def Condition.memberValues (ignoresEmpty : Bool) (truth : Nat → Bool) (start : Nat) :
    List Condition → List Bool
  | [] => []
  | member :: rest =>
    (member.value? ignoresEmpty truth start).toList ++
      Condition.memberValues ignoresEmpty truth (start + member.leaves.length) rest
termination_by structural members => members

end

/-- The leaves that write something, each with its number. -/
def Condition.survivors (ignoresEmpty : Bool) (start : Nat) (leaves : List Condition) :
    List (Condition × Nat) :=
  (leaves.zipIdx start).filter fun (leaf, _) => !leaf.isElided ignoresEmpty

namespace ConditionToken

/-- The sequence is read as one factor, wherever a factor is due. -/
private def IsFactor (truth : Nat → Bool) (tokens : List ConditionToken) (value : Bool) : Prop :=
  ∀ (level : ReadingLevel) (outer : List ReadingLevel), level.due = true →
    run? truth tokens (level :: outer) =
      some (⟨level.settled, level.chain && value, false⟩ :: outer)

/-- The sequence is read as all that stands inside a pair of parentheses. -/
private def IsWhole (truth : Nat → Bool) (tokens : List ConditionToken) (value : Bool) : Prop :=
  ∀ outer : List ReadingLevel, ∃ level : ReadingLevel,
    run? truth tokens (.start :: outer) = some (level :: outer) ∧ level.due = false ∧
      level.holds = value

variable {truth : Nat → Bool} {tokens : List ConditionToken} {value : Bool}

private theorem isFactor_leaf (place : Nat) (text : Text) :
    IsFactor truth [.leaf place text] (truth place) := by
  intro level outer hdue
  simp [run?, step?, ReadingLevel.factor?, hdue]

private theorem IsFactor.isWhole (h : IsFactor truth tokens value) : IsWhole truth tokens value :=
  fun outer => ⟨_, h .start outer rfl, rfl, by simp [ReadingLevel.holds, ReadingLevel.start]⟩

private theorem IsWhole.isFactor_parentheses (h : IsWhole truth tokens value) :
    IsFactor truth (.opening :: tokens ++ [.closing]) value := by
  intro level outer hdue
  obtain ⟨inner, hrun, hinner, hholds⟩ := h (level :: outer)
  have hopen : step? truth .opening (level :: outer) = some (.start :: level :: outer) := by
    simp [step?, hdue]
  rw [List.cons_append, run?, hopen, Option.bind_some, run?_append, hrun, Option.bind_some]
  simp [run?, step?, hinner, hholds, ReadingLevel.factor?, hdue]

private theorem IsWhole.truth?_eq (h : IsWhole truth tokens value) :
    truth? truth tokens = some value := by
  obtain ⟨level, hrun, hdue, hholds⟩ := h []
  simp [truth?, hrun, hdue, hholds]

private theorem run?_and {pieces : List (List ConditionToken)} {values : List Bool}
    (h : List.Forall₂ (IsFactor truth) pieces values) (hne : pieces ≠ [])
    (level : ReadingLevel) (outer : List ReadingLevel) (hdue : level.due = true) :
    run? truth (List.intercalate [.connective .and] pieces) (level :: outer) =
      some (⟨level.settled, level.chain && values.all id, false⟩ :: outer) := by
  induction h generalizing level with
  | nil => exact absurd rfl hne
  | @cons piece value pieces values hpiece hrest ih =>
    cases hrest with
    | nil => simpa using hpiece level outer hdue
    | @cons next other more others hnext hmore =>
      rw [List.intercalate_cons_cons, List.append_assoc, run?_append, hpiece level outer hdue,
        Option.bind_some, List.singleton_append, run?]
      have hstep : step? truth (.connective .and)
          (⟨level.settled, level.chain && value, false⟩ :: outer) =
            some (⟨level.settled, level.chain && value, true⟩ :: outer) := rfl
      rw [hstep, Option.bind_some, ih (by simp) _ rfl]
      simp [Bool.and_assoc]

private theorem run?_or {pieces : List (List ConditionToken)} {values : List Bool}
    (h : List.Forall₂ (IsFactor truth) pieces values) (hne : pieces ≠ [])
    (settled : Bool) (outer : List ReadingLevel) :
    ∃ level : ReadingLevel,
      run? truth (List.intercalate [.connective .or] pieces) (⟨settled, true, true⟩ :: outer) =
        some (level :: outer) ∧ level.due = false ∧
          level.holds = (settled || values.any id) := by
  induction h generalizing settled with
  | nil => exact absurd rfl hne
  | @cons piece value pieces values hpiece hrest ih =>
    cases hrest with
    | nil =>
      refine ⟨⟨settled, value, false⟩, ?_, rfl, by simp [ReadingLevel.holds]⟩
      simpa using hpiece ⟨settled, true, true⟩ outer rfl
    | @cons next other more others hnext hmore =>
      obtain ⟨level, hrun, hdue, hholds⟩ := ih (by simp) (settled || value)
      refine ⟨level, ?_, hdue, by rw [hholds, List.any_cons, Bool.or_assoc]; rfl⟩
      rw [List.intercalate_cons_cons, List.append_assoc, run?_append,
        hpiece ⟨settled, true, true⟩ outer rfl, Option.bind_some, List.singleton_append, run?]
      have hstep : step? truth (.connective .or) (⟨settled, true && value, false⟩ :: outer) =
          some (⟨settled || value, true, true⟩ :: outer) := by
        simp [step?, ReadingLevel.connect?, ReadingLevel.holds]
      rw [hstep, Option.bind_some, hrun]

private theorem isWhole_intercalate {pieces : List (List ConditionToken)} {values : List Bool}
    (connective : Connective) (h : List.Forall₂ (IsFactor truth) pieces values)
    (hjoin : connective.join? values = some value) :
    IsWhole truth (List.intercalate [.connective connective] pieces) value := by
  have hvalues : values ≠ [] := by
    rintro rfl
    simp [Connective.join?] at hjoin
  have hpieces : pieces ≠ [] := by
    rintro rfl
    exact hvalues (List.forall₂_nil_left_iff.1 h)
  obtain ⟨first, rest, rfl⟩ := List.exists_cons_of_ne_nil hvalues
  intro outer
  cases connective with
  | and =>
    have hvalue : value = (first :: rest).all id := (Option.some.inj hjoin).symm
    refine ⟨_, run?_and h hpieces .start outer rfl, rfl, ?_⟩
    simp [ReadingLevel.holds, ReadingLevel.start, hvalue]
  | or =>
    have hvalue : value = (first :: rest).any id := (Option.some.inj hjoin).symm
    obtain ⟨level, hrun, hdue, hholds⟩ := run?_or h hpieces false outer
    exact ⟨level, hrun, hdue, by rw [hholds, hvalue, Bool.false_or]⟩

private theorem spell_append (left right : List ConditionToken) :
    spell (left ++ right) = spell left ++ spell right := List.flatMap_append

private theorem leaves_append (left right : List ConditionToken) :
    leaves (left ++ right) = leaves left ++ leaves right := List.filterMap_append

private theorem spell_intercalate (connective : Connective) (pieces : List (List ConditionToken)) :
    spell (List.intercalate [.connective connective] pieces) =
      Text.joinWith (' ' :: connective.sql ++ [' ']) (pieces.map spell) := by
  induction pieces with
  | nil => rfl
  | cons piece rest ih =>
    cases rest with
    | nil => simp
    | cons next more =>
      rw [List.intercalate_cons_cons, spell_append, spell_append, ih]
      simp [Text.joinWith_cons_cons, spell, sql]

private theorem leaves_flatten (pieces : List (List ConditionToken)) :
    leaves pieces.flatten = pieces.flatMap leaves := by
  induction pieces with
  | nil => rfl
  | cons piece rest ih => rw [List.flatten_cons, leaves_append, ih, List.flatMap_cons]

private theorem leaves_intercalate (connective : Connective) (pieces : List (List ConditionToken)) :
    leaves (List.intercalate [.connective connective] pieces) = pieces.flatMap leaves := by
  induction pieces with
  | nil => rfl
  | cons piece rest ih =>
    cases rest with
    | nil => simp
    | cons next more =>
      rw [List.intercalate_cons_cons, leaves_append, leaves_append, ih, List.flatMap_cons]
      simp [leaves, leaf?]

end ConditionToken

namespace Condition

variable {ignoresEmpty : Bool} {truth : Nat → Bool}

private def isLeaf : Condition → Bool
  | .group _ _ => false
  | _ => true

private theorem leaves_of_isLeaf {condition : Condition} (h : condition.isLeaf = true) :
    condition.leaves = [condition] := by
  cases condition with
  | group connective members => simp [isLeaf] at h
  | comparison test => simp [leaves]
  | raw text => simp [leaves]
  | membership test => simp [leaves]

private theorem value?_of_isLeaf {condition : Condition} (h : condition.isLeaf = true)
    (start : Nat) :
    condition.value? ignoresEmpty truth start =
      if condition.isElided ignoresEmpty then none else some (truth start) := by
  cases condition with
  | group connective members => simp [isLeaf] at h
  | comparison test => simp [value?]
  | raw text => simp [value?]
  | membership test => simp [value?]

private theorem sql_eq_nil_iff_of_isLeaf {condition : Condition} (hleaf : condition.isLeaf = true)
    {text : Text} (h : condition.sql ignoresEmpty = .ok text) :
    text = [] ↔ condition.isElided ignoresEmpty = true := by
  cases condition with
  | group connective members => simp [isLeaf] at hleaf
  | comparison test =>
    rw [Condition.sql] at h
    rcases Comparison.sql_eq_ok h with ⟨hignores, hvalue, rfl⟩ | ⟨hspoken, name, -, rfl⟩
    · simp [isElided, hignores, hvalue]
    · simp [isElided, hspoken, comparisonTail_ne_nil]
  | raw content =>
    rw [Condition.sql, pure_eq_ok] at h
    rw [← h, Text.trim_eq_nil_iff]
    rfl
  | membership test =>
    rw [Condition.sql] at h
    obtain ⟨field, candidates, negated⟩ := test
    rcases Membership.sql_eq_ok h with ⟨hempty, rfl⟩ | ⟨hfull, name, inner, -, -, rfl⟩
    · cases candidates with
      | values bundle => simpa [isElided, Bundle.isEmpty_toList, Candidates.isEmpty] using hempty
      | query nested => simp [Candidates.isEmpty] at hempty
    · cases candidates with
      | values bundle => simpa [isElided, Bundle.isEmpty_toList, Candidates.isEmpty] using hfull
      | query nested => simp [isElided]

private theorem join?_eq_none_iff (connective : Connective) (values : List Bool) :
    connective.join? values = none ↔ values = [] := by
  cases values with
  | nil => simp [Connective.join?]
  | cons first rest => cases connective <;> simp [Connective.join?]

mutual

private theorem value?_eq_none_iff (condition : Condition) (start : Nat) :
    condition.value? ignoresEmpty truth start = none ↔
      ∀ leaf ∈ condition.leaves, leaf.isElided ignoresEmpty = true :=
  match condition with
  | .group connective members => by
    rw [value?, leaves, join?_eq_none_iff]
    exact memberValues_eq_nil_iff members start
  | .comparison test => by simp [value?, leaves]
  | .raw text => by simp [value?, leaves]
  | .membership test => by simp [value?, leaves]
termination_by structural condition

private theorem memberValues_eq_nil_iff (members : List Condition) (start : Nat) :
    memberValues ignoresEmpty truth start members = [] ↔
      ∀ leaf ∈ leavesOf members, leaf.isElided ignoresEmpty = true :=
  match members with
  | [] => by simp [memberValues, leavesOf]
  | member :: rest => by
    rw [memberValues, leavesOf, List.append_eq_nil_iff, Option.toList_eq_nil_iff,
      value?_eq_none_iff member start, memberValues_eq_nil_iff rest, List.forall_mem_append]
termination_by structural members

end

private theorem survivors_append (start : Nat) (left right : List Condition) :
    survivors ignoresEmpty start (left ++ right) =
      survivors ignoresEmpty start left ++
        survivors ignoresEmpty (start + left.length) right := by
  rw [survivors, List.zipIdx_append, List.filter_append, survivors, survivors]

/-- What the leaves of a sequence have to be: the leaves that write something, in the order of the
tree, each with its number and its text. -/
def HasLeaves (ignoresEmpty : Bool) (start : Nat) (leaves : List Condition)
    (tokens : List ConditionToken) : Prop :=
  (ConditionToken.leaves tokens).map (fun (place, text) => (place, Except.ok text)) =
    (survivors ignoresEmpty start leaves).map fun (leaf, place) => (place, leaf.sql ignoresEmpty)

/-- A sequence that a condition is written as, when its first leaf has the number `start`. A
condition that is not compound is written as one factor. -/
private structure IsWriting (ignoresEmpty : Bool) (start : Nat) (condition : Condition)
    (text : Text) (tokens : List ConditionToken) : Prop where
  spelled : ConditionToken.spell tokens = text
  leaves : HasLeaves ignoresEmpty start condition.leaves tokens
  silent : ∀ truth, condition.value? ignoresEmpty truth start = none → text = []
  reads : ∀ truth value, condition.value? ignoresEmpty truth start = some value →
    text ≠ [] ∧ ConditionToken.IsWhole truth tokens value ∧
      (condition.isCompound = false → ConditionToken.IsFactor truth tokens value)

private structure IsMemberWriting (ignoresEmpty : Bool) (start : Nat) (members : List Condition)
    (texts : List Text) (pieces : List (List ConditionToken)) : Prop where
  spelled : pieces.map ConditionToken.spell = texts
  leaves : HasLeaves ignoresEmpty start (leavesOf members) pieces.flatten
  filled : ∀ text ∈ texts, text ≠ []
  reads : ∀ truth, List.Forall₂ (ConditionToken.IsFactor truth) pieces
    (memberValues ignoresEmpty truth start members)

private theorem HasLeaves.append {start : Nat} {left right : List Condition}
    {tokens others : List ConditionToken} (hleft : HasLeaves ignoresEmpty start left tokens)
    (hright : HasLeaves ignoresEmpty (start + left.length) right others) :
    HasLeaves ignoresEmpty start (left ++ right) (tokens ++ others) := by
  unfold HasLeaves at hleft hright ⊢
  rw [ConditionToken.leaves_append, survivors_append, List.map_append, List.map_append, hleft,
    hright]

private theorem hasLeaves_nil {leaves : List Condition} (start : Nat)
    (h : ∀ leaf ∈ leaves, leaf.isElided ignoresEmpty = true) :
    HasLeaves ignoresEmpty start leaves [] := by
  have hnone : survivors ignoresEmpty start leaves = [] := by
    rw [survivors, List.filter_eq_nil_iff]
    rintro ⟨leaf, place⟩ hmem
    simpa using h leaf (List.fst_mem_of_mem_zipIdx hmem)
  rw [HasLeaves, hnone]
  rfl

private theorem exists_isWriting_of_isLeaf {condition : Condition} (hleaf : condition.isLeaf = true)
    (start : Nat) {text : Text} (h : condition.sql ignoresEmpty = .ok text) :
    ∃ tokens, IsWriting ignoresEmpty start condition text tokens := by
  have hnil := sql_eq_nil_iff_of_isLeaf hleaf h
  have hvalue : ∀ truth, condition.value? ignoresEmpty truth start =
      if condition.isElided ignoresEmpty then none else some (truth start) :=
    fun truth => value?_of_isLeaf hleaf start
  by_cases helided : condition.isElided ignoresEmpty = true
  · refine ⟨[], (hnil.2 helided).symm, ?_, fun _ _ => hnil.2 helided, ?_⟩
    · rw [leaves_of_isLeaf hleaf]
      exact hasLeaves_nil start (by simpa using helided)
    · intro truth value hsome
      simp [hvalue, helided] at hsome
  · refine ⟨[.leaf start text], by simp [ConditionToken.spell, ConditionToken.sql], ?_, ?_, ?_⟩
    · rw [leaves_of_isLeaf hleaf]
      simp [HasLeaves, ConditionToken.leaves, ConditionToken.leaf?, survivors, helided, h]
    · intro truth hnone
      simp [hvalue, helided] at hnone
    · intro truth value hsome
      have htruth : truth start = value := by simpa [hvalue, helided] using hsome
      have hfactor : ConditionToken.IsFactor truth [.leaf start text] (truth start) :=
        ConditionToken.isFactor_leaf start text
      rw [htruth] at hfactor
      exact ⟨fun htext => helided (hnil.1 htext), hfactor.isWhole, fun _ => hfactor⟩

private theorem IsWriting.exists_factor {start : Nat} {condition : Condition} {text : Text}
    {tokens : List ConditionToken} (h : IsWriting ignoresEmpty start condition text tokens) :
    ∃ piece, ConditionToken.spell piece = condition.enclose text ∧
      HasLeaves ignoresEmpty start condition.leaves piece ∧
      ∀ truth value, condition.value? ignoresEmpty truth start = some value →
        ConditionToken.IsFactor truth piece value := by
  by_cases hcompound : condition.isCompound = true
  · refine ⟨.opening :: tokens ++ [.closing], ?_, ?_, ?_⟩
    · simp [enclose, hcompound, ← h.spelled, ConditionToken.spell, ConditionToken.sql]
    · have hleaves := h.leaves
      unfold HasLeaves at hleaves ⊢
      have hopening : ConditionToken.leaves [.opening] = [] := rfl
      have hclosing : ConditionToken.leaves [.closing] = [] := rfl
      rw [List.cons_append, ← List.singleton_append, ConditionToken.leaves_append,
        ConditionToken.leaves_append, hopening, hclosing, List.nil_append, List.append_nil, hleaves]
    · intro truth value hvalue
      exact (h.reads truth value hvalue).2.1.isFactor_parentheses
  · rw [Bool.not_eq_true] at hcompound
    refine ⟨tokens, by simp [enclose, hcompound, h.spelled], h.leaves, ?_⟩
    intro truth value hvalue
    exact (h.reads truth value hvalue).2.2 hcompound

private theorem isMemberWriting_nil (start : Nat) :
    IsMemberWriting ignoresEmpty start [] [] [] where
  spelled := rfl
  leaves := by
    have hnone : HasLeaves ignoresEmpty start [] [] := hasLeaves_nil start (by simp)
    simpa [leavesOf] using hnone
  filled := by simp
  reads _ := by simp [memberValues]

private theorem IsWriting.exists_isMemberWriting {start : Nat} {member : Condition} {text : Text}
    {tokens : List ConditionToken} (h : IsWriting ignoresEmpty start member text tokens)
    {rest : List Condition} {texts : List Text} {pieces : List (List ConditionToken)}
    (hrest : IsMemberWriting ignoresEmpty (start + member.leaves.length) rest texts pieces) :
    ∃ pieces, IsMemberWriting ignoresEmpty start (member :: rest)
      (if text.isEmpty then texts else member.enclose text :: texts) pieces := by
  by_cases htext : text = []
  · have hnone : ∀ truth, member.value? ignoresEmpty truth start = none := by
      intro truth
      cases hvalue : member.value? ignoresEmpty truth start with
      | none => rfl
      | some value => exact absurd htext (h.reads truth value hvalue).1
    have helided := (value?_eq_none_iff member start).1 (hnone fun _ => true)
    refine ⟨pieces, ?_, ?_, ?_, ?_⟩
    · simpa [htext] using hrest.spelled
    · simpa [leavesOf] using (hasLeaves_nil start helided).append hrest.leaves
    · simpa [htext] using hrest.filled
    · intro truth
      simpa [memberValues, hnone] using hrest.reads truth
  · obtain ⟨piece, hspell, hleaves, hfactor⟩ := h.exists_factor
    refine ⟨piece :: pieces, ?_, ?_, ?_, ?_⟩
    · simp [htext, hspell, hrest.spelled]
    · simpa [leavesOf] using hleaves.append hrest.leaves
    · have henclosed : member.enclose text ≠ [] := by
        rw [enclose]
        split
        · simp
        · exact htext
      simpa [htext] using ⟨henclosed, hrest.filled⟩
    · intro truth
      cases hvalue : member.value? ignoresEmpty truth start with
      | none => exact absurd (h.silent truth hvalue) htext
      | some value =>
        simpa [memberValues, hvalue] using ⟨hfactor truth value hvalue, hrest.reads truth⟩

private theorem length_memberValues_le (start : Nat) (members : List Condition) :
    (memberValues ignoresEmpty truth start members).length ≤ members.length := by
  induction members generalizing start with
  | nil => simp [memberValues]
  | cons member rest ih =>
    have hrest := ih (start + member.leaves.length)
    have hfirst : (member.value? ignoresEmpty truth start).toList.length ≤ 1 := by
      cases member.value? ignoresEmpty truth start <;> simp
    rw [memberValues, List.length_append, List.length_cons]
    omega

private theorem IsMemberWriting.isWriting_group {start : Nat} {members : List Condition}
    {texts : List Text} {pieces : List (List ConditionToken)}
    (h : IsMemberWriting ignoresEmpty start members texts pieces) (connective : Connective) :
    IsWriting ignoresEmpty start (.group connective members)
      (Text.joinWith (' ' :: connective.sql ++ [' ']) texts)
      (List.intercalate [.connective connective] pieces) where
  spelled := by rw [ConditionToken.spell_intercalate, h.spelled]
  leaves := by
    have hleaves := h.leaves
    unfold HasLeaves at hleaves ⊢
    rw [ConditionToken.leaves_intercalate, ← ConditionToken.leaves_flatten, Condition.leaves]
    exact hleaves
  silent truth hnone := by
    rw [value?, join?_eq_none_iff] at hnone
    have hpieces : pieces = [] := List.forall₂_nil_right_iff.1 (hnone ▸ h.reads truth)
    rw [← h.spelled, hpieces]
    rfl
  reads truth value hvalue := by
    rw [value?] at hvalue
    have hreads := h.reads truth
    have hwhole := ConditionToken.isWhole_intercalate connective hreads hvalue
    refine ⟨?_, hwhole, ?_⟩
    · cases hpieces : pieces with
      | nil =>
        rw [hpieces, List.forall₂_nil_left_iff] at hreads
        simp [hreads, Connective.join?] at hvalue
      | cons piece others =>
        have hmem : ConditionToken.spell piece ∈ texts := by simp [← h.spelled, hpieces]
        exact Text.joinWith_ne_nil hmem (h.filled _ hmem)
    · intro hcompound
      have hmembers : members.length ≤ 1 := by simpa [isCompound] using hcompound
      have hlength : (memberValues ignoresEmpty truth start members).length ≤ members.length :=
        length_memberValues_le start members
      generalize memberValues ignoresEmpty truth start members = values at hreads hvalue hlength
      cases hreads with
      | nil => simp [Connective.join?] at hvalue
      | @cons piece single others rest hpiece hrest =>
        cases hrest with
        | nil =>
          have hsingle : single = value := by cases connective <;> simpa [Connective.join?] using hvalue
          simpa [← hsingle] using hpiece
        | cons _ _ =>
          simp only [List.length_cons] at hlength
          omega

mutual

private theorem exists_isWriting (condition : Condition) (start : Nat) {text : Text}
    (h : condition.sql ignoresEmpty = .ok text) :
    ∃ tokens, IsWriting ignoresEmpty start condition text tokens :=
  match condition with
  | .group connective members => by
    obtain ⟨texts, htexts, rfl⟩ := sql_group_eq_ok.1 h
    obtain ⟨pieces, hpieces⟩ := exists_isMemberWriting members start htexts
    exact ⟨_, hpieces.isWriting_group connective⟩
  | .comparison test => exists_isWriting_of_isLeaf (by rfl) start h
  | .raw content => exists_isWriting_of_isLeaf (by rfl) start h
  | .membership test => exists_isWriting_of_isLeaf (by rfl) start h
termination_by structural condition

private theorem exists_isMemberWriting (members : List Condition) (start : Nat) {texts : List Text}
    (h : memberSqls ignoresEmpty members = .ok texts) :
    ∃ pieces, IsMemberWriting ignoresEmpty start members texts pieces :=
  match members with
  | [] => by
    rw [memberSqls_nil_eq_ok.1 h]
    exact ⟨[], isMemberWriting_nil start⟩
  | member :: rest => by
    obtain ⟨first, others, hfirst, hothers, rfl⟩ := memberSqls_cons_eq_ok.1 h
    obtain ⟨tokens, htokens⟩ := exists_isWriting member start hfirst
    obtain ⟨pieces, hpieces⟩ := exists_isMemberWriting rest (start + member.leaves.length) hothers
    exact htokens.exists_isMemberWriting hpieces
termination_by structural members

end

/-- A condition that is written keeps its boolean structure: it writes nothing exactly if all its
leaves are elided, and otherwise its text is a sequence of the texts of the other leaves, in the
order of the tree, that reads as the tree for every truth of the leaves. -/
theorem sql_reads_as_tree {condition : Condition} {text : Text}
    (h : condition.sql ignoresEmpty = .ok text) :
    (text = [] ↔ ∀ leaf ∈ condition.leaves, leaf.isElided ignoresEmpty = true) ∧
      (text ≠ [] → ∃ tokens, ConditionToken.spell tokens = text ∧
        (ConditionToken.leaves tokens).map (fun (place, text) => (place, Except.ok text)) =
          (survivors ignoresEmpty 0 condition.leaves).map
            (fun (leaf, place) => (place, leaf.sql ignoresEmpty)) ∧
        ∀ truth, ∃ value, condition.value? ignoresEmpty truth 0 = some value ∧
          ConditionToken.truth? truth tokens = some value) := by
  obtain ⟨tokens, htokens⟩ := exists_isWriting condition 0 h
  have hsilent : text = [] ↔ ∀ leaf ∈ condition.leaves, leaf.isElided ignoresEmpty = true := by
    rw [← @value?_eq_none_iff ignoresEmpty (fun _ => true) condition 0]
    constructor
    · intro htext
      cases hvalue : condition.value? ignoresEmpty (fun _ => true) 0 with
      | none => rfl
      | some value => exact absurd htext (htokens.reads _ value hvalue).1
    · exact htokens.silent _
  refine ⟨hsilent, fun htext => ⟨tokens, htokens.spelled, htokens.leaves, fun truth => ?_⟩⟩
  cases hvalue : condition.value? ignoresEmpty truth 0 with
  | none => exact absurd (htokens.silent truth hvalue) htext
  | some value => exact ⟨value, rfl, (htokens.reads truth value hvalue).2.1.truth?_eq⟩

/-- A group of one group around a mixed one, with an elided leaf on the way. -/
theorem sql_reads_as_tree_of_mixed_groups :
    let tree : Condition := .group .and [.raw ['a'], .group .or
      [.comparison { field := { name := ['x'] }, comparator := some .equal, value := none },
        .group .or [.group .or [.raw ['b'], .raw ['c']]]]]
    tree.sql true = .ok "a AND ((b OR c))".toList ∧
      ∃ tokens, ConditionToken.spell tokens = "a AND ((b OR c))".toList ∧
        ∀ truth, ConditionToken.truth? truth tokens = some (truth 0 && (truth 2 || truth 3)) := by
  intro tree
  have hwritten : tree.sql true = .ok "a AND ((b OR c))".toList := rfl
  obtain ⟨tokens, hspell, -, hreads⟩ := (sql_reads_as_tree hwritten).2 (by decide)
  refine ⟨hwritten, tokens, hspell, fun truth => ?_⟩
  obtain ⟨value, hvalue, htruth⟩ := hreads truth
  have htree : tree.value? true truth 0 = some (truth 0 && (truth 2 || truth 3)) := by
    simp [tree, value?, memberValues, leaves, isElided, hasContent, isBlank, blankCodes,
      Connective.join?]
  rw [htruth, ← hvalue, htree]

end Condition

end SqlSelect
