import Mathlib.Data.List.Perm.Basic
import SqlSelect.Proofs.Query.Names
import SqlSelect.Proofs.Query.Written

/-!
Which word of a statement belongs to which clause, told place by place from the words alone: the
depth of parentheses at the end of a word, the words that switch, and the last switch in front of a
place. Main statement: the text of a clause is made of the words that follow a switch to it, and
reading fails only at a row limit that is none.
-/

set_option autoImplicit false
set_option relaxedAutoImplicit false

namespace SqlSelect

def Clause.keywords : Clause → List Text
  | .select => ["select".toList]
  | .into => ["into".toList]
  | .tables => ["from".toList]
  | .joins => ["inner".toList, "left".toList, "outer".toList, "join".toList]
  | .filter => ["where".toList]
  | .groups => ["group".toList]
  | .having => ["having".toList]
  | .sorts => ["order".toList]

def Clause.isKeyword (clause : Clause) (word : Text) : Bool :=
  clause.keywords.any (Text.sameLetters · word)

def Clause.all : List Clause :=
  [.select, .into, .tables, .joins, .filter, .groups, .having, .sorts]

/-- The depth of parentheses at the end of the word at a place. -/
def depthThrough (pieces : List Text) (place : Nat) : Int :=
  Text.depth (pieces.take (place + 1)).flatten

/-- The clause that the word right in front of a place switches to, if it does. -/
def switchBefore? (pieces : List Text) : Nat → Option Clause
  | 0 => none
  | place + 1 =>
    if depthThrough pieces place = 0 then
      pieces[place]?.bind (Clause.ofWord? (switchBefore? pieces place))
    else none

def switchAt? (pieces : List Text) (place : Nat) : Option Clause := switchBefore? pieces (place + 1)

/-- The clause in force at a place: that of the last switch in front of it, and the selection if
there is none. -/
def clauseAt (pieces : List Text) (place : Nat) : Clause :=
  ((List.range place).filterMap (switchAt? pieces)).getLast?.getD .select

/-- The word at a place, if it does not switch and the clause is in force there. -/
def ownWord (pieces : List Text) (clause : Clause) (place : Nat) : List Text :=
  if switchAt? pieces place = none ∧ clauseAt pieces place = clause then pieces[place]?.toList
  else []

def joinPhrase (pieces : List Text) (place : Nat) : List Text :=
  if switchAt? pieces place = none then []
  else pieces[place]?.toList.flatMap fun word =>
    if Text.sameLetters "inner".toList word then ["INNER JOIN".toList]
    else if Text.sameLetters "left".toList word then ["LEFT OUTER JOIN".toList]
    else []

/-- The words of a clause and, among the joins, the phrase of each join. -/
def clauseParts (pieces : List Text) (clause : Clause) : List Text :=
  (List.range pieces.length).flatMap fun place =>
    (if clause = .joins then joinPhrase pieces place else []) ++ ownWord pieces clause place

def unswitchedWords (pieces : List Text) : List Text :=
  (List.range pieces.length).flatMap fun place =>
    if switchAt? pieces place = none then pieces[place]?.toList else []

def ClauseTexts.text (texts : ClauseTexts) : Clause → Text
  | .select => texts.select
  | .into => texts.into
  | .tables => texts.tables
  | .joins => texts.joins
  | .filter => texts.filter
  | .groups => texts.groups
  | .having => texts.having
  | .sorts => texts.sorts

/-- The decimal digits of a number, with or without a plus sign in front. -/
def Text.IsNatural (text : Text) (n : Nat) : Prop :=
  ∃ digits : Text, (text = digits ∨ text = '+' :: digits) ∧ digits ≠ [] ∧
    (∀ c ∈ digits, c.isDigit = true) ∧ Nat.ofDigitChars 10 digits 0 = n

/-- A number of 32 bits from one on, with any parentheses opened in front and closed behind. -/
def IsRowLimit (word : Text) (rows : UInt32) : Prop :=
  rows ≠ 0 ∧ Text.IsNatural (Text.dropTrailing ')' (Text.dropLeading '(' word)) rows.toNat

/-- What is selected behind a row limit, if one stands in front. -/
inductive TakesLimit : List Text → Option UInt32 → List Text → Prop
  | unlimited {selected : List Text}
      (other : ∀ first ∈ selected.head?, Text.sameLetters "top".toList first = false) :
      TakesLimit selected none selected
  | limited {first value : Text} {rest : List Text} {rows : UInt32}
      (top : Text.sameLetters "top".toList first = true) (limit : IsRowLimit value rows) :
      TakesLimit (first :: value :: rest) (some rows) rest

section Keywords

private theorem isKeyword_of_mem {keyword : Text} {clause : Clause}
    (h : (keyword, clause) ∈ clauseKeywords) : keyword ∈ clause.keywords := by
  have htable : ∀ entry ∈ clauseKeywords, entry.1 ∈ entry.2.keywords := by decide
  exact htable _ h

private theorem mem_clauseKeywords {keyword : Text} {clause : Clause}
    (h : keyword ∈ clause.keywords) :
    (keyword, clause) ∈ clauseKeywords := by
  have htable : ∀ clause ∈ Clause.all, ∀ keyword ∈ clause.keywords,
      (keyword, clause) ∈ clauseKeywords := by decide
  have hclause : clause ∈ Clause.all := by cases clause <;> decide
  exact htable clause hclause keyword h

private theorem clause_eq_of_sameLetters {word : Text} {first second : Text × Clause}
    (hfirst : first ∈ clauseKeywords) (hsecond : second ∈ clauseKeywords)
    (hword : Text.sameLetters first.1 word = true)
    (hword' : Text.sameLetters second.1 word = true) : first.2 = second.2 := by
  have htable : ∀ first ∈ clauseKeywords, ∀ second ∈ clauseKeywords,
      Text.foldCase first.1 = Text.foldCase second.1 → first.2 = second.2 := by decide
  apply htable first hfirst second hsecond
  rw [Text.sameLetters, beq_iff_eq] at hword hword'
  rw [hword, hword']

private theorem not_isKeyword_by {word : Text} (h : Text.sameLetters "by".toList word = true)
    (clause : Clause) : clause.isKeyword word = false := by
  have htable : ∀ clause ∈ Clause.all, ∀ keyword ∈ clause.keywords,
      Text.foldCase keyword ≠ Text.foldCase "by".toList := by decide
  have hclause : clause ∈ Clause.all := by cases clause <;> decide
  rw [Clause.isKeyword, List.any_eq_false]
  intro keyword hkeyword hsame
  rw [Text.sameLetters, beq_iff_eq] at h hsame
  exact htable clause hclause keyword hkeyword (hsame.trans h.symm)

theorem Clause.ofWord?_eq_some_iff {previous : Option Clause} {word : Text} {clause : Clause} :
    Clause.ofWord? previous word = some clause ↔ clause.isKeyword word = true ∨
      Text.sameLetters "by".toList word = true ∧
        clause = if previous = some .groups then .groups else .sorts := by
  rw [Clause.ofWord?]
  split
  · next keyword found hfound =>
    have hmem := List.mem_of_find?_eq_some hfound
    have hsame : Text.sameLetters keyword word = true := by
      simpa using List.find?_some hfound
    have hkeyword : found.isKeyword word = true := by
      rw [Clause.isKeyword, List.any_eq_true]
      exact ⟨keyword, isKeyword_of_mem hmem, hsame⟩
    constructor
    · intro h
      rw [← Option.some.inj h]
      exact Or.inl hkeyword
    · rintro (h | ⟨hby, -⟩)
      · obtain ⟨other, hother, hletters⟩ := List.any_eq_true.1 h
        exact congrArg some
          (clause_eq_of_sameLetters hmem (mem_clauseKeywords hother) hsame hletters)
      · rw [not_isKeyword_by hby] at hkeyword
        exact Bool.noConfusion hkeyword
  · next hnone =>
    have hkeyword : clause.isKeyword word = false := by
      rw [Clause.isKeyword, List.any_eq_false]
      intro keyword hkeyword
      exact List.find?_eq_none.1 hnone _ (mem_clauseKeywords hkeyword)
    rw [hkeyword]
    split
    · next hby =>
      constructor
      · intro h
        exact Or.inr ⟨hby, (Option.some.inj h).symm⟩
      · rintro (h | ⟨-, h⟩)
        · exact Bool.noConfusion h
        · exact congrArg some h.symm
    · next hby =>
      constructor
      · intro h
        exact Option.noConfusion rfl (heq_of_eq h)
      · rintro (h | ⟨h, -⟩)
        · exact Bool.noConfusion h
        · exact absurd h hby

private theorem switchAt?_eq_some_iff {pieces : List Text} {place : Nat} {clause : Clause} :
    switchAt? pieces place = some clause ↔ ∃ word, pieces[place]? = some word ∧
      depthThrough pieces place = 0 ∧ (clause.isKeyword word = true ∨
        Text.sameLetters "by".toList word = true ∧
          clause = if switchBefore? pieces place = some .groups then .groups else .sorts) := by
  rw [switchAt?, switchBefore?]
  constructor
  · intro h
    split at h
    · next hdepth =>
      obtain ⟨word, hword, hclause⟩ := Option.bind_eq_some_iff.1 h
      exact ⟨word, hword, hdepth, Clause.ofWord?_eq_some_iff.1 hclause⟩
    · simp at h
  · rintro ⟨word, hword, hdepth, hclause⟩
    rw [if_pos hdepth, hword]
    exact Clause.ofWord?_eq_some_iff.2 hclause

end Keywords

section Marking

variable {current : Clause} {previous : Option Clause} {depth : Int} {word : Text}

theorem markWords_switch {clause : Clause} (hdepth : depth + Text.depth word = 0)
    (h : Clause.ofWord? previous word = some clause) (rest : List Text) :
    markWords current previous depth (word :: rest) =
      ⟨word, clause, true⟩ :: markWords clause (some clause) (depth + Text.depth word) rest := by
  rw [markWords]
  simp only [if_pos hdepth, h]

theorem markWords_own
    (h : depth + Text.depth word = 0 → Clause.ofWord? previous word = none) (rest : List Text) :
    markWords current previous depth (word :: rest) =
      ⟨word, current, false⟩ :: markWords current none (depth + Text.depth word) rest := by
  have hnone : (if depth + Text.depth word = 0 then Clause.ofWord? previous word else none) =
      none := by
    split
    · next hdepth => exact h hdepth
    · rfl
  rw [markWords]
  simp only [hnone]

theorem mem_of_mem_markWords {current : Clause} {previous : Option Clause} {depth : Int}
    {pieces : List Text} {marked : MarkedWord}
    (h : marked ∈ markWords current previous depth pieces) : marked.word ∈ pieces := by
  induction pieces generalizing current previous depth with
  | nil => exact absurd h List.not_mem_nil
  | cons word rest ih =>
    rw [markWords] at h
    split at h
    · rcases List.mem_cons.1 h with rfl | hrest
      · exact List.mem_cons_self
      · exact List.mem_cons_of_mem _ (ih hrest)
    · rcases List.mem_cons.1 h with rfl | hrest
      · exact List.mem_cons_self
      · exact List.mem_cons_of_mem _ (ih hrest)

theorem exists_markWords_append (left : List Text) (current : Clause) (previous : Option Clause)
    (depth : Int) : ∃ clause switch, ∀ right, markWords current previous depth (left ++ right) =
      markWords current previous depth left ++
        markWords clause switch (depth + Text.depth left.flatten) right := by
  induction left generalizing current previous depth with
  | nil => exact ⟨current, previous, fun right => by simp [markWords]⟩
  | cons word left ih =>
    have hdepth : depth + Text.depth (word :: left).flatten =
        depth + Text.depth word + Text.depth left.flatten := by
      rw [List.flatten_cons, Text.depth_append, Int.add_assoc]
    rw [hdepth]
    cases hclause : if depth + Text.depth word = 0 then Clause.ofWord? previous word else none with
    | some clause =>
      obtain ⟨last, switch, hmore⟩ := ih clause (some clause) (depth + Text.depth word)
      refine ⟨last, switch, fun right => ?_⟩
      simp only [List.cons_append, markWords, hclause, hmore]
    | none =>
      obtain ⟨last, switch, hmore⟩ := ih current none (depth + Text.depth word)
      refine ⟨last, switch, fun right => ?_⟩
      simp only [List.cons_append, markWords, hclause, hmore]

end Marking

section Places

variable (pieces : List Text)

private theorem clauseAt_succ (place : Nat) :
    clauseAt pieces (place + 1) = (switchAt? pieces place).getD (clauseAt pieces place) := by
  rw [clauseAt, clauseAt, List.range_succ, List.filterMap_append]
  cases hswitch : switchAt? pieces place with
  | none => simp [hswitch]
  | some clause => simp [hswitch]

private theorem depthThrough_eq {place : Nat} {word : Text} (h : pieces[place]? = some word) :
    depthThrough pieces place = Text.depth (pieces.take place).flatten + Text.depth word := by
  rw [depthThrough, List.take_add_one, h]
  simp

private theorem ofWord?_of_switchAt? {place : Nat} {word : Text} {clause : Clause}
    (hword : pieces[place]? = some word) (h : switchAt? pieces place = some clause) :
    Text.depth (pieces.take place).flatten + Text.depth word = 0 ∧
      Clause.ofWord? (switchBefore? pieces place) word = some clause := by
  rw [switchAt?, switchBefore?, depthThrough_eq pieces hword, hword] at h
  split at h
  · next hclosed => exact ⟨hclosed, h⟩
  · exact Option.noConfusion rfl (heq_of_eq h)

private theorem ofWord?_of_not_switchAt? {place : Nat} {word : Text}
    (hword : pieces[place]? = some word)
    (h : switchAt? pieces place = none)
    (hclosed : Text.depth (pieces.take place).flatten + Text.depth word = 0) :
    Clause.ofWord? (switchBefore? pieces place) word = none := by
  rwa [switchAt?, switchBefore?, depthThrough_eq pieces hword, hword, if_pos hclosed] at h

private theorem remains_switch (clause : Clause) {place : Nat} {word : Text} {target : Clause}
    (hword : pieces[place]? = some word) (hswitch : switchAt? pieces place = some target) :
    MarkedWord.remains clause ⟨word, target, true⟩ =
      (if clause = .joins then joinPhrase pieces place else []) ++ ownWord pieces clause place := by
  have hphrase : joinPhrase pieces place =
      (JoinKind.ofSwitch? word).toList.map JoinKind.sql := by
    rw [joinPhrase, hswitch, hword, JoinKind.ofSwitch?]
    simp only [reduceCtorEq, if_false, Option.toList_some, List.flatMap_singleton]
    split
    · rfl
    · split <;> rfl
  rw [MarkedWord.remains, hphrase, ownWord, hswitch]
  simp

private theorem remains_own (clause : Clause) {place : Nat} {word : Text}
    (hword : pieces[place]? = some word) (hswitch : switchAt? pieces place = none) :
    MarkedWord.remains clause ⟨word, clauseAt pieces place, false⟩ =
      (if clause = .joins then joinPhrase pieces place else []) ++ ownWord pieces clause place := by
  rw [MarkedWord.remains, joinPhrase, ownWord, hswitch, hword]
  simp

/-- The marks from a place on, when marking has come as far as the place: the clause in force, the
switch right in front and the depth are those of the words in front. -/
private theorem clausePieces_markWords (clause : Clause) {place : Nat} {rest : List Text}
    (h : pieces.drop place = rest) :
    clausePieces clause (markWords (clauseAt pieces place) (switchBefore? pieces place)
        (Text.depth (pieces.take place).flatten) rest) =
      (List.range' place rest.length).flatMap fun place =>
        (if clause = .joins then joinPhrase pieces place else []) ++
          ownWord pieces clause place := by
  induction rest generalizing place with
  | nil => rfl
  | cons word rest ih =>
    have hword : pieces[place]? = some word := by
      rw [← List.head?_drop, h]
      rfl
    have hrest : pieces.drop (place + 1) = rest := by
      rw [← List.drop_drop, h]
      rfl
    have hdepth := depthThrough_eq pieces hword
    have hnext : Text.depth (pieces.take (place + 1)).flatten =
        Text.depth (pieces.take place).flatten + Text.depth word := hdepth
    have hmore := ih hrest
    rw [clauseAt_succ, hnext] at hmore
    rw [List.length_cons, List.range'_succ, List.flatMap_cons, ← hmore]
    cases htarget : switchAt? pieces place with
    | some target =>
      obtain ⟨hclosed, hclause⟩ := ofWord?_of_switchAt? pieces hword htarget
      have hbefore : switchBefore? pieces (place + 1) = some target := htarget
      rw [markWords_switch hclosed hclause, hbefore, Option.getD_some, clausePieces,
        List.flatMap_cons, remains_switch pieces clause hword htarget]
      rfl
    | none =>
      have hbefore : switchBefore? pieces (place + 1) = none := htarget
      rw [markWords_own (ofWord?_of_not_switchAt? pieces hword htarget), hbefore,
        Option.getD_none, clausePieces, List.flatMap_cons, remains_own pieces clause hword htarget]
      rfl

private theorem clausePieces_markedWords (clause : Clause) (statement : Text) :
    clausePieces clause (markedWords statement) =
      clauseParts (Text.words (Text.withoutComments statement)) clause := by
  have hall := clausePieces_markWords (Text.words (Text.withoutComments statement)) clause
    (List.drop_zero)
  rw [clauseParts, List.range_eq_range']
  exact hall

private theorem perm_unswitchedWords : List.Perm
    (Clause.all.flatMap fun clause => (List.range pieces.length).flatMap (ownWord pieces clause))
    (unswitchedWords pieces) := by
  have hone (place : Nat) : (Clause.all.flatMap fun clause => ownWord pieces clause place) =
      if switchAt? pieces place = none then pieces[place]?.toList else [] := by
    by_cases hswitch : switchAt? pieces place = none
    · simp only [ownWord, hswitch, true_and, if_true]
      cases clauseAt pieces place <;> simp [Clause.all]
    · simp [ownWord, hswitch]
  rw [unswitchedWords]
  induction List.range pieces.length with
  | nil => simp
  | cons place places ih =>
    simp only [List.flatMap_cons]
    have hswap := List.flatMap_append_perm Clause.all (fun clause => ownWord pieces clause place)
      fun clause => places.flatMap (ownWord pieces clause)
    rw [hone] at hswap
    exact hswap.symm.trans (ih.append_left _)

end Places

section Limit

private theorem Text.readDigits?_eq_some_iff {text : Text} {n : Nat} :
    Text.readDigits? text = some n ↔
      text ≠ [] ∧ (∀ c ∈ text, c.isDigit = true) ∧ Nat.ofDigitChars 10 text 0 = n := by
  rw [Text.readDigits?]
  split
  · next h =>
    simp only [reduceCtorEq, false_iff]
    rintro ⟨hfilled, hdigits, -⟩
    rcases h with hempty | hother
    · exact hfilled (List.isEmpty_iff.1 hempty)
    · rw [List.all_eq_true.2 hdigits] at hother
      exact Bool.noConfusion hother
  · next h =>
    rw [not_or, List.isEmpty_iff, Bool.not_eq_false, List.all_eq_true] at h
    constructor
    · intro hvalue
      exact ⟨h.1, h.2, Option.some.inj hvalue⟩
    · rintro ⟨-, -, hvalue⟩
      exact congrArg some hvalue

private theorem Text.readNatBelow?_eq_some_iff {bound n : Nat} {text : Text} :
    Text.readNatBelow? bound text = some n ↔ text.IsNatural n ∧ n < bound := by
  have hbelow (digits : Text) :
      (Text.readDigits? digits).filter (· < bound) = some n ↔
        (digits ≠ [] ∧ (∀ c ∈ digits, c.isDigit = true) ∧ Nat.ofDigitChars 10 digits 0 = n) ∧
          n < bound := by
    rw [Option.filter_eq_some_iff, Text.readDigits?_eq_some_iff, decide_eq_true_eq]
  unfold Text.readNatBelow?
  split
  · next rest =>
    refine (hbelow rest).trans (and_congr_left fun _ => ?_)
    constructor
    · intro h
      exact ⟨rest, Or.inr rfl, h⟩
    · rintro ⟨digits, rfl | hsigned, hfilled, hdigits, hvalue⟩
      · have hplus := hdigits '+' List.mem_cons_self
        exact absurd hplus (by decide)
      · obtain rfl := (List.cons.inj hsigned).2
        exact ⟨hfilled, hdigits, hvalue⟩
  · next hbare =>
    refine (hbelow text).trans (and_congr_left fun _ => ?_)
    constructor
    · intro h
      exact ⟨text, Or.inl rfl, h⟩
    · rintro ⟨digits, rfl | hsigned, h⟩
      · exact h
      · exact absurd hsigned (hbare digits)

private theorem readTop?_eq_some_iff {word : Text} {rows : UInt32} :
    readTop? word = some rows ↔ IsRowLimit word rows := by
  rw [readTop?, IsRowLimit, Option.map_eq_some_iff]
  constructor
  · rintro ⟨n, hn, rfl⟩
    obtain ⟨hread, hpositive⟩ := Option.filter_eq_some_iff.1 hn
    obtain ⟨hnatural, hbound⟩ := Text.readNatBelow?_eq_some_iff.1 hread
    have hvalue : (UInt32.ofNat n).toNat = n := UInt32.toNat_ofNat_of_lt' hbound
    refine ⟨?_, by rwa [hvalue]⟩
    intro hzero
    rw [hzero] at hvalue
    have hnone : n = 0 := hvalue.symm
    simp [hnone] at hpositive
  · rintro ⟨hpositive, hnatural⟩
    have hread := Text.readNatBelow?_eq_some_iff.2 ⟨hnatural, rows.toNat_lt_size⟩
    have hrows : 0 < rows.toNat :=
      Nat.pos_of_ne_zero fun hzero => hpositive (UInt32.toNat_inj.1 hzero)
    exact ⟨rows.toNat, Option.filter_eq_some_iff.2 ⟨hread, by simpa using hrows⟩,
      UInt32.ofNat_toNat⟩

private theorem readTop?_eq_none_iff {word : Text} :
    readTop? word = none ↔ ∀ rows, ¬IsRowLimit word rows := by
  rw [Option.eq_none_iff_forall_ne_some]
  simp only [ne_eq, readTop?_eq_some_iff]

theorem takeTop_of_other {first : Text} {others : List Text}
    (h : Text.sameLetters "top".toList first = false) :
    takeTop (first :: others) = .ok (none, first :: others) := by
  rw [takeTop, h]
  rfl

private theorem takeTop_of_top {first : Text} {others : List Text}
    (h : Text.sameLetters "top".toList first = true) :
    takeTop (first :: others) = match readTop? (others.head?.getD []) with
      | some rows => .ok (some rows, others.tail)
      | none => .error (.invalidTop (others.head?.getD [])) := by
  rw [takeTop, h]
  rfl

private theorem not_isRowLimit_nil {rows : UInt32} : ¬IsRowLimit [] rows := by
  rintro ⟨-, digits, hdigits | hsigned, hfilled, -⟩
  · exact hfilled hdigits.symm
  · exact List.cons_ne_nil _ _ hsigned.symm

theorem takeTop_eq_ok_iff {selected rest : List Text} {top : Option UInt32} :
    takeTop selected = .ok (top, rest) ↔ TakesLimit selected top rest := by
  constructor
  · intro h
    cases selected with
    | nil =>
      obtain ⟨rfl, rfl⟩ := Prod.mk.inj (Except.ok.inj h)
      exact .unlimited (by simp)
    | cons first others =>
      cases htop : Text.sameLetters "top".toList first with
      | false =>
        rw [takeTop_of_other htop] at h
        obtain ⟨rfl, rfl⟩ := Prod.mk.inj (Except.ok.inj h)
        exact .unlimited (by simpa using htop)
      | true =>
        rw [takeTop_of_top htop] at h
        split at h
        · next rows hrows =>
          obtain ⟨rfl, rfl⟩ := Prod.mk.inj (Except.ok.inj h)
          have hlimit := readTop?_eq_some_iff.1 hrows
          cases others with
          | nil => exact absurd hlimit not_isRowLimit_nil
          | cons value rest => exact .limited htop hlimit
        · exact Except.noConfusion rfl rfl (heq_of_eq h)
  · rintro (⟨hother⟩ | ⟨htop, hlimit⟩)
    · cases selected with
      | nil => rfl
      | cons first others => exact takeTop_of_other (hother first rfl)
    · rw [takeTop_of_top htop, List.head?_cons, Option.getD_some, readTop?_eq_some_iff.2 hlimit]
      rfl

private theorem takeTop_eq_error_iff {selected : List Text} {cause : SqlError} :
    takeTop selected = .error cause ↔
      (∃ first ∈ selected.head?, Text.sameLetters "top".toList first = true) ∧
        (∀ rows, ¬IsRowLimit (selected[1]?.getD []) rows) ∧
          cause = .invalidTop (selected[1]?.getD []) := by
  cases selected with
  | nil => simp [takeTop]
  | cons first others =>
    have hvalue : (first :: others)[1]?.getD [] = others.head?.getD [] := by
      rw [List.getElem?_cons_succ, List.head?_eq_getElem?]
    rw [hvalue, ← readTop?_eq_none_iff]
    constructor
    · intro h
      cases htop : Text.sameLetters "top".toList first with
      | false =>
        rw [takeTop_of_other htop] at h
        exact Except.noConfusion rfl rfl (heq_of_eq h)
      | true =>
        rw [takeTop_of_top htop] at h
        split at h
        · exact Except.noConfusion rfl rfl (heq_of_eq h)
        · next hnone => exact ⟨⟨first, rfl, htop⟩, hnone, (Except.error.inj h).symm⟩
    · rintro ⟨⟨top, hfirst, htop⟩, hnone, rfl⟩
      obtain rfl := Option.some.inj hfirst
      rw [takeTop_of_top htop, hnone]

theorem ClauseTexts.ofMarked_eq_ok_iff {marked : List MarkedWord} {texts : ClauseTexts} :
    ClauseTexts.ofMarked marked = .ok texts ↔
      (∃ rest, takeTop (clausePieces .select marked) = .ok (texts.top, rest) ∧
        texts.select = Text.unwords rest) ∧
      ∀ clause, clause ≠ .select →
        texts.text clause = Text.unwords (clausePieces clause marked) := by
  rw [ClauseTexts.ofMarked, bind_eq_ok]
  constructor
  · rintro ⟨⟨top, rest⟩, htop, h⟩
    obtain rfl := Except.ok.inj h
    refine ⟨⟨rest, htop, rfl⟩, ?_⟩
    intro clause hclause
    cases clause with
    | select => exact absurd rfl hclause
    | _ => rfl
  · rintro ⟨⟨rest, htop, hselect⟩, htexts⟩
    refine ⟨(texts.top, rest), htop, congrArg Except.ok ?_⟩
    have hinto := htexts .into nofun
    have htables := htexts .tables nofun
    have hjoins := htexts .joins nofun
    have hfilter := htexts .filter nofun
    have hgroups := htexts .groups nofun
    have hhaving := htexts .having nofun
    have hsorts := htexts .sorts nofun
    cases texts
    simp only [ClauseTexts.text] at *
    subst_vars
    rfl

private theorem ClauseTexts.ofMarked_eq_error_iff {marked : List MarkedWord} {cause : SqlError} :
    ClauseTexts.ofMarked marked = .error cause ↔
      takeTop (clausePieces .select marked) = .error cause := by
  rw [ClauseTexts.ofMarked]
  cases htop : takeTop (clausePieces .select marked) with
  | ok taken => exact ⟨nofun, nofun⟩
  | error other =>
    constructor
    · intro h
      exact congrArg Except.error (Except.error.inj h)
    · intro h
      exact congrArg Except.error (Except.error.inj h)

end Limit

/-- Each word of a statement that stands where the parentheses are closed and is a keyword switches;
every other word belongs to the clause of the last switch in front of it, so none is lost. The text
of a clause is made of its words, in order, with the phrase of each join among the joins and without
the row limit in the selection. Reading fails exactly at a row limit that is none. -/
theorem ClauseTexts.read_by_last_switch (statement : Text) :
    let pieces := Text.words (Text.withoutComments statement)
    (∀ place clause, switchAt? pieces place = some clause ↔
      ∃ word, pieces[place]? = some word ∧ depthThrough pieces place = 0 ∧
        (clause.isKeyword word = true ∨ Text.sameLetters "by".toList word = true ∧
          clause = if switchBefore? pieces place = some .groups then .groups else .sorts)) ∧
    List.Perm (Clause.all.flatMap fun clause =>
      (List.range pieces.length).flatMap (ownWord pieces clause)) (unswitchedWords pieces) ∧
    (∀ texts, ClauseTexts.read statement = .ok texts ↔
      (∃ rest, TakesLimit (clauseParts pieces .select) texts.top rest ∧
        texts.select = Text.unwords rest) ∧
      ∀ clause, clause ≠ .select → texts.text clause = Text.unwords (clauseParts pieces clause)) ∧
    ∀ cause, ClauseTexts.read statement = .error cause ↔
      (∃ first ∈ (clauseParts pieces .select).head?, Text.sameLetters "top".toList first = true) ∧
        (∀ rows, ¬IsRowLimit ((clauseParts pieces .select)[1]?.getD []) rows) ∧
          cause = .invalidTop ((clauseParts pieces .select)[1]?.getD []) := by
  intro pieces
  have hparts (clause : Clause) :
      clausePieces clause (markedWords statement) = clauseParts pieces clause :=
    clausePieces_markedWords clause statement
  refine ⟨fun place clause => switchAt?_eq_some_iff, perm_unswitchedWords pieces, ?_, ?_⟩
  · intro texts
    rw [ClauseTexts.read, ClauseTexts.ofMarked_eq_ok_iff, hparts]
    simp only [hparts, takeTop_eq_ok_iff]
  · intro cause
    rw [ClauseTexts.read, ClauseTexts.ofMarked_eq_error_iff, hparts]
    exact takeTop_eq_error_iff

end SqlSelect
