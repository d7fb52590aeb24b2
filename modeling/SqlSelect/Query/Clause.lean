import SqlSelect.Error
import SqlSelect.Query.Comparator
import SqlSelect.Text.Comment
import SqlSelect.Text.Nesting
import SqlSelect.Text.Search

/-!
The clauses of a statement. Each word of a statement either switches to a clause or belongs to the
clause in force; a word switches if it is a keyword, in any case, and the parentheses up to its
end are closed. So a nested query stays in the clause that holds it.
-/

set_option autoImplicit false
set_option relaxedAutoImplicit false

namespace SqlSelect

inductive Clause where
  | select
  | into
  | tables
  | joins
  | filter
  | groups
  | having
  | sorts
deriving DecidableEq

def clauseKeywords : List (Text × Clause) :=
  [("select".toList, .select), ("from".toList, .tables), ("where".toList, .filter),
    ("into".toList, .into), ("group".toList, .groups), ("having".toList, .having),
    ("inner".toList, .joins), ("left".toList, .joins), ("outer".toList, .joins),
    ("join".toList, .joins), ("order".toList, .sorts)]

/-- The clause that a word outside parentheses switches to. `by` belongs to the grouping right
behind a switch to it, and otherwise to the order. -/
def Clause.ofWord? (previous : Option Clause) (word : Text) : Option Clause :=
  match clauseKeywords.find? fun (keyword, _) => Text.sameLetters keyword word with
  | some (_, clause) => some clause
  | none =>
    if Text.sameLetters "by".toList word then
      some (if previous = some .groups then .groups else .sorts)
    else none

/-- A word of a statement with its clause: the one it switches to or the one it belongs to. -/
structure MarkedWord where
  word : Text
  clause : Clause
  switches : Bool
deriving DecidableEq

/-- Marks words from a place with the given clause in force, the clause that the word right before
switched to, and the depth of parentheses. -/
def markWords : Clause → Option Clause → Int → List Text → List MarkedWord
  | _, _, _, [] => []
  | current, previous, depth, word :: rest =>
    let depth := depth + Text.depth word
    match if depth = 0 then Clause.ofWord? previous word else none with
    | some clause => ⟨word, clause, true⟩ :: markWords clause (some clause) depth rest
    | none => ⟨word, current, false⟩ :: markWords current none depth rest

/-- The words of a statement, marked. Words before the first switch are taken as selected. -/
def markedWords (statement : Text) : List MarkedWord :=
  markWords .select none 0 (Text.words (Text.withoutComments statement))

def JoinKind.ofSwitch? (word : Text) : Option JoinKind :=
  if Text.sameLetters "inner".toList word then some .inner
  else if Text.sameLetters "left".toList word then some .leftOuter
  else none

/-- What a marked word leaves in the text of a clause. Switches leave nothing, but a switch that
begins a join leaves the kind of that join. -/
def MarkedWord.remains (clause : Clause) (marked : MarkedWord) : List Text :=
  if marked.switches then
    if clause = .joins then (JoinKind.ofSwitch? marked.word).toList.map JoinKind.sql else []
  else if marked.clause = clause then [marked.word] else []

def clausePieces (clause : Clause) (marked : List MarkedWord) : List Text :=
  marked.flatMap (MarkedWord.remains clause)

/-- The text of each clause, with one space between its pieces. -/
structure ClauseTexts where
  top : Option UInt32
  select : Text
  into : Text
  tables : Text
  joins : Text
  filter : Text
  groups : Text
  having : Text
  sorts : Text
deriving DecidableEq

/-- A positive number of 32 bits, possibly in parentheses. -/
def readTop? (word : Text) : Option UInt32 :=
  let digits := Text.dropTrailing ')' (Text.dropLeading '(' word)
  ((Text.readNatBelow? UInt32.size digits).filter (0 < ·)).map UInt32.ofNat

def takeTop : List Text → Except SqlError (Option UInt32 × List Text)
  | [] => .ok (none, [])
  | word :: rest =>
    if Text.sameLetters "top".toList word then
      let value := rest.head?.getD []
      match readTop? value with
      | some rows => .ok (some rows, rest.tail)
      | none => .error (.invalidTop value)
    else .ok (none, word :: rest)

def ClauseTexts.ofMarked (marked : List MarkedWord) : Except SqlError ClauseTexts := do
  let (top, selected) ← takeTop (clausePieces .select marked)
  let text clause := Text.unwords (clausePieces clause marked)
  return {
    top
    select := Text.unwords selected
    into := text .into
    tables := text .tables
    joins := text .joins
    filter := text .filter
    groups := text .groups
    having := text .having
    sorts := text .sorts }

def ClauseTexts.read (statement : Text) : Except SqlError ClauseTexts :=
  ClauseTexts.ofMarked (markedWords statement)

end SqlSelect
