import SqlSelect.Error
import SqlSelect.Query.Comparator
import SqlSelect.Text.Nesting
import SqlSelect.Text.Search

/-!
The text of a join, `kind table ON local = foreign`, cut into its parts, and the text of a run of
joins cut into single ones.
-/

set_option autoImplicit false
set_option relaxedAutoImplicit false

namespace SqlSelect

structure JoinText where
  kind : JoinKind
  table : Text
  localField : Text
  foreignField : Text
deriving DecidableEq

/-- The kind of a join and the table it joins. A left outer join is looked for first. -/
def takeJoinKind? (front : Text) : Option (JoinKind × Text) :=
  match Text.cut? JoinKind.leftOuter.sql front with
  | some (before, after) => some (.leftOuter, Text.trim (before ++ after))
  | none => (Text.cut? JoinKind.inner.sql front).map fun (before, after) =>
    (.inner, Text.trim (before ++ after))

/-- The runs of words between the words `=` outside parentheses. -/
def splitEquals : Int → List Text → List (List Text)
  | _, [] => [[]]
  | depth, word :: rest =>
    let depth := depth + Text.depth word
    if depth = 0 ∧ word = ['='] then [] :: splitEquals depth rest
    else (splitEquals depth rest).modifyHead (word :: ·)

def JoinText.read (text : Text) : Except SqlError JoinText :=
  let text := Text.trim text
  match Text.cutWord? "on".toList text with
  | none => .error (.invalidJoinPredicate text)
  | some (front, back) =>
    match takeJoinKind? front with
    | none => .error (.unknownJoinKind (Text.trim front))
    | some (kind, table) =>
      match splitEquals 0 (Text.words back) with
      | [left :: lefts, right :: rights] =>
        .ok ⟨kind, table, Text.unwords (left :: lefts), Text.unwords (right :: rights)⟩
      | _ => .error (.invalidJoinPredicate (Text.trim back))

def startsJoin (word : Text) : Bool :=
  Text.sameLetters "inner".toList word || Text.sameLetters "left".toList word

/-- The words of each join. The first word begins one in any case. -/
def splitJoins : Int → List Text → List (List Text)
  | _, [] => []
  | depth, word :: rest =>
    let after := depth + Text.depth word
    match rest, splitJoins after rest with
    | next :: _, piece :: pieces =>
      if after = 0 ∧ startsJoin next = true then [word] :: piece :: pieces
      else (word :: piece) :: pieces
    | _, pieces => [word] :: pieces

def joinPieces (text : Text) : List Text := (splitJoins 0 (Text.words text)).map Text.unwords

end SqlSelect
