import SqlSelect.Query.Parser

/-!
Reading membership tests: `field IN (...)` or `field NOT IN (...)` with a statement or a list of
values between the parentheses.
-/

set_option autoImplicit false
set_option relaxedAutoImplicit false

namespace SqlSelect

/-- Reads one value: a literal, an integer, a floating point number or `NULL`. -/
def Value.read? (text : Text) : Option Value :=
  match Text.inside? '\'' '\'' text with
  | some content => some (.text (Text.mergeQuotes content))
  | none =>
    match Text.readInt64? text with
    | some n => some (.int64 n)
    | none =>
      match FloatFormat.double.read? text with
      | some x => some (.double x)
      | none => if Text.sameLetters "null".toList text then some .null else none

def readValues? (text : Text) : Option (Bundle Value) :=
  ((((text.splitOn ',').map Text.trim).filter (!·.isEmpty)).mapM Value.read?).map fun values =>
    values.foldl Bundle.push .none

/-- The field text of a membership test and whether the test is negated. -/
def takeNegation (front : Text) : Text × Bool :=
  let front := Text.trim front
  let cut := front.length - 4
  if Text.sameLetters " not".toList (front.drop cut) then (front.take cut, true) else (front, false)

def Candidates.read (whole inner : Text) : Except SqlError Candidates :=
  if Text.startsWith "select".toList inner then (Query.parse inner).map Candidates.query
  else match readValues? inner with
    | some bundle => .ok (.values bundle)
    | none => .error (.invalidMembership whole)

def Membership.parse (text : Text) : Except SqlError Membership :=
  match Text.cutWord? "in".toList text with
  | none => .error (.invalidMembership text)
  | some (front, back) =>
    let (field, negated) := takeNegation front
    let back := Text.trim back
    let inner := Text.trim ((Text.inside? '(' ')' back).getD back)
    (Candidates.read text inner).map fun candidates =>
      { field := Field.parse field, candidates, negated }

end SqlSelect
