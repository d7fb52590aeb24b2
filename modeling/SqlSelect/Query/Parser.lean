import SqlSelect.Query.Basic
import SqlSelect.Query.Clause
import SqlSelect.Query.JoinText

/-!
Reading tables, fields, sort keys, joins and statements. A field may hold a nested statement in
parentheses, so reading takes a reader for those; a statement is read with as many levels of
nesting as it has opening parentheses, which is as many as it can use.
-/

set_option autoImplicit false
set_option relaxedAutoImplicit false

namespace SqlSelect

/-- Reads `name`, `name alias` or `name AS alias`; what follows is not looked at. -/
def TableRef.parse (text : Text) : TableRef :=
  match Text.words text with
  | [] => ⟨[], none⟩
  | [name] => ⟨name, none⟩
  | name :: second :: rest =>
    ⟨name, if Text.sameLetters "as".toList second then rest.head? else some second⟩

def TableRef.parseList (text : Text) : List TableRef := (Text.items text).map TableRef.parse

/-- The name and the nested statement of `name = (statement)`. -/
def nestedParts? (text : Text) : Option (Text × Text) :=
  match Text.splitTopLevel '=' text with
  | [name, statement] =>
    (Text.inside? '(' ')' (Text.trim statement)).map fun inner => (Text.trim name, inner)
  | _ => none

/-- Whether an opening parenthesis stands behind a space. -/
def hasSpacedParenthesis (text : Text) : Bool := (Text.cut? " (".toList text).isSome

/-- The nested statement that a field text is read with. -/
def nestedText? (text : Text) : Option Text :=
  let text := Text.trim text
  if hasSpacedParenthesis text then (nestedParts? text).map Prod.snd else none

/-- Reads `table.name AS alias`, where table and alias may be missing. A text with parentheses is
kept as it is, unless it is `name = (statement)` with a complete statement. -/
def Field.parseWith (nested : Text → Option Query) (text : Text) : Field :=
  let text := Text.trim text
  if hasSpacedParenthesis text then
    match nestedParts? text with
    | none => { name := text }
    | some (name, inner) =>
      match (nested inner).filter Query.isComplete with
      | none => { name := text }
      | some query => { name, nested := some query }
  else if text.contains '(' then { name := text }
  else
    let (table, rest) := match Text.cutAt? '.' text with
      | some (table, rest) => (some (Text.trim table), rest)
      | none => (none, text)
    match Text.cutWord? "as".toList rest with
    | some (name, aliasName) =>
      { name := Text.trim name, table, aliasName := some (Text.trim aliasName) }
    | none => { name := Text.trim rest, table }

def Field.parseListWith (nested : Text → Option Query) (text : Text) : List Field :=
  (Text.items text).map (Field.parseWith nested)

def sortParts (text : Text) : Text × Direction :=
  let text := Text.trim text
  match Text.cutLast? isBlank text with
  | some (front, last) =>
    if Text.sameLetters Direction.descending.sql last then (front, .descending)
    else if Text.sameLetters Direction.ascending.sql last then (front, .ascending)
    else (text, .ascending)
  | none => (text, .ascending)

def SortKey.parseWith (nested : Text → Option Query) (text : Text) : SortKey :=
  let (field, direction) := sortParts text
  ⟨Field.parseWith nested field, direction⟩

def SortKey.parseListWith (nested : Text → Option Query) (text : Text) : List SortKey :=
  (Text.items text).map (SortKey.parseWith nested)

def Join.ofTextWith (nested : Text → Option Query) (parts : JoinText) : Join :=
  { kind := parts.kind
    table := TableRef.parse parts.table
    localField := Field.parseWith nested parts.localField
    foreignField := Field.parseWith nested parts.foreignField }

def Join.parseWith (nested : Text → Option Query) (text : Text) : Except SqlError Join := do
  let parts ← JoinText.read text
  return Join.ofTextWith nested parts

def Join.parseListWith (nested : Text → Option Query) (text : Text) : Except SqlError (List Join) :=
  (joinPieces text).mapM (Join.parseWith nested)

/-- The filter that keeps a text as it is; none if the text is blank. -/
def Condition.ofText? (text : Text) : Option Condition :=
  let text := Text.trim text
  if text.isEmpty then none else some (.raw text)

def parseProjectionWith (nested : Text → Option Query) (text : Text) : Bool × List Field :=
  if Text.trim text = ['*'] then (true, []) else (false, Field.parseListWith nested text)

namespace Query

def ofClausesWith (nested : Text → Option Query) (clauses : ClauseTexts) : Except SqlError Query := do
  let (selectsAll, fields) := parseProjectionWith nested clauses.select
  let into := Text.trim clauses.into
  let joins ← Join.parseListWith nested clauses.joins
  return {
    fields
    selectsAll
    into := if into.isEmpty then none else some into
    tables := TableRef.parseList clauses.tables
    joins
    filter := Condition.ofText? clauses.filter
    groups := Field.parseListWith nested clauses.groups
    having := Condition.ofText? clauses.having
    sorts := SortKey.parseListWith nested clauses.sorts
    top := clauses.top }

/-- Reads a statement with the given reader of nested statements. -/
def parseWith (nested : Text → Option Query) (text : Text) : Except SqlError Query := do
  let clauses ← ClauseTexts.read text
  ofClausesWith nested clauses

/-- Reads a statement with at most `levels` levels of nested statements. -/
def parseTo : (levels : Nat) → Text → Except SqlError Query
  | 0 => parseWith fun _ => none
  | levels + 1 => parseWith fun inner => (parseTo levels inner).toOption

def parse (text : Text) : Except SqlError Query := parseTo (text.count '(') text

def parse? (text : Text) : Option Query := (parse text).toOption

end Query

def Field.parse (text : Text) : Field := Field.parseWith Query.parse? text

def Field.parseList (text : Text) : List Field := Field.parseListWith Query.parse? text

def SortKey.parse (text : Text) : SortKey := SortKey.parseWith Query.parse? text

def SortKey.parseList (text : Text) : List SortKey := SortKey.parseListWith Query.parse? text

def Join.parse (text : Text) : Except SqlError Join := Join.parseWith Query.parse? text

def Join.parseList (text : Text) : Except SqlError (List Join) :=
  Join.parseListWith Query.parse? text

/-- Puts a query together from the texts of its clauses; a blank filter is none. -/
def Query.build (select tables filter sorts : Text) : Query :=
  let (selectsAll, fields) := parseProjectionWith Query.parse? select
  { fields
    selectsAll
    tables := TableRef.parseList tables
    filter := Condition.ofText? filter
    sorts := SortKey.parseList sorts }

end SqlSelect
