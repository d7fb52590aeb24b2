import SqlSelect.Query.Parser

/-!
The trace of reading a statement: every switch to a clause, the texts of the clauses, and then the
same for each nested statement in the order in which fields are read.
-/

set_option autoImplicit false
set_option relaxedAutoImplicit false

namespace SqlSelect

inductive ReadingStep where
  | switch (word : Text) (clause : Clause)
  | clauses (texts : ClauseTexts)
deriving DecidableEq

/-- The field texts of the joins up to the first one that cannot be read, and whether that is all
of them. -/
def joinFieldTexts : List Text → List Text × Bool
  | [] => ([], true)
  | piece :: rest =>
    match JoinText.read piece with
    | .error _ => ([], false)
    | .ok parts =>
      let (others, complete) := joinFieldTexts rest
      (parts.localField :: parts.foreignField :: others, complete)

/-- The field texts of a statement in the order in which they are read. Nothing is read behind a
join that cannot be. -/
def fieldTexts (clauses : ClauseTexts) : List Text :=
  let selected := if Text.trim clauses.select = ['*'] then [] else Text.items clauses.select
  let (joined, complete) := joinFieldTexts (joinPieces clauses.joins)
  selected ++ joined ++
    if complete then
      Text.items clauses.groups ++ (Text.items clauses.sorts).map fun text => (sortParts text).1
    else []

def switchSteps (marked : List MarkedWord) : List ReadingStep :=
  (marked.filter MarkedWord.switches).map fun mark => .switch mark.word mark.clause

def readingStepsWith (nested : Text → List ReadingStep) (text : Text) : List ReadingStep :=
  let marked := markedWords text
  switchSteps marked ++ match ClauseTexts.ofMarked marked with
    | .error _ => []
    | .ok texts => .clauses texts :: ((fieldTexts texts).filterMap nestedText?).flatMap nested

/-- The trace of a statement with at most `levels` levels of nested statements. -/
def readingStepsTo : (levels : Nat) → Text → List ReadingStep
  | 0 => readingStepsWith fun _ => []
  | levels + 1 => readingStepsWith (readingStepsTo levels)

def readingSteps (text : Text) : List ReadingStep := readingStepsTo (text.count '(') text

end SqlSelect
