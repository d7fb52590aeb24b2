import SqlSelect.Text.Case

/-!
The small enumerations of a statement, each with the words it is written with: comparators, the
connectives of a group, the kinds of join, and the directions of a sort.
-/

set_option autoImplicit false
set_option relaxedAutoImplicit false

namespace SqlSelect

inductive Comparator where
  | equal
  | greater
  | greaterOrEqual
  | less
  | lessOrEqual
  | notEqual
  | like
deriving DecidableEq

def Comparator.sql : Comparator → Text
  | .equal => ['=']
  | .greater => ['>']
  | .greaterOrEqual => ['>', '=']
  | .less => ['<']
  | .lessOrEqual => ['<', '=']
  | .notEqual => ['<', '>']
  | .like => ['L', 'I', 'K', 'E']

def Comparator.all : List Comparator :=
  [.equal, .greater, .greaterOrEqual, .less, .lessOrEqual, .notEqual, .like]

def Comparator.ofWord? (word : Text) : Option Comparator :=
  Comparator.all.find? fun comparator => Text.sameLetters comparator.sql word

inductive Connective where
  | and
  | or
deriving DecidableEq

def Connective.sql : Connective → Text
  | .and => ['A', 'N', 'D']
  | .or => ['O', 'R']

def Connective.flip : Connective → Connective
  | .and => .or
  | .or => .and

inductive JoinKind where
  | inner
  | leftOuter
deriving DecidableEq

def JoinKind.sql : JoinKind → Text
  | .inner => "INNER JOIN".toList
  | .leftOuter => "LEFT OUTER JOIN".toList

inductive Direction where
  | ascending
  | descending
deriving DecidableEq

def Direction.sql : Direction → Text
  | .ascending => ['A', 'S', 'C']
  | .descending => ['D', 'E', 'S', 'C']

theorem Comparator.ofWord?_sql (comparator : Comparator) :
    Comparator.ofWord? comparator.sql = some comparator := by
  cases comparator <;> decide

end SqlSelect
