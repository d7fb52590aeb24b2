import SqlSelect.Number.Integer

/-!
What can go wrong: a query that lacks a part, a text that is not of the expected form, a result
that does not hold what is asked for, a failed call. Each cause has one message.
-/

set_option autoImplicit false
set_option relaxedAutoImplicit false

namespace SqlSelect

inductive SqlError where
  | noTables
  | noFields
  | orderRequired
  | invalidPageSize (size : UInt64)
  /-- The first row of the page has a number beyond 64 bits. -/
  | pageOutOfRange (index size : UInt64)
  /-- A join is neither inner nor left outer. -/
  | unknownJoinKind (found : Text)
  /-- A join condition is not one equality. -/
  | invalidJoinPredicate (found : Text)
  /-- A membership test is not of the form `field IN (...)`. -/
  | invalidMembership (found : Text)
  /-- A row limit is not a positive number of 32 bits. -/
  | invalidTop (found : Text)
  | missingColumn (column : Text)
  | typeMismatch (column expected : Text)
  | dataAccess (cause : Text)
deriving DecidableEq

def SqlError.message : SqlError → Text
  | .noTables => "no from tables specified".toList
  | .noFields => "no select fields specified".toList
  | .orderRequired => "order by fields required for pagination".toList
  | .invalidPageSize size =>
    "page size must be at least 1, got ".toList ++ Text.ofNat size.toNat
  | .pageOutOfRange index size =>
    "page ".toList ++ Text.ofNat index.toNat ++ " of size ".toList ++ Text.ofNat size.toNat ++
      " is out of range".toList
  | .unknownJoinKind found => "unknown join type: ".toList ++ found
  | .invalidJoinPredicate found => "invalid join predicate: ".toList ++ found
  | .invalidMembership found => "bad in condition format: ".toList ++ found
  | .invalidTop found => "invalid top value: ".toList ++ found
  | .missingColumn column =>
    "column `".toList ++ column ++ "` is not part of the result".toList
  | .typeMismatch column expected =>
    "column `".toList ++ column ++ "` cannot be read as ".toList ++ expected
  | .dataAccess cause => "data access failure: ".toList ++ cause

end SqlSelect
