import SqlSelect.Text.Blank

/-!
The fixed pieces of a written statement, each with the spaces that set it off.
-/

set_option autoImplicit false
set_option relaxedAutoImplicit false

namespace SqlSelect.Phrase

def select : Text := "SELECT ".toList

def top : Text := "TOP ".toList

def into : Text := " INTO #".toList

def tables : Text := " FROM ".toList

def filter : Text := " WHERE ".toList

def groups : Text := " GROUP BY ".toList

def having : Text := " HAVING ".toList

def sorts : Text := " ORDER BY ".toList

def comma : Text := ", ".toList

def aliasName : Text := " AS ".toList

def nested : Text := " = (".toList

def on : Text := " ON ".toList

def equals : Text := " = ".toList

def isIn : Text := " IN (".toList

def notIn : Text := " NOT IN (".toList

def isNull : Text := " IS NULL".toList

def isNotNull : Text := " IS NOT NULL".toList

def null : Text := " NULL".toList

end SqlSelect.Phrase
