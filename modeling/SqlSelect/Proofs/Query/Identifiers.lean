import SqlSelect.Proofs.Query.FieldText

/-!
Fields that are identifiers, reserved words among them. Main statement: an identifier, alone or
behind the identifier of a table, is one word and is read back as the field.
-/

set_option autoImplicit false
set_option relaxedAutoImplicit false

namespace SqlSelect

namespace Text

/-- A run of ASCII letters, ASCII digits and underscores. It may be a reserved word. -/
structure IsIdentifier (name : Text) : Prop where
  filled : name ≠ []
  chars : ∀ c ∈ name, isNameChar c = true

instance (name : Text) : Decidable name.IsIdentifier :=
  decidable_of_iff (name ≠ [] ∧ name.all isNameChar = true)
    ⟨fun h => ⟨h.1, List.all_eq_true.1 h.2⟩, fun h => ⟨h.filled, List.all_eq_true.2 h.chars⟩⟩

private theorem IsIdentifier.isWord {name : Text} (h : name.IsIdentifier) : name.IsWord :=
  ⟨h.filled, fun c hc => isBlank_of_isNameChar (h.chars c hc)⟩

end Text

namespace Field

/-- An identifier, which may stand behind a table that is one too, and nothing else. -/
structure IsIdentifier (field : Field) : Prop where
  name : field.name.IsIdentifier
  table : ∀ table ∈ field.table, table.IsIdentifier
  bare : field = { name := field.name, table := field.table }

instance (field : Field) : Decidable field.IsIdentifier :=
  decidable_of_iff (field.name.IsIdentifier ∧ (∀ table ∈ field.table, table.IsIdentifier) ∧
      field = { name := field.name, table := field.table })
    ⟨fun h => ⟨h.1, h.2.1, h.2.2⟩, fun h => ⟨h.name, h.table, h.bare⟩⟩

def identifierText (field : Field) : Text := qualifiedName true field.table field.name

namespace IsIdentifier

variable {field : Field}

theorem sql_eq (h : field.IsIdentifier) : field.sql true = .ok field.identifierText := by
  refine sql_of_nested_eq_none ?_
  rw [h.bare]

theorem isWord (h : field.IsIdentifier) : field.identifierText.IsWord :=
  isWord_qualifiedName h.name.isWord fun other hother => (h.table other hother).isWord

theorem notMem (h : field.IsIdentifier) {c : Char} (hname : isNameChar c = false)
    (hpoint : c ≠ '.') : c ∉ field.identifierText := by
  have hfront := Text.notMem_of_nameChars h.name.chars hname
  rcases qualifiedName_cases field.name (fun _ => Text.IsIdentifier.filled) h.table with
    ⟨-, hbare⟩ | ⟨other, -, hother, hqualified⟩
  · rwa [identifierText, hbare]
  · rw [identifierText, hqualified, List.mem_append, List.mem_cons]
    rintro (hmem | hmem | hmem)
    · exact Text.notMem_of_nameChars hother.chars hname hmem
    · exact hpoint hmem
    · exact hfront hmem

theorem parseWith_eq (h : field.IsIdentifier) (nested : Text → Option Query) :
    parseWith nested field.identifierText = field := by
  have htrim {other : Text} (hother : other.IsIdentifier) : Text.trim other = other :=
    hother.isWord.isSpaced.trim_eq
  have hopening : '(' ∉ field.identifierText := h.notMem (by decide) (by decide)
  have hcut : Text.cutAt? '.' field.identifierText =
      field.table.map fun table => (table, field.name) := by
    rcases qualifiedName_cases field.name (fun _ => Text.IsIdentifier.filled) h.table with
      ⟨hnone, hbare⟩ | ⟨other, hsome, hother, hqualified⟩
    · rw [identifierText, hbare, hnone]
      exact Text.cutAt?_eq_none (Text.notMem_of_nameChars h.name.chars (by decide))
    · rw [identifierText, hqualified, hsome]
      exact Text.cutAt?_append (Text.notMem_of_nameChars hother.chars (by decide)) _
  have hbare : field.table = none → field.name = field.identifierText := by
    intro hnone
    rw [identifierText, hnone]
    rfl
  have hplain : aliased field.name none = field.name := List.append_nil field.name
  have hword := @cutWord?_aliased _ h.name.isWord none (by simp)
  rw [hplain] at hword
  have hread := parseWith_of_cut h.isWord.isSpaced hopening hcut
    (fun other hother => htrim (h.table other hother)) hbare hword (htrim h.name) (by simp)
    (fun _ => rfl) nested
  exact hread.trans h.bare.symm

end IsIdentifier

end Field

end SqlSelect
