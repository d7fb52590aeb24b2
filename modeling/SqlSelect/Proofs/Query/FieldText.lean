import SqlSelect.Proofs.Query.Names
import SqlSelect.Proofs.Query.Written
import SqlSelect.Proofs.Text.Cutting
import SqlSelect.Query.Parser

/-!
Fields, tables and sort keys that are read back from what they are written as. Main statement: a
column, a function call and a nested query are each one entry of a list, and the entry is read as
the field.
-/

set_option autoImplicit false
set_option relaxedAutoImplicit false

namespace SqlSelect

/-- A clean text that is a name with something in parentheses behind it. -/
structure Text.IsCall (text : Text) : Prop where
  clean : text.IsClean
  spelled : ∃ name arguments : Text, name ≠ [] ∧ (∀ c ∈ name, isNameChar c = true) ∧
    arguments.IsNested ∧ text = name ++ '(' :: arguments ++ [')']

namespace Field

/-- A name, which may stand behind a table and in front of an alias. -/
structure IsColumn (field : Field) : Prop where
  name : field.name.IsPlainName
  table : ∀ table ∈ field.table, table.IsPlainName
  aliasName : ∀ aliasName ∈ field.aliasName, aliasName.IsPlainName
  nested : field.nested = none

/-- A function call that is kept as it was written. -/
structure IsFunctionCall (field : Field) : Prop where
  call : field.name.IsCall
  bare : field = { name := field.name }

structure IsSubQuery (field : Field) : Prop where
  name : field.name.IsPlainName
  bare : field = { name := field.name, nested := field.nested }
  nested : field.nested.isSome = true

def IsOperand (field : Field) : Prop :=
  field.IsColumn ∧ field.aliasName = none ∨ field.IsFunctionCall

/-- The text is an entry that is read as the field and cannot be taken for a row limit. -/
structure ReadsBack (nested : Text → Option Query) (field : Field) (text : Text) : Prop where
  entry : text.IsEntry
  read : parseWith nested text = field
  begins : ∀ first ∈ (Text.words text).head?, Text.sameLetters "top".toList first = false

theorem sql_of_nested_eq_none {field : Field} (h : field.nested = none) :
    field.sql true = .ok (qualifiedName true field.table field.name) := by
  obtain ⟨name, table, aliasName, nested⟩ := field
  obtain rfl : nested = none := h
  rw [Field.sql, Query.nestedSql, pure_bind, List.append_nil]
  rfl

private theorem hasSpacedParenthesis_eq_false {text : Text} (h : '(' ∉ text) :
    hasSpacedParenthesis text = false := by
  have hnone : Text.cut? " (".toList text = none :=
    Text.cut?_eq_none (c := '(') (by decide) fun d hd hsame =>
      h (Text.eq_of_toLower_eq (by decide) hsame ▸ hd)
  rw [hasSpacedParenthesis, hnone]
  rfl

def aliased (name : Text) (aliasName : Option Text) : Text := name ++ aliasSuffix aliasName

theorem cutWord?_aliased {name : Text} (hname : name.IsWord) {aliasName : Option Text}
    (halias : ∀ other ∈ aliasName, other.IsWord) :
    Text.cutWord? "as".toList (aliased name aliasName) = aliasName.map fun other => (name, other) := by
  cases aliasName with
  | none =>
    have hspace : ∀ d ∈ name, d.toLower ≠ ' '.toLower := by
      intro d hd hsame
      obtain rfl : d = ' ' := Text.eq_of_toLower_eq (by decide) hsame
      exact absurd (hname.2 ' ' hd) (by decide)
    have hnone : aliased name none = name := List.append_nil name
    rw [hnone, Text.cutWord?, Text.cut?_eq_none (c := ' ') (by decide) hspace]
    rfl
  | some other =>
    have hother := halias other rfl
    have hmiddle : ∀ between ∈ (Text.words name).tail,
        Text.sameLetters "as".toList between = false := by
      rw [Text.words_of_isWord hname]
      simp
    obtain ⟨c, rest, rfl⟩ := List.exists_cons_of_ne_nil hother.1
    have hcut := hname.isSpaced.cutWord?_append hother.isSpaced (by decide)
      (show Text.IsWord "AS".toList by decide) (by decide) hmiddle
    simpa [aliased, aliasSuffix, Phrase.aliasName] using hcut

def columnText (field : Field) : Text :=
  aliased (qualifiedName true field.table field.name) field.aliasName

private theorem isEntry_aliased {name : Text} (hname : name.IsEntry) {aliasName : Option Text}
    (halias : ∀ other ∈ aliasName, other.IsPlainName) : (aliased name aliasName).IsEntry := by
  cases aliasName with
  | none => simpa [aliased, aliasSuffix] using hname
  | some other =>
    have hother := halias other rfl
    have has : Text.IsEntry "AS".toList :=
      Text.isEntry_of_word (by decide) (by decide) (by decide)
    obtain ⟨c, rest, rfl⟩ := List.exists_cons_of_ne_nil hother.filled
    have hwhole := hname.append_space (has.append_space hother.isEntry)
    simpa [aliased, aliasSuffix, Phrase.aliasName] using hwhole

private theorem words_aliased {name : Text} (hname : name.IsWord) (aliasName : Option Text) :
    (Text.words (aliased name aliasName)).head? = some name := by
  have hbare : Text.words (name ++ []) = [name] := by
    rw [List.append_nil, Text.words_of_isWord hname]
  cases aliasName with
  | none => exact congrArg List.head? hbare
  | some other =>
    cases other with
    | nil => exact congrArg List.head? hbare
    | cons c rest =>
      have hsplit := Text.words_append_space name ("AS ".toList ++ c :: rest)
      rw [Text.words_of_isWord hname, List.singleton_append] at hsplit
      exact congrArg List.head? hsplit

theorem qualifiedName_cases (name : Text) {p : Text → Prop} (hp : ∀ other, p other → other ≠ [])
    {table : Option Text} (htable : ∀ other ∈ table, p other) :
    table = none ∧ qualifiedName true table name = name ∨
      ∃ other, table = some other ∧ p other ∧
        qualifiedName true table name = other ++ '.' :: name := by
  cases table with
  | none => exact .inl ⟨rfl, rfl⟩
  | some other =>
    have hother := htable other rfl
    obtain ⟨c, rest, rfl⟩ := List.exists_cons_of_ne_nil (hp other hother)
    exact .inr ⟨c :: rest, rfl, hother, rfl⟩

theorem isWord_qualifiedName {name : Text} {table : Option Text} (hname : name.IsWord)
    (htable : ∀ other ∈ table, other.IsWord) : (qualifiedName true table name).IsWord := by
  rcases qualifiedName_cases name (fun _ => And.left) htable with
    ⟨-, hbare⟩ | ⟨other, -, hother, hqualified⟩
  · rw [hbare]
    exact hname
  · have hpoint : Text.IsWord ['.'] := by decide
    have hback : Text.IsWord (['.'] ++ name) := hpoint.append hname
    rw [hqualified]
    exact Text.IsWord.append hother hback

private theorem isWord_qualifiedPlainName {name : Text} {table : Option Text}
    (hname : name.IsPlainName)
    (htable : ∀ other ∈ table, other.IsPlainName) : (qualifiedName true table name).IsWord :=
  isWord_qualifiedName hname.isWord fun other hother => (htable other hother).isWord

theorem isEntry_qualifiedName {name : Text} {table : Option Text} (hname : name.IsPlainName)
    (htable : ∀ other ∈ table, other.IsPlainName) : (qualifiedName true table name).IsEntry := by
  have hword := isWord_qualifiedPlainName hname htable
  rcases qualifiedName_cases name (fun _ => Text.IsPlainName.filled) htable with
    ⟨-, hbare⟩ | ⟨other, -, hother, hqualified⟩
  · rw [hbare]
    exact hname.isEntry
  · have hpoint : '.' ∈ other ++ '.' :: name := by simp
    rw [hqualified] at hword ⊢
    refine Text.isEntry_of_word hword (isClauseWord_of_mem hpoint (by decide)) fun c hc => ?_
    rcases List.mem_append.1 hc with hc | hc
    · exact notMem_marks_of_isNameChar (hother.chars c hc)
    · rcases List.mem_cons.1 hc with rfl | hc
      · decide
      · exact notMem_marks_of_isNameChar (hname.chars c hc)

private theorem not_top_qualifiedName {name : Text} {table : Option Text} (hname : name.IsPlainName)
    (htable : ∀ other ∈ table, other.IsPlainName) :
    Text.sameLetters "top".toList (qualifiedName true table name) = false := by
  rcases qualifiedName_cases name (fun _ => Text.IsPlainName.filled) htable with
    ⟨-, hbare⟩ | ⟨other, -, -, hqualified⟩
  · rw [hbare]
    exact hname.unreserved _ (by decide)
  · have hpoint : '.' ∈ other ++ '.' :: name := by simp
    rw [hqualified]
    exact Text.not_sameLetters_of_mem hpoint (by decide)

private theorem notMem_aliased {name : Text} {aliasName : Option Text} {c : Char} (hname : c ∉ name)
    (halias : ∀ other ∈ aliasName, c ∉ other) (hc : c ∉ Phrase.aliasName) :
    c ∉ aliased name aliasName := by
  cases aliasName with
  | none => simpa [aliased, aliasSuffix] using hname
  | some other =>
    have hother := halias other rfl
    cases other with
    | nil => simpa [aliased, aliasSuffix] using hname
    | cons d rest =>
      rw [aliased, aliasSuffix, List.mem_append, List.mem_append]
      rintro (hmem | hmem | hmem)
      · exact hname hmem
      · exact hc hmem
      · exact hother hmem

theorem IsColumn.notMem {field : Field} (h : field.IsColumn) {c : Char}
    (hname : isNameChar c = false) (hpoint : c ≠ '.') (hphrase : c ∉ Phrase.aliasName) :
    c ∉ field.columnText := by
  refine notMem_aliased ?_ (fun other hother => (h.aliasName other hother).notMem hname) hphrase
  rcases qualifiedName_cases field.name (fun _ => Text.IsPlainName.filled) h.table with
    ⟨-, hbare⟩ | ⟨other, -, hother, hqualified⟩
  · rw [hbare]
    exact h.name.notMem hname
  · rw [hqualified]
    intro hmem
    rcases List.mem_append.1 hmem with hmem | hmem
    · exact hother.notMem hname hmem
    · rcases List.mem_cons.1 hmem with hmem | hmem
      · exact hpoint hmem
      · exact h.name.notMem hname hmem

private theorem IsColumn.cutAt?_columnText {field : Field} (h : field.IsColumn) :
    Text.cutAt? '.' field.columnText =
      field.table.map fun table => (table, aliased field.name field.aliasName) := by
  rcases qualifiedName_cases field.name (fun _ => Text.IsPlainName.filled) h.table with
    ⟨hnone, hbare⟩ | ⟨other, hsome, hother, hqualified⟩
  · have hpoint : '.' ∉ aliased field.name field.aliasName :=
      notMem_aliased (h.name.notMem (by decide))
        (fun other hother => (h.aliasName other hother).notMem (by decide)) (by decide)
    rw [columnText, hbare, hnone]
    exact Text.cutAt?_eq_none hpoint
  · have htext : field.columnText = other ++ '.' :: aliased field.name field.aliasName := by
      rw [columnText, hqualified, aliased, aliased, List.append_assoc, List.cons_append]
    rw [htext, hsome]
    exact Text.cutAt?_append (hother.notMem (by decide)) _

theorem parseWith_of_cut {text rest name : Text} {table aliasName : Option Text}
    (hspaced : text.IsSpaced) (hopening : '(' ∉ text)
    (hcut : Text.cutAt? '.' text = table.map fun table => (table, rest))
    (htable : ∀ other ∈ table, Text.trim other = other) (hbare : table = none → rest = text)
    (hword : Text.cutWord? "as".toList rest = aliasName.map fun other => (name, other))
    (hname : Text.trim name = name) (halias : ∀ other ∈ aliasName, Text.trim other = other)
    (hrest : aliasName = none → rest = name) (nested : Text → Option Query) :
    parseWith nested text = { name, table, aliasName } := by
  have hcontains : text.contains '(' = false := by simpa using hopening
  have hword' : Text.cutWord? ['a', 's'] rest = aliasName.map fun other => (name, other) := hword
  unfold parseWith
  rw [hspaced.trim_eq]
  simp only [hasSpacedParenthesis_eq_false hopening, hcontains, hcut, Bool.false_eq_true, if_false]
  cases table with
  | none =>
    obtain rfl := hbare rfl
    cases aliasName with
    | none =>
      obtain rfl := hrest rfl
      simp [hword', hname]
    | some other => simp [hword', hname, halias other rfl]
  | some table =>
    cases aliasName with
    | none =>
      obtain rfl := hrest rfl
      simp [hword', hname, htable table rfl]
    | some other => simp [hword', hname, halias other rfl, htable table rfl]

theorem IsColumn.readsBack {field : Field} (h : field.IsColumn) (nested : Text → Option Query) :
    field.ReadsBack nested field.columnText := by
  have hopening : '(' ∉ field.columnText := h.notMem (by decide) (by decide) (by decide)
  have hentry : field.columnText.IsEntry :=
    isEntry_aliased (isEntry_qualifiedName h.name h.table) h.aliasName
  refine ⟨hentry, ?_, fun first hfirst => ?_⟩
  · have htrim {other : Text} (hother : other.IsPlainName) : Text.trim other = other :=
      hother.isWord.isSpaced.trim_eq
    have hword := cutWord?_aliased h.name.isWord fun other hother => (h.aliasName other hother).isWord
    have hbare : field.table = none → aliased field.name field.aliasName = field.columnText := by
      intro hnone
      rw [columnText, hnone]
      rfl
    have hnone : field.aliasName = none → aliased field.name field.aliasName = field.name := by
      intro hnone
      rw [hnone]
      exact List.append_nil _
    have hread := parseWith_of_cut hentry.clean.tidy.spaced hopening h.cutAt?_columnText
      (fun other hother => htrim (h.table other hother)) hbare hword (htrim h.name)
      (fun other hother => htrim (h.aliasName other hother)) hnone nested
    have hnested := h.nested
    rw [hread]
    cases field
    obtain rfl : _ = none := hnested
    rfl
  · have hwords := words_aliased (isWord_qualifiedPlainName h.name h.table) field.aliasName
    obtain rfl := Option.some.inj (hwords.symm.trans hfirst)
    exact not_top_qualifiedName h.name h.table

end Field

private theorem Text.IsCall.isUncut {text : Text} (h : text.IsCall) {separator : Char}
    (hname : isNameChar separator = false) (hopening : separator ≠ '(') :
    IsUncut separator 0 text := by
  obtain ⟨-, name, arguments, -, hchars, hnested, rfl⟩ := h
  have hflat := depth_eq_zero_of_nameChars hchars
  have hfront : IsUncut separator 0 name := isUncut_of_notMem (notMem_of_nameChars hchars hname) 0
  have hback : IsUncut separator (0 + depth name) ('(' :: arguments ++ [')']) := by
    rw [hflat]
    exact isUncut_parentheses hnested hopening
  rw [List.append_assoc]
  exact hfront.append hback

private theorem Text.IsCall.begins {text : Text} (h : text.IsCall) :
    ∀ first ∈ (words text).head?, sameLetters "top".toList first = false := by
  obtain ⟨-, name, arguments, -, hchars, -, rfl⟩ := h
  have hopening : Text.IsWord (name ++ ['(']) :=
    isWord_concat (fun c hc => isBlank_of_isNameChar (hchars c hc)) (by decide)
  obtain ⟨front, rest, hwords, -⟩ := words_append_eq hopening (arguments ++ [')'])
  have hspelled : name ++ '(' :: arguments ++ [')'] = (name ++ ['(']) ++ (arguments ++ [')']) := by
    simp
  rw [hspelled, hwords]
  intro first hfirst
  obtain rfl := Option.some.inj hfirst
  have hmem : '(' ∈ (name ++ ['(']) ++ front := by simp
  exact not_sameLetters_of_mem hmem (by decide)

namespace Field

private theorem nestedParts?_of_isUncut {text : Text} (h : Text.IsUncut '=' 0 text) :
    nestedParts? text = none := by
  rw [nestedParts?, Text.splitTopLevel, h]

theorem IsFunctionCall.columnText_eq {field : Field} (h : field.IsFunctionCall) :
    field.columnText = field.name := by
  rw [h.bare]
  exact List.append_nil _

theorem IsFunctionCall.readsBack {field : Field} (h : field.IsFunctionCall)
    (nested : Text → Option Query) : field.ReadsBack nested field.columnText := by
  have htext := h.columnText_eq
  obtain ⟨hcall, hbare⟩ := h
  have hopening : field.name.contains '(' = true := by
    obtain ⟨name, arguments, -, -, -, hspelled⟩ := hcall.spelled
    rw [hspelled]
    simp
  have huncut : Text.IsUncut '=' 0 field.name := hcall.isUncut (by decide) (by decide)
  have hparts := nestedParts?_of_isUncut huncut
  rw [htext]
  refine ⟨⟨hcall.clean, hcall.isUncut (by decide) (by decide)⟩, ?_, hcall.begins⟩
  unfold parseWith
  rw [hcall.clean.tidy.spaced.trim_eq]
  simp only [hparts, hopening, if_true, ite_self]
  exact hbare.symm

def nestedText (name inner : Text) : Text := name ++ Phrase.nested ++ inner ++ [')']

theorem sql_of_nested {name inner : Text} {query : Query} (h : query.sql true = .ok inner) :
    Field.sql true { name, nested := some query } = .ok (nestedText name inner) := by
  rw [Field.sql, Query.nestedSql, h]
  simp [nestedText, qualifiedName, bind, Except.bind, pure, Except.pure]

private theorem isEntry_nestedText {name inner : Text} (hname : name.IsPlainName)
    (hinner : inner.IsTidy) :
    (nestedText name inner).IsEntry := by
  have hequals : Text.IsEntry ['='] :=
    Text.isEntry_of_word (by decide) (by decide) (by decide)
  have hwhole := hname.isEntry.append_space (hequals.append_space (Text.isEntry_parentheses hinner))
  simpa [nestedText, Phrase.nested] using hwhole

private theorem nestedParts?_nestedText {name inner : Text} (hname : name.IsPlainName)
    (hinner : inner.IsTidy) : nestedParts? (nestedText name inner) = some (name, inner) := by
  have hnotMem : '=' ∉ name ++ [' '] := by
    have hequals : '=' ∉ name := hname.notMem (by decide)
    simpa using hequals
  have hdepth : Text.depth (name ++ [' ']) = 0 := by
    have hspace : Text.depth [' '] = 0 := rfl
    rw [Text.depth_append, hname.isEntry.clean.tidy.nested.closed, hspace]
    rfl
  have hspelled : nestedText name inner =
      (name ++ [' ']) ++ '=' :: ' ' :: ('(' :: inner ++ [')']) := by
    simp [nestedText, Phrase.nested]
  have hback : Text.IsUncut '=' 0 (' ' :: ('(' :: inner ++ [')'])) := by
    have hspace : Text.IsUncut '=' 0 [' '] := Text.isUncut_of_notMem (by decide) 0
    exact hspace.append (Text.isUncut_parentheses hinner.nested (by decide))
  have hfront : Text.IsUncut '=' 0 (name ++ [' ']) := Text.isUncut_of_notMem hnotMem 0
  have hinside : Text.inside? '(' ')' ('(' :: inner ++ [')']) = some inner :=
    Text.inside?_eq_some_iff.2 rfl
  have htrim := hname.isWord.isSpaced.trim_append_space
  rw [nestedParts?, Text.splitTopLevel, hspelled, hfront.splitFrom_append_separator hdepth, hback]
  simp only [Text.trim_cons_space, hinner.parentheses.spaced.trim_eq, hinside, htrim,
    Option.map_some]

theorem readsBack_nested {name inner : Text} {query : Query} {nested : Text → Option Query}
    (hname : name.IsPlainName) (hinner : inner.IsTidy) (hread : nested inner = some query)
    (hcomplete : query.isComplete = true) :
    ReadsBack nested { name, nested := some query } (nestedText name inner) := by
  have hentry := isEntry_nestedText hname hinner
  have hspaced : hasSpacedParenthesis (nestedText name inner) = true := by
    have hsplit : nestedText name inner =
        (name ++ " =".toList) ++ " (".toList ++ (inner ++ [')']) := by
      simp [nestedText, Phrase.nested]
    rw [hasSpacedParenthesis, hsplit]
    exact Text.isSome_cut?_append _ _ _
  have hfilter : (nested inner).filter Query.isComplete = some query := by
    rw [hread, Option.filter_some, hcomplete]
    rfl
  refine ⟨hentry, ?_, fun first hfirst => ?_⟩
  · unfold parseWith
    rw [hentry.clean.tidy.spaced.trim_eq]
    simp only [hspaced, if_true, nestedParts?_nestedText hname hinner, hfilter]
  · have hspelled : nestedText name inner = name ++ ' ' :: ("= (".toList ++ inner ++ [')']) := by
      simp [nestedText, Phrase.nested]
    rw [hspelled, Text.words_append_space, Text.words_of_isWord hname.isWord] at hfirst
    obtain rfl := Option.some.inj hfirst
    exact hname.unreserved _ (by decide)

end Field

structure TableRef.IsPlain (table : TableRef) : Prop where
  name : table.name.IsPlainName
  aliasName : ∀ aliasName ∈ table.aliasName, aliasName.IsPlainName

theorem TableRef.IsPlain.isEntry {table : TableRef} (h : table.IsPlain) : table.sql.IsEntry := by
  obtain ⟨name, aliasName⟩ := table
  obtain ⟨hname, halias⟩ := h
  cases aliasName with
  | none => simpa [TableRef.sql] using hname.isEntry
  | some other =>
    have hother : other.IsPlainName := halias other rfl
    obtain ⟨c, rest, rfl⟩ := List.exists_cons_of_ne_nil hother.filled
    exact hname.isEntry.append_space hother.isEntry

theorem TableRef.IsPlain.words_sql {table : TableRef} (h : table.IsPlain) :
    Text.words table.sql = table.name :: table.aliasName.toList := by
  obtain ⟨name, aliasName⟩ := table
  obtain ⟨hname, halias⟩ := h
  cases aliasName with
  | none => simpa [TableRef.sql] using Text.words_of_isWord hname.isWord
  | some other =>
    have hother : other.IsPlainName := halias other rfl
    obtain ⟨c, rest, rfl⟩ := List.exists_cons_of_ne_nil hother.filled
    have hsplit := Text.words_append_space name (c :: rest)
    rw [Text.words_of_isWord hname.isWord, Text.words_of_isWord hother.isWord] at hsplit
    exact hsplit

theorem TableRef.IsPlain.parse_sql {table : TableRef} (h : table.IsPlain) :
    TableRef.parse table.sql = table := by
  have hwords := h.words_sql
  obtain ⟨name, aliasName⟩ := table
  obtain ⟨hname, halias⟩ := h
  cases aliasName with
  | none =>
    rw [TableRef.parse, hwords]
    rfl
  | some other =>
    have hother : other.IsPlainName := halias other rfl
    have hword : Text.sameLetters "as".toList other = false := hother.unreserved _ (by decide)
    rw [TableRef.parse, hwords]
    simp only [Option.toList_some, hword, Bool.false_eq_true, if_false]

def sortText (text : Text) (direction : Direction) : Text := text ++ ' ' :: direction.sql

theorem Field.ReadsBack.sortKey {nested : Text → Option Query} {field : Field} {text : Text}
    (h : field.ReadsBack nested text) (direction : Direction) :
    (sortText text direction).IsEntry ∧
      SortKey.parseWith nested (sortText text direction) = ⟨field, direction⟩ := by
  have hdirection : Text.IsEntry direction.sql := by
    cases direction with
    | ascending => exact Text.isEntry_of_word (by decide) (by decide) (by decide)
    | descending => exact Text.isEntry_of_word (by decide) (by decide) (by decide)
  have hentry : (sortText text direction).IsEntry := h.entry.append_space hdirection
  have hword : Text.IsWord direction.sql := by cases direction <;> decide
  have hcut : Text.cutLast? isBlank (sortText text direction) = some (text, direction.sql) :=
    Text.cutLast?_append (by decide) hword.2 text
  refine ⟨hentry, ?_⟩
  have hparts : sortParts (sortText text direction) = (text, direction) := by
    rw [sortParts, hentry.clean.tidy.spaced.trim_eq, hcut]
    cases direction <;> rfl
  rw [SortKey.parseWith, hparts]
  simp only [h.read]

end SqlSelect
