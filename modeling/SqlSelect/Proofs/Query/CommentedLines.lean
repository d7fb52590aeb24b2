import SqlSelect.Proofs.Query.Termination
import SqlSelect.Proofs.Text.Comments

/-!
Statements with comments put into them. Main statement: a statement is read as before if comments
are put behind some of its lines and on lines of their own, whatever they say.
-/

set_option autoImplicit false
set_option relaxedAutoImplicit false

namespace SqlSelect

namespace Text

/-- Lines with comments put behind some of them and on lines of their own between them. -/
inductive AddsComments : (lines commented : List Text) → Prop
  | done : AddsComments [] []
  | keep (line : Text) {lines commented : List Text} (more : AddsComments lines commented) :
    AddsComments (line :: lines) (line :: commented)
  | behind (line comment : Text) {lines commented : List Text} (hcomment : '\n' ∉ comment)
    (more : AddsComments lines commented) :
    AddsComments (line :: lines) ((line ++ " --".toList ++ comment) :: commented)
  | between (blanks comment : Text) {lines commented : List Text}
    (hblanks : blanks.all isBlank = true) (hline : '\n' ∉ blanks ++ comment)
    (more : AddsComments lines commented) :
    AddsComments lines ((blanks ++ "--".toList ++ comment) :: commented)

/-- The words of a line that no comment holds. -/
private def lineWords (line : Text) : List Text := words (beforeComment line)

private theorem lineWords_behind (line comment : Text) :
    lineWords (line ++ " --".toList ++ comment) = lineWords line := by
  unfold lineWords
  rw [List.append_assoc]
  by_cases hopen : line.IsUncommented
  · have hspace : Text.IsUncommented (line ++ [' ']) :=
      hopen.append_of_head (.singleton ' ') (by decide)
    have hspelled : line ++ (" --".toList ++ comment) = (line ++ [' ']) ++ ('-' :: '-' :: comment) :=
      (List.append_assoc line [' '] _).symm
    have hcomment : beforeComment ('-' :: '-' :: comment) = [] := rfl
    rw [hspelled, beforeComment_append hspace (by simp), hcomment, List.append_nil,
      words_append_space, words_nil, List.append_nil, beforeComment_eq hopen]
  · rw [beforeComment_append_of_comment hopen]

private theorem lineWords_between {blanks : Text} (h : blanks.all isBlank = true) (comment : Text) :
    lineWords (blanks ++ "--".toList ++ comment) = [] := by
  have hall := List.all_eq_true.1 h
  have hhyphen : '-' ∉ blanks := by
    intro hmem
    exact absurd (hall '-' hmem) (by decide)
  have hlast : blanks.getLast? ≠ some '-' := fun hlast => hhyphen (List.mem_of_getLast? hlast)
  have hcomment : beforeComment ("--".toList ++ comment) = [] := rfl
  unfold lineWords
  rw [List.append_assoc, beforeComment_append (isUncommented_of_notMem hhyphen) hlast, hcomment,
    List.append_nil, words_of_forall_isBlank hall]

private theorem words_withoutComments_lines {lines : List Text} (h : ∀ line ∈ lines, '\n' ∉ line) :
    words (withoutComments (joinWith ['\n'] lines)) = lines.flatMap lineWords := by
  by_cases hnone : lines = []
  · subst hnone
    decide
  · have hlines : (joinWith ['\n'] lines).splitOn '\n' = lines :=
      List.splitOn_intercalate '\n' h hnone
    rw [withoutComments, hlines, words_unwords_flatten, List.map_map, List.flatMap_def]
    rfl

namespace AddsComments

variable {lines commented : List Text}

private theorem notMem_lineFeed (h : AddsComments lines commented)
    (hlines : ∀ line ∈ lines, '\n' ∉ line) :
    ∀ line ∈ commented, '\n' ∉ line := by
  induction h with
  | done => exact hlines
  | keep line more ih =>
    obtain ⟨hline, hothers⟩ := List.forall_mem_cons.1 hlines
    exact List.forall_mem_cons.2 ⟨hline, ih hothers⟩
  | behind line comment hcomment more ih =>
    obtain ⟨hline, hothers⟩ := List.forall_mem_cons.1 hlines
    refine List.forall_mem_cons.2 ⟨?_, ih hothers⟩
    simp only [List.mem_append, not_or]
    exact ⟨⟨hline, by decide⟩, hcomment⟩
  | between blanks comment hblanks hline more ih =>
    refine List.forall_mem_cons.2 ⟨?_, ih hlines⟩
    simp only [List.mem_append, not_or] at hline ⊢
    exact ⟨⟨hline.1, by decide⟩, hline.2⟩

private theorem flatMap_lineWords (h : AddsComments lines commented) :
    commented.flatMap lineWords = lines.flatMap lineWords := by
  induction h with
  | done => rfl
  | keep line more ih => rw [List.flatMap_cons, List.flatMap_cons, ih]
  | behind line comment hcomment more ih => rw [List.flatMap_cons, List.flatMap_cons, ih, lineWords_behind]
  | between blanks comment hblanks hline more ih =>
    rw [List.flatMap_cons, lineWords_between hblanks, List.nil_append, ih]

end AddsComments

end Text

namespace Query

private theorem parse_congr {first second : Text} (h : Text.words (Text.withoutComments first) =
    Text.words (Text.withoutComments second)) : parse first = parse second := by
  have hread : ClauseTexts.read first = ClauseTexts.read second := by
    rw [ClauseTexts.read, ClauseTexts.read, markedWords, markedWords, h]
  rw [parse_eq, parse_eq, parseWith, parseWith, hread]

/-- Comments are invisible. Put behind lines and on lines of their own, they change neither the
query nor the failure, although parentheses and keywords in them may be of any number. -/
theorem parse_ignores_comments {lines commented : List Text} (hlines : ∀ line ∈ lines, '\n' ∉ line)
    (h : Text.AddsComments lines commented) :
    parse (Text.joinWith ['\n'] commented) = parse (Text.joinWith ['\n'] lines) := by
  apply parse_congr
  rw [Text.words_withoutComments_lines (h.notMem_lineFeed hlines),
    Text.words_withoutComments_lines hlines, h.flatMap_lineWords]

/-- A line that ends in `-`, one with a comment already and a carriage return behind it, and comments
with keywords and with parentheses that would not close. -/
theorem parse_ignores_comments_of_hyphen_and_return :
    let lines : List Text := ["SELECT a, n -".toList, "FROM t --(\r".toList, "WHERE (b = 1".toList,
      "OR c = 2)\r".toList]
    let commented : List Text := ["\t\u3000--) (SELECT".toList, "SELECT a, n - --- 'x'".toList,
      "FROM t --(\r --) FROM u".toList, "--\r".toList, "WHERE (b = 1".toList,
      "OR c = 2)\r --".toList, " --".toList]
    (∀ line ∈ lines, '\n' ∉ line) ∧ Text.AddsComments lines commented ∧
      parse (Text.joinWith ['\n'] commented) = parse (Text.joinWith ['\n'] lines) := by
  intro lines commented
  have hlines : ∀ line ∈ lines, '\n' ∉ line := by decide
  have hadds : Text.AddsComments lines commented := by
    apply Text.AddsComments.between "\t\u3000".toList ") (SELECT".toList (by decide) (by decide)
    apply Text.AddsComments.behind "SELECT a, n -".toList "- 'x'".toList (by decide)
    apply Text.AddsComments.behind "FROM t --(\r".toList ") FROM u".toList (by decide)
    apply Text.AddsComments.between [] "\r".toList (by decide) (by decide)
    apply Text.AddsComments.keep "WHERE (b = 1".toList
    apply Text.AddsComments.behind "OR c = 2)\r".toList [] (by decide)
    apply Text.AddsComments.between [' '] [] (by decide) (by decide)
    exact .done
  exact ⟨hlines, hadds, parse_ignores_comments hlines hadds⟩

end Query

end SqlSelect
