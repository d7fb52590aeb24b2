import SqlSelect.Query.ValueStream
import SqlSelect.Proofs.Condition.ValueList
import SqlSelect.Proofs.Query.Streaming
import SqlSelect.Proofs.Text.LiteralPieces

/-!
Bundles that elements are put into, and what is written for them. Main statement: calls put their
elements behind those that are there, and the size of a bundle, its text and that of a membership
test go by the list of its elements, whichever shape holds them.
-/

set_option autoImplicit false
set_option relaxedAutoImplicit false

namespace SqlSelect

open Writing

/-! ## Calls -/

namespace Bundle

variable {α : Type}

inductive Call (α : Type) where
  | push (element : α)
  | append (other : Bundle α)

def Call.elements : Call α → List α
  | .push element => [element]
  | .append other => other.toList

def Call.apply (bundle : Bundle α) : Call α → Bundle α
  | .push element => bundle.push element
  | .append other => bundle.append other

def applyAll (bundle : Bundle α) (calls : List (Call α)) : Bundle α := calls.foldl Call.apply bundle

private theorem toList_apply (bundle : Bundle α) (call : Call α) :
    (call.apply bundle).toList = bundle.toList ++ call.elements := by
  cases call with
  | push element => exact toList_push bundle element
  | append other => exact toList_append bundle other

private theorem toList_applyAll (bundle : Bundle α) (calls : List (Call α)) :
    (bundle.applyAll calls).toList = bundle.toList ++ calls.flatMap Call.elements := by
  induction calls generalizing bundle with
  | nil => exact (List.append_nil _).symm
  | cons call rest ih =>
    calc (bundle.applyAll (call :: rest)).toList
        = ((call.apply bundle).applyAll rest).toList := rfl
      _ = (call.apply bundle).toList ++ rest.flatMap Call.elements := ih (call.apply bundle)
      _ = bundle.toList ++ (call :: rest).flatMap Call.elements := by
        rw [toList_apply, List.append_assoc, List.flatMap_cons]

/-- One element goes in front of a list, and bundles without elements change nothing. -/
example : ((Bundle.one 1).applyAll
    [.append .none, .append (.many [2, 3]), .append (.many []), .push 4]).toList = [1, 2, 3, 4] := by
  decide

end Bundle

/-! ## Writing -/

namespace Streams

variable {flag : Bool} {writing : Writing Unit} {result : Except SqlError Text}

private theorem pieces (texts : List Text) :
    Streams flag (Writing.pieces texts) (pure texts.flatten) := by
  induction texts with
  | nil => exact nothing
  | cons text rest ih => exact (put text).append ih

private theorem literal (content : Text) :
    Streams flag (Writing.literal content) (pure (Text.quoted content)) := by
  -- a literal is never cut inside a character, so there always is something to write
  obtain ⟨slices, hslices, hwritten, -⟩ := Text.exists_quotedPieces? content
  rw [Writing.literal, hslices, ← hwritten]
  exact pieces slices

private theorem eq_put {text : Text} (h : ∀ flag, Streams flag writing (pure text)) :
    writing = Writing.put text := by
  funext sink
  exact h sink.ignoresEmpty sink rfl

private theorem apply_eq_self_iff {sink : Sink} (h : Streams sink.ignoresEmpty writing result) :
    writing sink = (some (), sink) ↔ result = .ok [] := by
  have hsink := h sink rfl
  cases result with
  | error cause =>
    obtain ⟨written, hwritten⟩ := hsink
    rw [hwritten]
    refine iff_of_false (fun hpair => ?_) (by simp)
    exact Option.some_ne_none () (congrArg Prod.fst hpair).symm
  | ok text =>
    have hwritten : writing sink = (some (), { sink with written := sink.written ++ text }) := hsink
    rw [hwritten, Except.ok.injEq]
    constructor
    · intro hpair
      have hsame : sink.written ++ text = sink.written :=
        congrArg (fun pair => pair.2.written) hpair
      exact List.append_right_eq_self.1 hsame
    · rintro rfl
      rw [List.append_nil]

end Streams

private theorem Value.streams (flag : Bool) (value : Value) :
    Streams flag value.write (pure value.sql) := by
  rw [Value.write, Value.sql]
  cases value.plain? with
  | none => exact Streams.put _
  | some plain =>
    obtain ⟨content, quoted⟩ := plain
    cases quoted with
    | true => exact Streams.literal content
    | false => exact Streams.put content

private theorem Value.streams_each (flag first : Bool) (values : List Value) :
    Streams flag (Value.writeEach first values)
      (pure (Text.joinFrom [','] first (values.map Value.sql))) :=
  Streams.each Value.writeEach Value.sql (fun _ => rfl) (fun _ _ _ => rfl) (Value.streams flag)
    first values

private theorem Bundle.write_eq (values : Bundle Value) :
    values.write = put (Value.listSql values.toList) :=
  Streams.eq_put fun flag => Value.streams_each flag true values.toList

namespace Membership

private theorem sql_eq_nil_iff (test : Membership) :
    test.sql = .ok [] ↔ test.candidates.isEmpty = true := by
  constructor
  · intro hsql
    rcases sql_eq_ok hsql with ⟨hempty, -⟩ | ⟨-, name, inner, -, -, htext⟩
    · exact hempty
    · exact absurd htext.symm (by simp)
  · intro hempty
    obtain ⟨field, candidates, negated⟩ := test
    rw [Membership.sql, if_pos hempty]
    rfl

private theorem write_of_values (field : Field) (values : Bundle Value) (negated : Bool) :
    Membership.write { field, candidates := .values values, negated } =
      (if values.toList.isEmpty then pure ()
      else do
        field.write true
        put (if negated then Phrase.notIn else Phrase.isIn)
        values.write
        put [')']) := by
  rw [Membership.write, Candidates.isEmpty, Candidates.write, Bundle.isEmpty_toList,
    Bundle.write_eq, Bundle.sql_eq_listSql]

end Membership

/-- A bundle is the list of its elements. From a bundle of any shape, a list without elements among
them, and after any calls that push elements and append bundles of any shape: the elements are those
that were there and those that the calls brought, in this order, and the size of the bundle and
whether it is empty are those of that list. What is written for values, and for a test whether a
field is among them, depends on the list alone; the test leaves every sink as it is if the list is
empty, and none otherwise. -/
theorem Bundle.calls_go_by_elements :
    (∀ (α : Type) (start : Bundle α) (calls : List (Call α)),
      let bundle := start.applyAll calls
      let elements := start.toList ++ calls.flatMap Call.elements
      bundle.toList = elements ∧ bundle.size = elements.length ∧
        (bundle.isEmpty = true ↔ elements = [])) ∧
    ∀ (start : Bundle Value) (calls : List (Call Value)) (field : Field) (negated : Bool),
      let bundle := start.applyAll calls
      let elements := start.toList ++ calls.flatMap Call.elements
      let test : Membership := { field, candidates := .values bundle, negated }
      bundle.write = put (Value.listSql elements) ∧
        test.write = (if elements.isEmpty then pure ()
          else do
            field.write true
            put (if negated then Phrase.notIn else Phrase.isIn)
            put (Value.listSql elements)
            put [')']) ∧
        ∀ sink, test.write sink = (some (), sink) ↔ elements = [] := by
  constructor
  · intro α start calls bundle elements
    have helements : bundle.toList = elements := toList_applyAll start calls
    refine ⟨helements, ?_, ?_⟩
    · rw [size_eq_length, helements]
    · rw [← isEmpty_toList, helements, List.isEmpty_iff]
  · intro start calls field negated bundle elements test
    have helements : bundle.toList = elements := toList_applyAll start calls
    have hwrite : bundle.write = put (Value.listSql elements) := by rw [write_eq, helements]
    refine ⟨hwrite, ?_, ?_⟩
    · rw [Membership.write_of_values, helements, hwrite]
    · intro sink
      have hsame := (Membership.streams sink.ignoresEmpty test).apply_eq_self_iff
      rw [hsame, Membership.sql_eq_nil_iff, Candidates.isEmpty, ← isEmpty_toList, helements,
        List.isEmpty_iff]

end SqlSelect
