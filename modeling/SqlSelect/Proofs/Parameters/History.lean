import SqlSelect.Parameters.Basic
import SqlSelect.Proofs.Distinct
import SqlSelect.Proofs.Text.Tidy
import SqlSelect.Proofs.Value.NumberText

/-!
Parameters and the calls that set them. Main statement: after any calls the names are the distinct
normal forms of the names that were set, in the order in which they were set first, and each has
the value that was set last.
-/

set_option autoImplicit false
set_option relaxedAutoImplicit false

namespace SqlSelect

/-! ## Normal forms -/

private theorem trimEnd_atName {name : Text} (h : Text.trimEnd name = name) :
    Text.trimEnd (atName name) = atName name := by
  unfold atName
  split
  · exact h
  · exact Text.trimEnd_cons (by decide) h

private theorem normalName_normalName (name : Text) :
    normalName (normalName name) = normalName name := by
  have hstart : Text.trimStart (normalName name) = normalName name := by
    obtain ⟨rest, hrest⟩ := List.head?_eq_some_iff.1 (head?_atName (Text.trim name))
    rw [normalName, hrest]
    exact List.dropWhile_cons_of_neg (by decide)
  have hend : Text.trimEnd (normalName name) = normalName name :=
    trimEnd_atName (Text.trimEnd_trim name)
  calc normalName (normalName name)
      = atName (Text.trimEnd (Text.trimStart (normalName name))) := rfl
    _ = atName (normalName name) := by rw [hstart, hend]
    _ = normalName name := atName_atName (Text.trim name)

private theorem normalName_ofNat (n : Nat) : normalName (Text.ofNat n) = '@' :: Text.ofNat n := by
  have hdigits := Text.isNumeric_ofNat n
  have htrim : Text.trim (Text.ofNat n) = Text.ofNat n := hdigits.isWord.isSpaced.trim_eq
  have hsign : '@' ∉ Text.ofNat n := hdigits.notMem (by decide)
  rw [normalName, htrim, atName]
  intro rest hbegins
  rw [hbegins] at hsign
  exact hsign List.mem_cons_self

namespace Parameters

/-! ## One call -/

section Entries

variable {name other : Text} {value : Value} {entries : List (Text × Value)}

private theorem map_fst_putEntry : (putEntry name value entries).map Prod.fst =
    if name ∈ entries.map Prod.fst then entries.map Prod.fst
    else entries.map Prod.fst ++ [name] := by
  induction entries with
  | nil => rfl
  | cons entry rest ih =>
    obtain ⟨present, old⟩ := entry
    rw [putEntry]
    by_cases hsame : present = name
    · simp [hsame]
    · rw [if_neg hsame, List.map_cons, ih]
      by_cases hmem : name ∈ rest.map Prod.fst
      · simp [hmem]
      · simp [hmem, Ne.symm hsame]

private theorem lookup_cons_eq_ite : ((name, value) :: entries).lookup other =
    if other = name then some value else entries.lookup other := by
  rw [List.lookup_cons]
  by_cases hother : other = name
  · simp [hother]
  · rw [if_neg hother, beq_eq_false_iff_ne.2 hother]

private theorem lookup_putEntry : (putEntry name value entries).lookup other =
    if other = name then some value else entries.lookup other := by
  induction entries with
  | nil => exact lookup_cons_eq_ite
  | cons entry rest ih =>
    obtain ⟨present, old⟩ := entry
    rw [putEntry, lookup_cons_eq_ite]
    by_cases hsame : present = name
    · rw [if_pos hsame, lookup_cons_eq_ite, hsame]
      split <;> rfl
    · rw [if_neg hsame, lookup_cons_eq_ite, ih]
      by_cases hother : other = present
      · rw [if_pos hother, if_pos hother, hother, if_neg hsame]
      · rw [if_neg hother, if_neg hother]

private theorem putEntry_of_notMem (h : name ∉ entries.map Prod.fst) (value : Value) :
    putEntry name value entries = entries ++ [(name, value)] := by
  induction entries with
  | nil => rfl
  | cons entry rest ih =>
    obtain ⟨hfirst, hrest⟩ := not_or.1 (mt List.mem_cons.2 h)
    rw [putEntry, if_neg (Ne.symm hfirst), ih hrest]
    rfl

end Entries

private theorem names_insert (parameters : Parameters) (name : Text) (value : Value) :
    (parameters.insert name value).names =
      if normalName name ∈ parameters.names then parameters.names
      else parameters.names ++ [normalName name] := map_fst_putEntry

private theorem get?_insert (parameters : Parameters) (name other : Text) (value : Value) :
    (parameters.insert name value).get? other =
      if normalName other = normalName name then some value else parameters.get? other :=
  lookup_putEntry

/-! ## Many calls -/

def insertAll (parameters : Parameters) (calls : List (Text × Value)) : Parameters :=
  calls.foldl (fun current call => current.insert call.1 call.2) parameters

def positionCalls (values : List Value) : List (Text × Value) :=
  values.mapIdx fun index value => (Text.ofNat index, value)

/-- The value of the last of some calls that set a name, in any spelling of it. -/
def lastValue? (calls : List (Text × Value)) (name : Text) : Option Value :=
  ((calls.filter fun call => normalName call.1 = normalName name).getLast?).map Prod.snd

/-- The names that calls set, in normal form and each where it was set first. -/
def firstNames (calls : List (Text × Value)) : List Text :=
  (calls.map fun call => normalName call.1).eraseDups

/-- What some calls leave behind. -/
private structure Records (calls : List (Text × Value)) (parameters : Parameters) : Prop where
  names : parameters.names = firstNames calls
  values : ∀ name, parameters.get? name = lastValue? calls name

private theorem lastValue?_concat (calls : List (Text × Value)) (call : Text × Value)
    (name : Text) :
    lastValue? (calls ++ [call]) name =
      if normalName name = normalName call.1 then some call.2 else lastValue? calls name := by
  rw [lastValue?, List.filter_append]
  split
  · next hsame => simp [hsame]
  · next hother => simp [Ne.symm hother, lastValue?]

variable {calls : List (Text × Value)} {parameters : Parameters}

private theorem records_empty : Records [] {} := ⟨rfl, fun _ => rfl⟩

private theorem Records.insert (h : Records calls parameters) (name : Text) (value : Value) :
    Records (calls ++ [(name, value)]) (parameters.insert name value) := by
  constructor
  · rw [names_insert, h.names, firstNames, firstNames, List.map_append, List.map_singleton,
      eraseDups_concat]
    simp only [List.mem_eraseDups]
  · intro other
    rw [get?_insert, h.values, lastValue?_concat]

private theorem Records.insertAll (h : Records calls parameters) (more : List (Text × Value)) :
    Records (calls ++ more) (parameters.insertAll more) := by
  induction more generalizing calls parameters with
  | nil => rwa [List.append_nil]
  | cons call rest ih =>
    have hrest := ih (h.insert call.1 call.2)
    rwa [List.append_assoc] at hrest

private theorem Records.nodup_names (h : Records calls parameters) : parameters.names.Nodup := by
  rw [h.names]
  exact nodup_eraseDups _

private theorem Records.exists_call (h : Records calls parameters) {name : Text}
    (hname : name ∈ parameters.names) : ∃ call ∈ calls, normalName call.1 = name := by
  rw [h.names, firstNames, List.mem_eraseDups, List.mem_map] at hname
  exact hname

/-! ## Values named by position -/

private theorem positionCalls_concat (values : List Value) (value : Value) :
    positionCalls (values ++ [value]) =
      positionCalls values ++ [(Text.ofNat values.length, value)] := by
  rw [positionCalls, List.mapIdx_append]
  simp [positionCalls]

private theorem normalName_ofNat_notMem (values : List Value) :
    normalName (Text.ofNat values.length) ∉ (positional values).names := by
  intro hmem
  obtain ⟨entry, hentry, hname⟩ := List.mem_map.1 hmem
  obtain ⟨index, hindex, rfl⟩ := List.mem_mapIdx.1 hentry
  rw [normalName_ofNat] at hname
  have hsame := Text.ofNat_inj (List.cons.inj hname).2
  omega

private theorem positional_concat (values : List Value) (value : Value) :
    positional (values ++ [value]) =
      (positional values).insert (Text.ofNat values.length) value := by
  have hnew := putEntry_of_notMem (normalName_ofNat_notMem values) value
  rw [insert, hnew, normalName_ofNat, positional, positional, List.mapIdx_append,
    List.mapIdx_singleton, Nat.zero_add]

private theorem records_positional (values : List Value) :
    Records (positionCalls values) (positional values) := by
  induction values using List.reverseRecOn with
  | nil => exact records_empty
  | append_singleton values value ih =>
    rw [positional_concat, positionCalls_concat]
    exact ih.insert _ value

private theorem lastValue?_positionCalls (values : List Value) (index : Nat) :
    lastValue? (positionCalls values) (Text.ofNat index) = values[index]? := by
  induction values using List.reverseRecOn with
  | nil => rfl
  | append_singleton values value ih =>
    rw [positionCalls_concat, lastValue?_concat, ih]
    by_cases hlast : index = values.length
    · subst hlast
      simp
    · have hname : normalName (Text.ofNat index) ≠ normalName (Text.ofNat values.length) := by
        rw [normalName_ofNat, normalName_ofNat]
        intro hsame
        exact hlast (Text.ofNat_inj (List.cons.inj hsame).2)
      rw [if_neg hname, List.getElem?_append]
      split
      · rfl
      · next hbehind => rw [List.getElem?_eq_none (by omega), List.getElem?_eq_none (by simp; omega)]

/-- Parameters are a map in the order of insertion on names in normal form. From values named by
their position (no values give no parameters), and after any calls with names in any spelling: no
name stands twice, each begins with `@` and is in normal form, the names stand in the order in which
they were set first, each has the value that was set last, and any other has none. A position is a
name of its own, with and without `@`. -/
theorem insertions_keep_order (values : List Value) (calls : List (Text × Value)) :
    let history := positionCalls values ++ calls
    let parameters := (positional values).insertAll calls
    positional [] = {} ∧
    parameters.names.Nodup ∧
    (∀ name ∈ parameters.names, name.head? = some '@' ∧ normalName name = name) ∧
    parameters.names = firstNames history ∧
    (∀ name, parameters.get? name = lastValue? history name) ∧
    (positional values).size = values.length ∧
    ∀ index, (positional values).get? (Text.ofNat index) = values[index]? ∧
      (positional values).get? ('@' :: Text.ofNat index) = values[index]? := by
  intro history parameters
  have hstart := records_positional values
  have hrun : Records history parameters := hstart.insertAll calls
  refine ⟨rfl, hrun.nodup_names, ?_, hrun.names, hrun.values, List.length_mapIdx, ?_⟩
  · intro name hname
    obtain ⟨call, -, rfl⟩ := hrun.exists_call hname
    exact ⟨head?_atName _, normalName_normalName call.1⟩
  · intro index
    have hplain : (positional values).get? (Text.ofNat index) = values[index]? := by
      rw [hstart.values, lastValue?_positionCalls]
    have hsigned : normalName ('@' :: Text.ofNat index) = normalName (Text.ofNat index) := by
      rw [← normalName_ofNat, normalName_normalName]
    refine ⟨hplain, ?_⟩
    rw [get?, hsigned]
    exact hplain

/-- A name in three spellings, and a position that is set again. -/
theorem insertions_keep_order_of_respelled_names :
    let start : List Value := [.text "a".toList, .text "b".toList]
    let calls : List (Text × Value) := [(" id ".toList, .text "c".toList),
      ("1".toList, .text "d".toList), ("\u3000@id".toList, .null)]
    let parameters := (positional start).insertAll calls
    "@id".toList ∈ parameters.names ∧ normalName "@id".toList = "@id".toList ∧
      parameters.names = ["@0".toList, "@1".toList, "@id".toList] ∧
      parameters.get? "id".toList = some .null := by
  intro start calls parameters
  obtain ⟨-, -, hnormal, hnames, hvalues, -⟩ := insertions_keep_order start calls
  have hlisted : parameters.names = ["@0".toList, "@1".toList, "@id".toList] :=
    hnames.trans (by decide)
  have hmem : "@id".toList ∈ parameters.names := by
    rw [hlisted]
    decide
  exact ⟨hmem, (hnormal _ hmem).2, hlisted, (hvalues _).trans (by decide)⟩

end Parameters

end SqlSelect
