import KidProxy.AdminButtons
import Mathlib.Data.List.Dedup
import Mathlib.Data.List.Perm.Subperm

/-!
# RuleEdits — the list edits of the transform editor, and the rules that a form makes

An action takes its index from the form, and the form says itself how many rules it has.
-/

namespace KidProxy

open Moves

/-! ### Editor actions -/

namespace EditorAction

/-- The index of an action is a `usize` of a 64-bit target. -/
def InUsize : EditorAction → Prop
  | .moveTransformUp index | .moveTransformDown index | .removeTransform index => index < 2 ^ 64
  | .addTransform | .reload | .save => True

/-- The action that a form posts has such an index. -/
theorem inUsize_editorAction (values : FormValues) : (editorAction values).InUsize := by
  have hindex : usizeValue values "editor_index" 0 < 2 ^ 64 := by
    unfold usizeValue u64Value
    cases hparsed : (values.get "editor_index").bind parseU64 with
    | none => exact Nat.two_pow_pos 64
    | some n =>
      obtain ⟨text, -, htext⟩ := Option.bind_eq_some_iff.mp hparsed
      unfold parseU64 at htext
      dsimp only at htext
      split_ifs at htext with hdigits hlt
      obtain rfl := Option.some.inj htext
      exact hlt
  unfold editorAction
  dsimp only
  split <;> first | exact hindex | trivial

end EditorAction

/-- `apply_editor_action` with the overflow checks of a debug build. -/
def applyEditorActionChecked (draft : List TransformRuleFile) (action : EditorAction) :
    Except Fault (List TransformRuleFile) :=
  match action with
  | .moveTransformDown index =>
    if index + 1 < 2 ^ 64 then applyEditorAction draft action
    else .error (.panicked "attempt to add with overflow")
  | action => applyEditorAction draft action

/-- What an action is for: no panic, the edit of exactly the rule it names, and no edit out of range. -/
def EditsAsMeant (apply : List TransformRuleFile → EditorAction → Except Fault (List TransformRuleFile))
    (draft : List TransformRuleFile) (action : EditorAction) : Prop :=
  ∃ edited, apply draft action = .ok edited ∧ match action with
    | .addTransform => edited = draft ++ [blankTransform]
    | .moveTransformUp index =>
      if 0 < index ∧ index < draft.length then
        Swapped (index - 1) index draft edited ∧ apply edited (.moveTransformDown (index - 1)) = .ok draft
      else edited = draft
    | .moveTransformDown index =>
      if index + 1 < draft.length then
        Swapped index (index + 1) draft edited ∧ apply edited (.moveTransformUp (index + 1)) = .ok draft
      else edited = draft
    | .removeTransform index =>
      if index < draft.length then edited = draft.take index ++ draft.drop (index + 1) else edited = draft
    | .reload | .save => edited = draft

section Moved

variable {draft : List TransformRuleFile}

theorem length_lt_of_fitsVec (hfits : FitsVec draft) : draft.length + 1 < 2 ^ 64 := by
  have hlength : 112 * draft.length < 2 ^ 63 := hfits
  omega

theorem applyEditorAction_up (hfits : FitsVec draft) {i : ℕ} (h : i + 1 < draft.length) :
    applyEditorAction draft (.moveTransformUp (i + 1)) = .ok (moveDown i draft) :=
  EditorButton.up.applyEditorAction_action h hfits

theorem applyEditorAction_down (hfits : FitsVec draft) {i : ℕ} (h : i + 1 < draft.length) :
    applyEditorAction draft (.moveTransformDown i) = .ok (moveDown i draft) :=
  EditorButton.down.applyEditorAction_action (Nat.lt_of_succ_lt h) hfits

theorem applyEditorAction_up_out {i : ℕ} (h : ¬ (0 < i ∧ i < draft.length)) :
    applyEditorAction draft (.moveTransformUp i) = .ok draft := by
  show (if (decide (0 < i) && decide (i < draft.length)) = true then _ else _) = _
  rw [if_neg (by simpa using h)]

/-- Without a wrap, the guard is that of the list. -/
theorem applyEditorAction_down_out {i : ℕ} (h : ¬ i + 1 < draft.length) (hwrap : i + 1 < 2 ^ 64) :
    applyEditorAction draft (.moveTransformDown i) = .ok draft := by
  show (if (i + 1) % 2 ^ 64 < draft.length then _ else _) = _
  rw [Nat.mod_eq_of_lt hwrap, if_neg h]

/-- The last index wraps to the first rule, and the swap is out of range. -/
theorem applyEditorAction_down_last (hfits : FitsVec draft) (hne : draft ≠ []) :
    ∀ edited, applyEditorAction draft (.moveTransformDown (2 ^ 64 - 1)) ≠ .ok edited := by
  intro edited h
  have hpos := List.length_pos_of_ne_nil hne
  have hlength := length_lt_of_fitsVec hfits
  have hnone : draft[2 ^ 64 - 1]? = none := List.getElem?_eq_none (by omega)
  have hwrap : (2 ^ 64 - 1 + 1) % 2 ^ 64 = 0 := by decide
  have hswap : applyEditorAction draft (.moveTransformDown (2 ^ 64 - 1)) =
      sliceSwap draft (2 ^ 64 - 1) 0 := by
    show (if (2 ^ 64 - 1 + 1) % 2 ^ 64 < draft.length then _ else _) = _
    rw [hwrap, if_pos hpos]
  rw [hswap, sliceSwap, hnone] at h
  cases h

theorem fitsVec_moveDown (hfits : FitsVec draft) (i : ℕ) : FitsVec (moveDown i draft) := by
  unfold FitsVec
  rw [length_moveDown]
  exact hfits

/-- A build that adds as the release build does wherever nothing overflows. -/
def AgreesBelowLast
    (apply : List TransformRuleFile → EditorAction → Except Fault (List TransformRuleFile)) : Prop :=
  ∀ draft action, action.InUsize → action ≠ .moveTransformDown (2 ^ 64 - 1) →
    apply draft action = applyEditorAction draft action

variable {apply : List TransformRuleFile → EditorAction → Except Fault (List TransformRuleFile)}

theorem AgreesBelowLast.down (hagrees : AgreesBelowLast apply) (draft : List TransformRuleFile) {i : ℕ}
    (h : i + 1 < 2 ^ 64) :
    apply draft (.moveTransformDown i) = applyEditorAction draft (.moveTransformDown i) := by
  have hindex : EditorAction.InUsize (.moveTransformDown i) := show i < 2 ^ 64 by omega
  refine hagrees draft _ hindex fun heq => ?_
  have hlast := EditorAction.moveTransformDown.inj heq
  omega

theorem AgreesBelowLast.up (hagrees : AgreesBelowLast apply) (draft : List TransformRuleFile) {i : ℕ}
    (h : i < 2 ^ 64) :
    apply draft (.moveTransformUp i) = applyEditorAction draft (.moveTransformUp i) :=
  hagrees draft (.moveTransformUp i) h nofun

/-- The move down takes a move up back. -/
theorem editsAsMeant_up (hagrees : AgreesBelowLast apply) (hfits : FitsVec draft) {index : ℕ}
    (hindex : index < 2 ^ 64) : EditsAsMeant apply draft (.moveTransformUp index) := by
  have hlength := length_lt_of_fitsVec hfits
  have happly := hagrees.up draft hindex
  by_cases hrange : 0 < index ∧ index < draft.length
  · obtain ⟨i, rfl⟩ : ∃ i, index = i + 1 := ⟨index - 1, by omega⟩
    have hlt : i + 1 < (moveDown i draft).length := by
      rw [length_moveDown]
      exact hrange.2
    refine ⟨moveDown i draft, happly.trans (applyEditorAction_up hfits hrange.2), ?_⟩
    dsimp only
    rw [if_pos hrange, Nat.add_sub_cancel, hagrees.down _ (by omega),
      applyEditorAction_down (fitsVec_moveDown hfits i) hlt, moveDown_moveDown]
    exact ⟨swapped_moveDown hrange.2, rfl⟩
  · refine ⟨draft, happly.trans (applyEditorAction_up_out hrange), ?_⟩
    dsimp only
    rw [if_neg hrange]

/-- The move up takes a move down back. -/
theorem editsAsMeant_down (hagrees : AgreesBelowLast apply) (hfits : FitsVec draft) {index : ℕ}
    (hwrap : index + 1 < 2 ^ 64) : EditsAsMeant apply draft (.moveTransformDown index) := by
  have happly := hagrees.down draft hwrap
  by_cases hrange : index + 1 < draft.length
  · have hlt : index + 1 < (moveDown index draft).length := by
      rw [length_moveDown]
      exact hrange
    refine ⟨moveDown index draft, happly.trans (applyEditorAction_down hfits hrange), ?_⟩
    dsimp only
    rw [if_pos hrange, hagrees.up _ hwrap, applyEditorAction_up (fitsVec_moveDown hfits index) hlt,
      moveDown_moveDown]
    exact ⟨swapped_moveDown hrange, rfl⟩
  · refine ⟨draft, happly.trans (applyEditorAction_down_out hrange hwrap), ?_⟩
    dsimp only
    rw [if_neg hrange]

theorem editsAsMeant_of_agrees (hagrees : AgreesBelowLast apply) (hfits : FitsVec draft)
    {action : EditorAction} (hindex : action.InUsize) (hlast : action ≠ .moveTransformDown (2 ^ 64 - 1)) :
    EditsAsMeant apply draft action := by
  have happly := hagrees draft action hindex hlast
  cases action with
  | addTransform => exact ⟨_, happly, rfl⟩
  | moveTransformUp index => exact editsAsMeant_up hagrees hfits hindex
  | moveTransformDown index =>
    have hlt : index < 2 ^ 64 := hindex
    have hne : index ≠ 2 ^ 64 - 1 := fun heq => hlast (congrArg EditorAction.moveTransformDown heq)
    exact editsAsMeant_down hagrees hfits (by omega)
  | removeTransform index =>
    by_cases hrange : index < draft.length
    · refine ⟨draft.eraseIdx index, happly.trans (if_pos hrange), ?_⟩
      dsimp only
      rw [if_pos hrange, List.eraseIdx_eq_take_drop_succ]
    · refine ⟨draft, happly.trans (if_neg hrange), ?_⟩
      dsimp only
      rw [if_neg hrange]
  | reload => exact ⟨draft, happly, rfl⟩
  | save => exact ⟨draft, happly, rfl⟩

end Moved

theorem applyEditorActionChecked_agrees : AgreesBelowLast applyEditorActionChecked := by
  intro draft action hindex hlast
  cases action with
  | moveTransformDown index =>
    have hlt : index < 2 ^ 64 := hindex
    have hne : index ≠ 2 ^ 64 - 1 := fun heq => hlast (congrArg EditorAction.moveTransformDown heq)
    exact if_pos (by omega)
  | _ => rfl

/-- The actions edit the list as they are meant to, but for a move down of the last index of the machine
word: in a release build it panics when there is a rule, in a debug build always. -/
theorem editor_actions_edit_iff (draft : List TransformRuleFile) (hfits : FitsVec draft)
    (action : EditorAction) (hindex : action.InUsize) :
    (EditsAsMeant applyEditorAction draft action ↔
      (action = .moveTransformDown (2 ^ 64 - 1) → draft = [])) ∧
    (EditsAsMeant applyEditorActionChecked draft action ↔ action ≠ .moveTransformDown (2 ^ 64 - 1)) := by
  refine ⟨⟨?_, ?_⟩, ?_, ?_⟩
  · rintro ⟨edited, hedited, -⟩ rfl
    by_contra hne
    exact applyEditorAction_down_last hfits hne edited hedited
  · intro hcondition
    by_cases hlast : action = .moveTransformDown (2 ^ 64 - 1)
    · obtain rfl := hcondition hlast
      subst hlast
      exact ⟨[], rfl, rfl⟩
    · exact editsAsMeant_of_agrees (fun _ _ _ _ => rfl) hfits hindex hlast
  · rintro ⟨edited, hedited, -⟩ rfl
    cases hedited
  · exact editsAsMeant_of_agrees applyEditorActionChecked_agrees hfits hindex

/-- The move down that a form can post. -/
def sampleLastIndex : FormValues :=
  ⟨[("transform_count", "1"), ("editor_action", "move_transform_down"),
    ("editor_index", "18446744073709551615")]⟩

/-- It panics on a list of one rule. -/
theorem move_down_of_last_index_panics :
    editorAction sampleLastIndex = .moveTransformDown (2 ^ 64 - 1) ∧
    ¬ EditsAsMeant applyEditorAction [blankTransform] (editorAction sampleLastIndex) := by
  have haction : editorAction sampleLastIndex = .moveTransformDown (2 ^ 64 - 1) := by decide
  refine ⟨haction, ?_⟩
  rw [haction]
  rintro ⟨edited, hedited, -⟩
  have hfits : FitsVec [blankTransform] := by
    show ruleBytes * 1 < 2 ^ 63
    decide
  exact applyEditorAction_down_last hfits (List.cons_ne_nil _ _) edited hedited

theorem editor_actions_edit_sample :
    EditsAsMeant applyEditorAction sampleRules (.moveTransformDown 1) := by
  have hfits : FitsVec sampleRules := by
    show ruleBytes * 3 < 2 ^ 63
    decide
  exact (editor_actions_edit_iff sampleRules hfits (.moveTransformDown 1)
    (show 1 < 2 ^ 64 by decide)).1.mpr nofun

/-! ### Rules that a form makes -/

namespace FormValues

/-- The number of fields, each name once. -/
def size (values : FormValues) : ℕ := (values.fields.map Prod.fst).dedup.length

/-- There is a field of the rule. -/
def backs (values : FormValues) (index : ℕ) : Bool :=
  values.fields.any fun field => (ownedName index "").toList.isPrefixOf field.1.toList

/-- How many rules from the first one on have fields. -/
def backedRules (values : FormValues) : ℕ :=
  ((List.range (values.fields.length + 1)).takeWhile values.backs).length

theorem backs_iff {values : FormValues} {index : ℕ} :
    values.backs index = true ↔ ∃ suffix value, (ownedName index suffix, value) ∈ values.fields := by
  have hname : (ownedName index "").toList = "transform_".toList ++ (Nat.toDigits 10 index ++ ['_']) :=
    toList_ownedName index ""
  unfold backs
  rw [List.any_eq_true]
  constructor
  · rintro ⟨⟨name, value⟩, hmem, hbegins⟩
    obtain ⟨suffix, hsuffix⟩ := List.isPrefixOf_iff_prefix.mp hbegins
    refine ⟨String.ofList suffix, value, ?_⟩
    have heq : ownedName index (String.ofList suffix) = name := by
      refine String.toList_inj.mp ?_
      rw [toList_ownedName, ← hsuffix, hname, String.toList_ofList]
      simp
    rw [heq]
    exact hmem
  · rintro ⟨suffix, value, hmem⟩
    refine ⟨_, hmem, List.isPrefixOf_iff_prefix.mpr ⟨suffix.toList, ?_⟩⟩
    rw [hname]
    show _ = (ownedName index suffix).toList
    rw [toList_ownedName]
    simp

/-- Rules that have fields have different ones. -/
theorem le_size_of_backs {values : FormValues} {n : ℕ} (h : ∀ i < n, values.backs i = true) :
    n ≤ values.size := by
  have hfield : ∀ i, ∃ suffix : String, i < n → ownedName i suffix ∈ (values.fields.map Prod.fst).dedup := by
    intro i
    by_cases hi : i < n
    · obtain ⟨suffix, value, hmem⟩ := backs_iff.mp (h i hi)
      exact ⟨suffix, fun _ => List.mem_dedup.mpr (List.mem_map_of_mem hmem)⟩
    · exact ⟨"", fun hlt => absurd hlt hi⟩
  choose suffix hsuffix using hfield
  have hnodup : ((List.range n).map fun i => ownedName i (suffix i)).Nodup :=
    List.Nodup.map (fun i j heq => (ownedName_inj heq).1) List.nodup_range
  have hsubset : ((List.range n).map fun i => ownedName i (suffix i)) ⊆
      (values.fields.map Prod.fst).dedup := by
    intro name hname
    obtain ⟨i, hi, rfl⟩ := List.mem_map.mp hname
    exact hsuffix i (List.mem_range.mp hi)
  have hlength := (List.subperm_of_subset hnodup hsubset).length_le
  rw [List.length_map, List.length_range] at hlength
  exact hlength

theorem le_backedRules_iff {values : FormValues} {n : ℕ} :
    n ≤ values.backedRules ↔ ∀ i < n, values.backs i = true := by
  unfold backedRules
  constructor
  · intro hn i hi
    have hrange := List.prefix_iff_eq_take.mp
      (List.takeWhile_prefix values.backs (l := List.range (values.fields.length + 1)))
    have hmem : i ∈ (List.range (values.fields.length + 1)).takeWhile values.backs := by
      rw [hrange, List.take_range, List.mem_range, lt_min_iff]
      have hlength := (List.takeWhile_prefix values.backs
        (l := List.range (values.fields.length + 1))).length_le
      rw [List.length_range] at hlength
      exact ⟨by omega, by omega⟩
    exact List.mem_takeWhile_imp hmem
  · intro hbacks
    have hsize := le_size_of_backs hbacks
    have hfields : values.size ≤ values.fields.length := by
      have hle := (List.dedup_sublist (values.fields.map Prod.fst)).length_le
      rw [List.length_map] at hle
      exact hle
    have hsplit : List.range (values.fields.length + 1) =
        List.range n ++ (List.range (values.fields.length + 1 - n)).map (n + ·) := by
      rw [← List.range_add]
      congr 1
      omega
    rw [hsplit, List.takeWhile_append_of_pos fun i hi => hbacks i (List.mem_range.mp hi), List.length_append,
      List.length_range]
    exact Nat.le_add_right _ _

end FormValues

/-- The rules that a form makes come from its fields, and there is room for them. -/
def RulesBacked (values : FormValues) (saved : List TransformRuleFile) : Prop :=
  ∃ rules, transformsFromForm values saved = .ok rules ∧
    (∀ i < rules.length, ∃ suffix value, (ownedName i suffix, value) ∈ values.fields) ∧
    rules.length ≤ values.size ∧ usizeValue values "transform_count" saved.length ≤ values.size ∧
    ruleBytes * usizeValue values "transform_count" saved.length < 2 ^ 63

theorem transformsFromForm_of_fits {values : FormValues} {saved : List TransformRuleFile}
    (h : ruleBytes * usizeValue values "transform_count" saved.length < 2 ^ 63) :
    transformsFromForm values saved =
      .ok ((List.range (usizeValue values "transform_count" saved.length)).map (ruleFromForm values)) := by
  unfold transformsFromForm vecWithCapacity
  dsimp only
  rw [if_pos h]
  rfl

/-- The rules of a form come from its fields exactly when its count says no more rules than have fields. -/
theorem rules_backed_iff (values : FormValues) (saved : List TransformRuleFile) :
    RulesBacked values saved ↔
      usizeValue values "transform_count" saved.length ≤ values.backedRules ∧
      ruleBytes * usizeValue values "transform_count" saved.length < 2 ^ 63 := by
  constructor
  · rintro ⟨rules, hrules, hbacked, -, -, hfits⟩
    refine ⟨FormValues.le_backedRules_iff.mpr fun i hi => FormValues.backs_iff.mpr (hbacked i ?_), hfits⟩
    rw [transformsFromForm_of_fits hfits] at hrules
    obtain rfl := Except.ok.inj hrules
    rw [List.length_map, List.length_range]
    exact hi
  · rintro ⟨hcount, hfits⟩
    have hbacks := FormValues.le_backedRules_iff.mp hcount
    have hsize := FormValues.le_size_of_backs hbacks
    refine ⟨_, transformsFromForm_of_fits hfits, ?_, ?_, hsize, hfits⟩
    · intro i hi
      rw [List.length_map, List.length_range] at hi
      exact FormValues.backs_iff.mp (hbacks i hi)
    · rw [List.length_map, List.length_range]
      exact hsize

/-- Two rules from a form without a field of a rule, and a count that no vector has room for. -/
theorem count_fabricates_rules : ¬ RulesBacked ⟨[("transform_count", "2")]⟩ [] ∧
    transformsFromForm ⟨[("transform_count", "2")]⟩ [] = .ok [blankTransform, blankTransform] ∧
    transformsFromForm ⟨[("transform_count", "18446744073709551615")]⟩ [] =
      .error (.panicked "capacity overflow") := by
  have hrules : transformsFromForm ⟨[("transform_count", "2")]⟩ [] =
      .ok [blankTransform, blankTransform] := by
    decide
  refine ⟨?_, hrules, by decide⟩
  rintro ⟨rules, hok, -, hsize, -⟩
  obtain rfl := Except.ok.inj (hrules.symm.trans hok)
  exact absurd hsize (by decide)

end KidProxy
