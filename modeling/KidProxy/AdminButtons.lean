import KidProxy.AdminRoundTrip
import KidProxy.Agreement
import KidProxy.Lib.Moves

/-!
# AdminButtons — which rule the buttons of a rule act on

All rules are in one form, and each has its own `editor_index`.  Of the values of one name the last one is
kept, which is that of the last rule.
-/

namespace KidProxy

open Moves

/-! ### The clicked button -/

namespace EditorButton

/-- The place of the button in its editor. -/
def offset : EditorButton → ℕ
  | up => 0
  | down => 1
  | remove => 2

/-- The place of the button of a rule in the form. -/
def position (b : EditorButton) (index : ℕ) : ℕ := 3 + (12 * index + b.offset)

/-- What the button is for. -/
def apply {α : Type} : EditorButton → ℕ → List α → List α
  | up, index, rules => moveUp index rules
  | down, index, rules => moveDown index rules
  | remove, index, rules => rules.eraseIdx index

def action : EditorButton → ℕ → EditorAction
  | up, index => .moveTransformUp index
  | down, index => .moveTransformDown index
  | remove, index => .removeTransform index

end EditorButton

theorem getElem?_transformEditors {rules : List TransformRuleFile} {i r : ℕ} {rule : TransformRuleFile}
    (hrule : rules[i]? = some rule) (hr : r < 12) (start : ℕ) :
    (transformEditors start rules)[12 * i + r]? = (transformEditor (start + i) rule)[r]? := by
  induction i generalizing start rules with
  | zero =>
    cases rules with
    | nil => cases hrule
    | cons first rules =>
      obtain rfl := Option.some.inj hrule
      unfold transformEditors
      rw [Nat.mul_zero, Nat.zero_add]
      exact List.getElem?_append_left hr
  | succ i ih =>
    cases rules with
    | nil => cases hrule
    | cons first rules =>
      unfold transformEditors
      have hlength : (transformEditor start first).length = 12 := rfl
      rw [List.getElem?_append_right (by omega), hlength]
      have hplace : 12 * (i + 1) + r - 12 = 12 * i + r := by omega
      have hindex : start + 1 + i = start + (i + 1) := by omega
      rw [hplace, ih hrule, hindex]

theorem getElem?_position {rules : List TransformRuleFile} {i : ℕ} (hi : i < rules.length)
    (b : EditorButton) :
    (transformsForm rules)[b.position i]? = some (.button "editor_action" b.value) := by
  have hoffset : b.offset < 12 := by
    cases b <;> decide
  unfold transformsForm EditorButton.position
  have hlength : (transformsHead rules).length = 3 := rfl
  rw [List.getElem?_append_right (by omega), hlength, Nat.add_sub_cancel_left,
    getElem?_transformEditors (List.getElem?_eq_getElem hi) hoffset]
  cases b <;> rfl

theorem isButton_of_editorAction {rules : List TransformRuleFile} {c : FormControl}
    (hc : c ∈ transformsForm rules) (hname : c.name = "editor_action") : c.isButton = true := by
  rcases mem_transformsForm hc with ⟨value, rfl⟩ | rfl | ⟨index, rfl⟩ | ⟨i, rule, field, -, rfl⟩
  · rfl
  · exact absurd (show "transform_count" = "editor_action" from hname) (by decide)
  · exact absurd (show "editor_index" = "editor_action" from hname) (by decide)
  · rw [field.control_name] at hname
    exact absurd hname (ownedName_ne_of_head i _ (by decide))

/-- The action that is read is that of the clicked button. -/
theorem get_editorAction {rules : List TransformRuleFile} {i : ℕ} (hi : i < rules.length)
    (b : EditorButton) :
    (submitForm (transformsForm rules) (b.position i)).get "editor_action" = some b.value := by
  refine FormValues.get_eq_some ?_ ?_
  · intro p hp hname
    obtain ⟨j, c, hc, hcname, hvalue⟩ := mem_submitForm.mp hp
    have hbutton := isButton_of_editorAction (List.mem_of_getElem? hc) (hcname.trans hname)
    cases c with
    | button name value =>
      by_cases hj : j = b.position i
      · subst hj
        obtain ⟨-, rfl⟩ := FormControl.button.inj (Option.some.inj (hc.symm.trans (getElem?_position hi b)))
        simpa [FormControl.submitted] using hvalue.symm
      · simp [FormControl.submitted, hj] at hvalue
    | _ => cases hbutton
  · refine ⟨("editor_action", b.value), mem_submitForm.mpr ?_, rfl⟩
    refine ⟨b.position i, _, getElem?_position hi b, rfl, ?_⟩
    simp [FormControl.submitted]

/-! ### The index that is read -/

theorem transformEditors_append (start : ℕ) (rules rules' : List TransformRuleFile) :
    transformEditors start (rules ++ rules') =
      transformEditors start rules ++ transformEditors (start + rules.length) rules' := by
  induction rules generalizing start with
  | nil => rfl
  | cons rule rules ih =>
    have hstart : start + (rule :: rules).length = start + 1 + rules.length := by
      rw [List.length_cons]
      omega
    rw [List.cons_append, transformEditors, transformEditors, ih, List.append_assoc, hstart]

/-- The index that is read is that of the last rule. -/
theorem get_editorIndex (rules : List TransformRuleFile) (rule : TransformRuleFile) (clicked : ℕ) :
    (submitForm (transformsForm (rules ++ [rule])) clicked).get "editor_index" =
      some (toString rules.length) := by
  have hform : transformsForm (rules ++ [rule]) =
      (transformsHead (rules ++ [rule]) ++ transformEditors 0 rules) ++
        transformEditor rules.length rule := by
    unfold transformsForm
    rw [transformEditors_append, transformEditors, transformEditors, List.append_nil, Nat.zero_add,
      List.append_assoc]
  unfold submitForm
  rw [hform, submittedFrom_append, FormValues.get_append]
  refine Option.or_eq_some_iff.mpr (.inl (FormValues.get_eq_some ?_ ?_))
  · intro p hp hname
    obtain ⟨j, c, hc, hcname, hvalue⟩ := mem_submittedFrom.mp hp
    rcases mem_transformEditor (List.mem_of_getElem? hc) with ⟨value, rfl⟩ | rfl | ⟨field, rfl⟩
    · exact absurd (show "editor_action" = "editor_index" from hcname.trans hname) (by decide)
    · exact (Option.some.inj hvalue).symm
    · rw [field.control_name] at hcname
      exact absurd (hcname.trans hname) (ownedName_ne_of_head _ _ (by decide))
  · exact ⟨("editor_index", toString rules.length), mem_submittedFrom.mpr ⟨3, _, rfl, rfl, rfl⟩, rfl⟩

/-! ### What the buttons do -/

namespace EditorButton

/-- The action does what the button is for, to the rule it names. -/
theorem applyEditorAction_action (b : EditorButton) {rules : List TransformRuleFile} {index : ℕ}
    (hindex : index < rules.length) (hfits : FitsVec rules) :
    applyEditorAction rules (b.action index) = .ok (b.apply index rules) := by
  have hlength : 112 * rules.length < 2 ^ 63 := hfits
  cases b with
  | up =>
    cases index with
    | zero => rfl
    | succ k =>
      have hk := List.getElem?_eq_getElem (show k < rules.length by omega)
      have hk' := List.getElem?_eq_getElem hindex
      have hguard : (decide (0 < k + 1) && decide (k + 1 < rules.length)) = true := by
        simp [hindex]
      show (if _ then _ else _) = _
      rw [if_pos hguard, Nat.add_sub_cancel, sliceSwap, hk, hk']
      show Except.ok _ = _
      rw [List.set_comm _ _ (Nat.succ_ne_self k), set_set_eq_moveDown hk hk']
      rfl
  | down =>
    have hwrap : (index + 1) % 2 ^ 64 = index + 1 := Nat.mod_eq_of_lt (by omega)
    show (if (index + 1) % 2 ^ 64 < rules.length then _ else _) = _
    rw [hwrap]
    by_cases hnext : index + 1 < rules.length
    · have hi := List.getElem?_eq_getElem hindex
      have hi' := List.getElem?_eq_getElem hnext
      rw [if_pos hnext, sliceSwap, hi, hi']
      show Except.ok _ = _
      rw [set_set_eq_moveDown hi hi']
      rfl
    · rw [if_neg hnext]
      exact congrArg Except.ok (moveDown_of_length_le (Nat.le_of_not_lt hnext)).symm
  | remove => exact if_pos hindex

end EditorButton

theorem editorAction_button {rules : List TransformRuleFile} {i : ℕ} (hi : i < rules.length)
    (hfits : FitsVec rules) (b : EditorButton) :
    editorAction (submitForm (transformsForm rules) (b.position i)) = b.action (rules.length - 1) := by
  have hlength : 112 * rules.length < 2 ^ 63 := hfits
  have haction := get_editorAction hi b
  have hindex : usizeValue (submitForm (transformsForm rules) (b.position i)) "editor_index" 0 =
      rules.length - 1 := by
    rcases List.eq_nil_or_concat' rules with rfl | ⟨before, last, rfl⟩
    · exact absurd hi (Nat.not_lt_zero i)
    · rw [List.length_append, List.length_singleton] at hlength ⊢
      unfold usizeValue u64Value
      rw [get_editorIndex, Option.bind_some, parseU64_toString (by omega)]
      rfl
  unfold editorAction
  rw [haction, hindex]
  cases b <;> rfl

/-- A button acts on the last rule, whichever rule it belongs to. -/
theorem submit_button {rules : List TransformRuleFile} {i : ℕ} (hi : i < rules.length)
    (hfits : FitsVec rules) (b : EditorButton) (snapshot : RuntimeManagerState) :
    Page.transforms.submit (submitForm (transformsForm rules) (b.position i)) snapshot =
      .ok (.render ⟨{ snapshot.savedConfig with transforms := b.apply (rules.length - 1) rules },
        snapshot, none, []⟩) := by
  have haction := editorAction_button hi hfits b
  have hdraft :
      Page.transforms.draft (submitForm (transformsForm rules) (b.position i)) snapshot.savedConfig =
      .ok { snapshot.savedConfig with transforms := b.apply (rules.length - 1) rules } := by
    unfold Page.draft
    dsimp only
    rw [transformsFromForm_transformsForm hfits, haction]
    show (applyEditorAction rules (b.action (rules.length - 1)) >>= _) = _
    rw [b.applyEditorAction_action (by omega) hfits]
    rfl
  unfold Page.submit
  rw [haction, hdraft]
  cases b <;> rfl

/-- Rule `index` is not the last one, but the change comes to the same list. -/
def EditorButton.ActsAlike : EditorButton → ℕ → List TransformRuleFile → Prop
  | up, index, rules => rules[rules.length - 2]? = rules[rules.length - 1]? ∧
      (index = 0 ∨ rules[index - 1]? = rules[index]?)
  | down, index, rules => rules[index]? = rules[index + 1]?
  | remove, index, rules => ∀ j, index ≤ j → j < rules.length - 1 → rules[j]? = rules[j + 1]?

theorem EditorButton.apply_last_eq_iff (b : EditorButton) {rules : List TransformRuleFile} {i : ℕ}
    (hi : i + 1 < rules.length) :
    b.apply (rules.length - 1) rules = b.apply i rules ↔ b.ActsAlike i rules := by
  cases b with
  | up =>
    obtain ⟨n, hn⟩ : ∃ n, rules.length = n + 2 := ⟨rules.length - 2, by omega⟩
    show moveUp (rules.length - 1) rules = moveUp i rules ↔
      rules[rules.length - 2]? = rules[rules.length - 1]? ∧ (i = 0 ∨ rules[i - 1]? = rules[i]?)
    have hlast : rules.length - 1 = n + 1 := by omega
    have hbefore : rules.length - 2 = n := by omega
    rw [hlast, hbefore, moveUp]
    cases i with
    | zero =>
      rw [moveUp, moveDown_eq_self_iff (by omega)]
      simp
    | succ k =>
      rw [moveUp, eq_comm, moveDown_eq_moveDown_iff (by omega) (by omega), and_comm, Nat.add_sub_cancel]
      simp
  | down =>
    show moveDown (rules.length - 1) rules = moveDown i rules ↔ rules[i]? = rules[i + 1]?
    rw [moveDown_of_length_le (by omega), eq_comm, moveDown_eq_self_iff hi]
  | remove =>
    show rules.eraseIdx (rules.length - 1) = rules.eraseIdx i ↔ _
    rw [eq_comm, eraseIdx_eq_eraseIdx_iff (by omega)]
    rfl

/-- A button does what it is for to its own rule exactly when this is the last one, or when it makes no
difference which of the two is changed. -/
theorem button_acts_on_its_rule_iff (rules : List TransformRuleFile) (i : ℕ) (hi : i < rules.length)
    (hfits : FitsVec rules) (b : EditorButton) (snapshot : RuntimeManagerState) :
    Page.transforms.submit (submitForm (transformsForm rules) (b.position i)) snapshot =
        .ok (.render ⟨{ snapshot.savedConfig with transforms := b.apply i rules }, snapshot, none, []⟩) ↔
      i + 1 = rules.length ∨ b.ActsAlike i rules := by
  rw [submit_button hi hfits]
  have hsame : (Except.ok (Submitted.render
        ⟨{ snapshot.savedConfig with transforms := b.apply (rules.length - 1) rules }, snapshot, none, []⟩) :
        Except Fault Submitted) =
      .ok (.render ⟨{ snapshot.savedConfig with transforms := b.apply i rules }, snapshot, none, []⟩) ↔
      b.apply (rules.length - 1) rules = b.apply i rules := by
    simp
  rw [hsame]
  by_cases hlast : i + 1 = rules.length
  · have hindex : rules.length - 1 = i := by omega
    rw [hindex]
    exact iff_of_true rfl (.inl hlast)
  · rw [b.apply_last_eq_iff (by omega)]
    exact (or_iff_right hlast).symm

/-- `Remove` of the first of two rules. -/
theorem remove_first_removes_last :
    Page.transforms.submit (submitForm (transformsForm (sampleRules.take 2)) (EditorButton.remove.position 0))
        sampleStarted.snapshot ≠
      .ok (.render ⟨{ sampleStarted.snapshot.savedConfig with
        transforms := EditorButton.remove.apply 0 (sampleRules.take 2) }, sampleStarted.snapshot, none,
          []⟩) := by
  have hfits : FitsVec (sampleRules.take 2) := by
    show ruleBytes * 2 < 2 ^ 63
    decide
  rw [submit_button (by decide) hfits]
  intro h
  have htransforms := congrArg AppConfigFile.transforms
    (congrArg EditorPage.draft (Submitted.render.inj (Except.ok.inj h)))
  revert htransforms
  decide

/-- The buttons of the last of three rules. -/
theorem button_acts_on_its_rule_sample :
    Page.transforms.submit (submitForm (transformsForm sampleRules) (EditorButton.up.position 2))
        sampleStarted.snapshot =
      .ok (.render ⟨{ sampleStarted.snapshot.savedConfig with
        transforms := EditorButton.up.apply 2 sampleRules }, sampleStarted.snapshot, none, []⟩) := by
  have hfits : FitsVec sampleRules := by
    show ruleBytes * 3 < 2 ^ 63
    decide
  exact (button_acts_on_its_rule_iff sampleRules 2 (by decide) hfits .up sampleStarted.snapshot).mpr
    (.inl rfl)

end KidProxy
