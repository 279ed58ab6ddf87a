import KidProxy.AdminButtons
import KidProxy.ConfigFile
import KidProxy.SaveConfig
import Mathlib.Data.List.Forall2

/-!
# EditSession — a visitor at work on the rules

The rules that are being edited live in the page only: the visitor types into it, each button submits all
of it, and the answer is the next page.  `RuleEditor` is what such a session is for, a list of rules that
is edited in place, saved into the config or dropped for the saved one; a session does what it does, where
each button of a rule acts on the last one.
-/

namespace KidProxy

open Transition

/-! ### What the visitor typed -/

/-- The values of the fields of one rule, as they stand in the page. -/
structure TypedRule where
  matcherType : String
  matcherPattern : String
  actionFrom : String
  actionTo : String
  targetType : String
  targetName : String
  stop : Bool
  matcherOption : matcherType ∈ matcherOptions
  targetOption : targetType ∈ targetOptions

namespace TypedRule

/-- The fields as they are rendered. -/
def ofRule (rule : TransformRuleFile) : TypedRule where
  matcherType := matcherTypeValue rule.matcher
  matcherPattern := matcherPatternValue rule.matcher
  actionFrom := (actionValues rule.action).1
  actionTo := (actionValues rule.action).2
  targetType := targetTypeValue rule.target
  targetName := targetNameValue rule.target
  stop := rule.stop
  matcherOption := by cases rule.matcher <;> simp [matcherTypeValue, matcherOptions]
  targetOption := by cases rule.target <;> simp [targetTypeValue, targetOptions]

def matcher (typed : TypedRule) : TransformMatcherFile :=
  if typed.matcherType = "url_glob" then .urlGlob typed.matcherPattern
  else if typed.matcherType = "content_type_glob" then .contentTypeGlob typed.matcherPattern
  else .everything

def target (typed : TypedRule) : TransformTargetFile :=
  if typed.targetType = "any" then .everything
  else if typed.targetType = "all_headers" then .allHeaders
  else if typed.targetType = "header" then .header typed.targetName
  else if typed.targetType = "cookies" then .cookies
  else .body

/-- The rule that the fields describe. -/
def rule (typed : TypedRule) : TransformRuleFile :=
  ⟨typed.matcher, .replace typed.actionFrom typed.actionTo, typed.target, typed.stop⟩

/-- The control of a field, with what was typed. -/
def control (index : ℕ) (typed : TypedRule) (field : RuleField) : FormControl :=
  let name := ownedName index field.suffix
  match field with
  | .present => .input name "true"
  | .matcherType => .select name typed.matcherType matcherOptions
  | .matcherPattern => .input name typed.matcherPattern
  | .actionFrom => .input name typed.actionFrom
  | .actionTo => .input name typed.actionTo
  | .targetType => .select name typed.targetType targetOptions
  | .targetName => .input name typed.targetName
  | .stop => .checkbox name "true" typed.stop

theorem rule_ofRule (rule : TransformRuleFile) : (ofRule rule).rule = rule := by
  obtain ⟨matcher, ⟨fromText, toText⟩, target, stop⟩ := rule
  cases matcher <;> cases target <;> rfl

theorem rules_ofRules (rules : List TransformRuleFile) :
    (rules.map ofRule).map TypedRule.rule = rules := by
  rw [List.map_map]
  exact (List.map_congr_left fun rule _ => rule_ofRule rule).trans (List.map_id rules)

theorem control_name (index : ℕ) (typed : TypedRule) (field : RuleField) :
    (typed.control index field).name = ownedName index field.suffix := by
  cases field <;> rfl

/-- The field says nothing of the rule: the pattern of a matcher that has none, the name of a target that
is no header. -/
def Ignores (typed : TypedRule) : RuleField → Prop
  | .matcherPattern => typed.matcherType = "any"
  | .targetName => typed.targetType ≠ "header"
  | _ => False

/-- Any other field stands there as it is rendered for the rule. -/
theorem control_rule (typed : TypedRule) (field : RuleField) (h : ¬ typed.Ignores field) (index : ℕ) :
    typed.control index field = field.control index typed.rule := by
  have hmatcher := typed.matcherOption
  have htarget := typed.targetOption
  simp only [matcherOptions, targetOptions, List.mem_cons, List.not_mem_nil, or_false] at hmatcher htarget
  cases field with
  | matcherType =>
    show FormControl.select _ typed.matcherType _ = FormControl.select _ (matcherTypeValue typed.matcher) _
    unfold matcher
    rcases hmatcher with hm | hm | hm <;> rw [hm] <;> rfl
  | matcherPattern =>
    show FormControl.input _ typed.matcherPattern = FormControl.input _ (matcherPatternValue typed.matcher)
    unfold matcher
    rcases hmatcher with hm | hm | hm
    · exact absurd hm h
    · rw [hm]; rfl
    · rw [hm]; rfl
  | targetType =>
    show FormControl.select _ typed.targetType _ = FormControl.select _ (targetTypeValue typed.target) _
    unfold target
    rcases htarget with ht | ht | ht | ht | ht <;> rw [ht] <;> rfl
  | targetName =>
    have ht : typed.targetType = "header" := not_not.mp h
    show FormControl.input _ typed.targetName = FormControl.input _ (targetNameValue typed.target)
    unfold target
    rw [ht]
    rfl
  | _ => rfl

end TypedRule

/-- The controls of `TransformEditor`, with what was typed. -/
def typedEditor (index : ℕ) (typed : TypedRule) : List FormControl :=
  EditorButton.all.map (fun b => .button "editor_action" b.value) ++
    .input "editor_index" (toString index) :: RuleField.all.map (typed.control index)

def typedEditors : ℕ → List TypedRule → List FormControl
  | _, [] => []
  | index, typed :: rest => typedEditor index typed ++ typedEditors (index + 1) rest

/-- The form of `TransformsPage`, with what was typed. -/
def typedForm (typed : List TypedRule) : List FormControl :=
  transformsHead (typed.map TypedRule.rule) ++ typedEditors 0 typed

/-! ### What the server reads of it -/

/-- The controls of two forms have the same names, and those of the name `key` are the same. -/
def SameAt (key : String) (c d : FormControl) : Prop := c.name = d.name ∧ (c.name = key → c = d)

theorem get_submittedFrom_congr {key : String} {controls controls' : List FormControl}
    (h : List.Forall₂ (SameAt key) controls controls') (start clicked : ℕ) :
    FormValues.get ⟨submittedFrom start clicked controls⟩ key =
      FormValues.get ⟨submittedFrom start clicked controls'⟩ key := by
  induction h generalizing start with
  | nil => rfl
  | @cons c d controls controls' hc hrest ih =>
    have hother : ∀ e : FormControl, e.name ≠ key →
        FormValues.get ⟨submittedFrom start clicked [e]⟩ key = none := by
      intro e he
      refine FormValues.get_eq_none fun p hp => ?_
      obtain ⟨i, f, hf, hname, -⟩ := mem_submittedFrom.mp hp
      obtain rfl := List.mem_singleton.mp (List.mem_of_getElem? hf)
      exact hname ▸ he
    have hhead : FormValues.get ⟨submittedFrom start clicked [c]⟩ key =
        FormValues.get ⟨submittedFrom start clicked [d]⟩ key := by
      by_cases hkey : c.name = key
      · rw [hc.2 hkey]
      · rw [hother c hkey, hother d (hc.1 ▸ hkey)]
    have hcons : ∀ (e : FormControl) (l : List FormControl),
        FormValues.get ⟨submittedFrom start clicked (e :: l)⟩ key =
          (FormValues.get ⟨submittedFrom (start + 1) clicked l⟩ key).or
            (FormValues.get ⟨submittedFrom start clicked [e]⟩ key) := by
      intro e l
      rw [← FormValues.get_append]
      exact congrArg (fun fields => FormValues.get ⟨fields⟩ key)
        (submittedFrom_append start clicked [e] l)
    rw [hcons c controls, hcons d controls', ih, hhead]

/-- The field `key` is one that its rule ignores. -/
def IgnoredAt (start : ℕ) (typed : List TypedRule) (key : String) : Prop :=
  ∃ (i : ℕ) (t : TypedRule) (field : RuleField),
    typed[i]? = some t ∧ t.Ignores field ∧ key = ownedName (start + i) field.suffix

theorem sameAt_typedEditor {index : ℕ} {typed : TypedRule} {key : String}
    (hkey : ∀ field, typed.Ignores field → key ≠ ownedName index field.suffix) :
    List.Forall₂ (SameAt key) (typedEditor index typed) (transformEditor index typed.rule) := by
  have hfield : ∀ field : RuleField,
      SameAt key (typed.control index field) (field.control index typed.rule) := by
    intro field
    refine ⟨(typed.control_name index field).trans (field.control_name index typed.rule).symm,
      fun hname => ?_⟩
    rw [typed.control_name] at hname
    exact typed.control_rule field (fun hi => hkey field hi hname.symm) index
  have hsame : ∀ c : FormControl, SameAt key c c := fun c => ⟨rfl, fun _ => rfl⟩
  unfold typedEditor transformEditor
  refine List.rel_append (List.forall₂_same.mpr fun c _ => hsame c) (.cons (hsame _) ?_)
  exact List.forall₂_map_left_iff.mpr (List.forall₂_map_right_iff.mpr
    (List.forall₂_same.mpr fun field _ => hfield field))

theorem sameAt_typedEditors {start : ℕ} {typed : List TypedRule} {key : String}
    (hkey : ¬ IgnoredAt start typed key) :
    List.Forall₂ (SameAt key) (typedEditors start typed)
      (transformEditors start (typed.map TypedRule.rule)) := by
  induction typed generalizing start with
  | nil => exact .nil
  | cons t typed ih =>
    unfold typedEditors
    rw [List.map_cons, transformEditors]
    refine List.rel_append (sameAt_typedEditor fun field hi heq => ?_) (ih ?_)
    · exact hkey ⟨0, t, field, rfl, hi, heq⟩
    · rintro ⟨i, u, field, hu, hi, heq⟩
      refine hkey ⟨i + 1, u, field, hu, hi, ?_⟩
      rwa [← Nat.add_assoc, Nat.add_right_comm]

/-- What was typed is read as the form of the rules that it describes. -/
theorem get_typedForm (typed : List TypedRule) (key : String) (hkey : ¬ IgnoredAt 0 typed key)
    (clicked : ℕ) : (submitForm (typedForm typed) clicked).get key =
      (submitForm (transformsForm (typed.map TypedRule.rule)) clicked).get key := by
  refine get_submittedFrom_congr (List.rel_append ?_ (sameAt_typedEditors hkey)) 0 clicked
  exact List.forall₂_same.mpr fun c _ => ⟨rfl, fun _ => rfl⟩

theorem get_typedField {typed : List TypedRule} {i : ℕ} (field : RuleField)
    (h : ∀ t, typed[i]? = some t → ¬ t.Ignores field) (clicked : ℕ) :
    (submitForm (typedForm typed) clicked).get (ownedName i field.suffix) =
      (submitForm (transformsForm (typed.map TypedRule.rule)) clicked).get (ownedName i field.suffix) := by
  refine get_typedForm typed _ ?_ clicked
  rintro ⟨j, t, other, ht, hi, heq⟩
  rw [Nat.zero_add] at heq
  obtain ⟨rfl, hsuffix⟩ := ownedName_inj heq
  obtain rfl := RuleField.suffix_injective hsuffix
  exact h t ht hi

/-- The control of a field that is not ignored is submitted as it was typed. -/
theorem get_typed {typed : List TypedRule} {i : ℕ} {t : TypedRule} (ht : typed[i]? = some t)
    (field : RuleField) (h : ¬ t.Ignores field) (clicked : ℕ) :
    (submitForm (transformsForm (typed.map TypedRule.rule)) clicked).get (ownedName i field.suffix) =
      (t.control i field).submitted false := by
  have hrule : (typed.map TypedRule.rule)[i]? = some t.rule := by
    rw [List.getElem?_map, ht]
    rfl
  rw [get_transformsForm hrule, t.control_rule field h]

/-- Where a matcher has no pattern, the pattern is not looked at. -/
theorem matcherFromForm_typedForm (typed : List TypedRule) (i clicked : ℕ) :
    matcherFromForm (submitForm (typedForm typed) clicked) i =
      matcherFromForm (submitForm (transformsForm (typed.map TypedRule.rule)) clicked) i := by
  have htype : (submitForm (typedForm typed) clicked).get (ownedName i "matcher_type") =
      (submitForm (transformsForm (typed.map TypedRule.rule)) clicked).get (ownedName i "matcher_type") :=
    get_typedField .matcherType (fun _ _ h => h) clicked
  unfold matcherFromForm textValueOwned
  rw [htype]
  by_cases hany : ∃ t, typed[i]? = some t ∧ t.matcherType = "any"
  · obtain ⟨t, ht, hany⟩ := hany
    have hread : (submitForm (transformsForm (typed.map TypedRule.rule)) clicked).get
        (ownedName i "matcher_type") = (t.control i .matcherType).submitted false :=
      get_typed ht .matcherType (fun h => h) clicked
    rw [hread]
    simp [TypedRule.control, FormControl.submitted, hany, matcherOptions]
  · have hpattern : (submitForm (typedForm typed) clicked).get (ownedName i "matcher_pattern") =
        (submitForm (transformsForm (typed.map TypedRule.rule)) clicked).get
          (ownedName i "matcher_pattern") :=
      get_typedField .matcherPattern (fun t ht h => hany ⟨t, ht, h⟩) clicked
    rw [hpattern]

/-- Where a target is no header, the name is not looked at. -/
theorem targetFromForm_typedForm (typed : List TypedRule) (i clicked : ℕ) :
    targetFromForm (submitForm (typedForm typed) clicked) i =
      targetFromForm (submitForm (transformsForm (typed.map TypedRule.rule)) clicked) i := by
  have htype : (submitForm (typedForm typed) clicked).get (ownedName i "target_type") =
      (submitForm (transformsForm (typed.map TypedRule.rule)) clicked).get (ownedName i "target_type") :=
    get_typedField .targetType (fun _ _ h => h) clicked
  unfold targetFromForm textValueOwned
  rw [htype]
  by_cases hother : ∃ t, typed[i]? = some t ∧ t.targetType ≠ "header"
  · obtain ⟨t, ht, hother⟩ := hother
    have hread : (submitForm (transformsForm (typed.map TypedRule.rule)) clicked).get
        (ownedName i "target_type") = (t.control i .targetType).submitted false :=
      get_typed ht .targetType (fun h => h) clicked
    have hoption := t.targetOption
    simp only [targetOptions, List.mem_cons, List.not_mem_nil, or_false] at hoption
    rw [hread]
    rcases hoption with ho | ho | ho | ho | ho
    · simp [TypedRule.control, FormControl.submitted, ho, targetOptions]
    · simp [TypedRule.control, FormControl.submitted, ho, targetOptions]
    · simp [TypedRule.control, FormControl.submitted, ho, targetOptions]
    · exact absurd ho hother
    · simp [TypedRule.control, FormControl.submitted, ho, targetOptions]
  · have hname : (submitForm (typedForm typed) clicked).get (ownedName i "target_name") =
        (submitForm (transformsForm (typed.map TypedRule.rule)) clicked).get (ownedName i "target_name") :=
      get_typedField .targetName (fun t ht h => hother ⟨t, ht, h⟩) clicked
    rw [hname]

/-- A rule is read of what was typed as of the form of the rules that it describes. -/
theorem ruleFromForm_typedForm (typed : List TypedRule) (i clicked : ℕ) :
    ruleFromForm (submitForm (typedForm typed) clicked) i =
      ruleFromForm (submitForm (transformsForm (typed.map TypedRule.rule)) clicked) i := by
  have hfrom : (submitForm (typedForm typed) clicked).get (ownedName i "action_from") =
      (submitForm (transformsForm (typed.map TypedRule.rule)) clicked).get (ownedName i "action_from") :=
    get_typedField .actionFrom (fun _ _ h => h) clicked
  have hto : (submitForm (typedForm typed) clicked).get (ownedName i "action_to") =
      (submitForm (transformsForm (typed.map TypedRule.rule)) clicked).get (ownedName i "action_to") :=
    get_typedField .actionTo (fun _ _ h => h) clicked
  have hstop : (submitForm (typedForm typed) clicked).get (ownedName i "stop") =
      (submitForm (transformsForm (typed.map TypedRule.rule)) clicked).get (ownedName i "stop") :=
    get_typedField .stop (fun _ _ h => h) clicked
  unfold ruleFromForm textValueOwned FormValues.containsKey
  rw [matcherFromForm_typedForm, targetFromForm_typedForm, hfrom, hto, hstop]

theorem not_ignoredAt {typed : List TypedRule} {key : String}
    (h : ∀ i suffix, ownedName i suffix ≠ key) : ¬ IgnoredAt 0 typed key := by
  rintro ⟨i, t, field, -, -, heq⟩
  rw [Nat.zero_add] at heq
  exact h i field.suffix heq.symm

/-- The server answers to what was typed as to the form of the rules that it describes. -/
theorem submit_typedForm (typed : List TypedRule) (clicked : ℕ) (snapshot : RuntimeManagerState) :
    Page.transforms.submit (submitForm (typedForm typed) clicked) snapshot =
      Page.transforms.submit (submitForm (transformsForm (typed.map TypedRule.rule)) clicked) snapshot := by
  have haction := get_typedForm typed "editor_action"
    (not_ignoredAt fun i suffix => ownedName_ne_of_head i suffix (by decide)) clicked
  have hindex := get_typedForm typed "editor_index"
    (not_ignoredAt fun i suffix => ownedName_ne_of_head i suffix (by decide)) clicked
  have hcount := get_typedForm typed "transform_count"
    (not_ignoredAt ownedName_ne_transformCount) clicked
  have hedit : editorAction (submitForm (typedForm typed) clicked) =
      editorAction (submitForm (transformsForm (typed.map TypedRule.rule)) clicked) := by
    unfold editorAction usizeValue u64Value
    rw [haction, hindex]
  have hrules : ∀ fallback, transformsFromForm (submitForm (typedForm typed) clicked) fallback =
      transformsFromForm (submitForm (transformsForm (typed.map TypedRule.rule)) clicked) fallback := by
    intro fallback
    have heach := funext fun i => ruleFromForm_typedForm typed i clicked
    unfold transformsFromForm usizeValue u64Value
    rw [hcount, heach]
  unfold Page.submit Page.draft
  dsimp only
  rw [hedit, hrules]

/-! ### The three buttons of the page -/

/-- The action that is read is that of the clicked button. -/
theorem get_clicked {rules : List TransformRuleFile} {clicked : ℕ} {value : String}
    (hbutton : (transformsForm rules)[clicked]? = some (.button "editor_action" value)) :
    (submitForm (transformsForm rules) clicked).get "editor_action" = some value := by
  refine FormValues.get_eq_some ?_ ?_
  · intro p hp hname
    obtain ⟨j, c, hc, hcname, hvalue⟩ := mem_submitForm.mp hp
    have hisButton := isButton_of_editorAction (List.mem_of_getElem? hc) (hcname.trans hname)
    cases c with
    | button name other =>
      by_cases hj : j = clicked
      · subst hj
        obtain ⟨-, rfl⟩ := FormControl.button.inj (Option.some.inj (hc.symm.trans hbutton))
        simpa [FormControl.submitted] using hvalue.symm
      · simp [FormControl.submitted, hj] at hvalue
    | _ => cases hisButton
  · refine ⟨("editor_action", value), mem_submitForm.mpr ⟨clicked, _, hbutton, rfl, ?_⟩, rfl⟩
    simp [FormControl.submitted]

theorem submit_add {rules : List TransformRuleFile} (hfits : FitsVec rules) (snapshot : RuntimeManagerState) :
    Page.transforms.submit (submitForm (transformsForm rules) 0) snapshot =
      .ok (.render ⟨{ snapshot.savedConfig with transforms := rules ++ [blankTransform] },
        snapshot, none, []⟩) := by
  have haction : editorAction (submitForm (transformsForm rules) 0) = .addTransform := by
    unfold editorAction
    rw [get_clicked rfl]
    rfl
  unfold Page.submit Page.draft
  rw [haction]
  dsimp only
  rw [transformsFromForm_transformsForm hfits]
  rfl

theorem submit_save {rules : List TransformRuleFile} (hfits : FitsVec rules)
    (snapshot : RuntimeManagerState) :
    Page.transforms.submit (submitForm (transformsForm rules) 1) snapshot =
      .ok (.save snapshot { snapshot.savedConfig with transforms := rules }) := by
  have haction : editorAction (submitForm (transformsForm rules) 1) = .save := by
    unfold editorAction
    rw [get_clicked rfl]
    rfl
  unfold Page.submit Page.draft
  rw [haction]
  dsimp only
  rw [transformsFromForm_transformsForm hfits]
  rfl

/-- The form of `AdminSidebar`. -/
def sidebarForm : List FormControl := [.button "editor_action" "reload"]

theorem submit_reload (snapshot : RuntimeManagerState) :
    Page.transforms.submit (submitForm sidebarForm 0) snapshot = .ok .reload := rfl

/-! ### Sessions -/

/-- What the handler of a click finds: the snapshot that it reads first, the answers to its call on the
manager, and the snapshot that is current once the call has failed. -/
structure Found where
  snapshot : RuntimeManagerState
  env : CallEnv
  current : RuntimeManagerState

/-- What the visitor does, and what other requests do `meanwhile`. -/
inductive EditStep
  /-- The page is opened anew. -/
  | visit (snapshot : RuntimeManagerState)
  | type (index : ℕ) (typed : TypedRule)
  | add (found : Found)
  | press (b : EditorButton) (index : ℕ) (found : Found)
  | save (found : Found)
  | reload (found : Found)
  | meanwhile (manager : RuntimeManager) (file : String)

/-- The page, the manager and the config file. -/
structure EditSession where
  typed : List TypedRule
  manager : RuntimeManager
  file : String

namespace EditSession

/-- `transforms_page`. -/
def visit (s : EditSession) (snapshot : RuntimeManagerState) : EditSession :=
  { s with typed := snapshot.savedConfig.transforms.map .ofRule }

def start (manager : RuntimeManager) (file : String) : EditSession :=
  visit ⟨[], manager, file⟩ manager.snapshot

variable [Net] [Glob] [ConfigText]

/-- `transforms_submit` with the click of a button of `form`: the answer is the next page. -/
def click (s : EditSession) (form : List FormControl) (clicked : ℕ) (found : Found) : Option EditSession :=
  match Page.transforms.submit (submitForm form clicked) found.snapshot with
  | .ok .reload =>
    let outcome := s.manager.reload found.env.toReloadEnv
    let page := reloadedPage found.current outcome.result
    some ⟨page.draft.transforms.map .ofRule, outcome.manager, s.file⟩
  | .ok (.save snapshot draft) =>
    let (result, manager, file) := s.manager.saveConfig found.env draft s.file
    let page := savedPage snapshot draft result
    some ⟨page.draft.transforms.map .ofRule, manager, file⟩
  | .ok (.render page) => some { s with typed := page.draft.transforms.map .ofRule }
  | .error _ => none

/-- A rule can be typed into, and its buttons can be clicked, while the page shows it. -/
def step (s : EditSession) : EditStep → Option EditSession
  | .visit snapshot => some (s.visit snapshot)
  | .type index typed =>
    if index < s.typed.length then some { s with typed := s.typed.set index typed } else none
  | .add found => s.click (typedForm s.typed) 0 found
  | .press b index found =>
    if index < s.typed.length then s.click (typedForm s.typed) (b.position index) found else none
  | .save found => s.click (typedForm s.typed) 1 found
  | .reload found => s.click sidebarForm 0 found
  | .meanwhile manager file => some { s with manager, file }

end EditSession

/-- **The abstract editor**: a list of rules, and where it is saved. -/
structure RuleEditor where
  rules : List TransformRuleFile
  manager : RuntimeManager
  file : String

namespace RuleEditor

variable [Net] [Glob] [ConfigText]

/-- The list goes into the config that the handler read.  A config that is not valid changes nothing, and
one that cannot be written changes the file at most. -/
def save (e : RuleEditor) (found : Found) : RuleEditor :=
  let draft := { found.snapshot.savedConfig with transforms := e.rules }
  match draft.toRuntimeConfig found.env.fs, ConfigText.print draft, found.env.write with
  | .ok _, .ok file, .written =>
    { e with manager := e.manager.publishSaved draft (e.manager.activeMatches draft), file }
  | .ok _, .ok _, .failed _ left => { e with file := left }
  | _, _, _ => e

/-- The edits are dropped for the rules that are saved then. -/
def reload (e : RuleEditor) (found : Found) : RuleEditor :=
  let outcome := e.manager.reload found.env.toReloadEnv
  let rules := match outcome.result with
    | .ok updated => updated.savedConfig.transforms
    | .error _ => found.current.savedConfig.transforms
  { e with rules, manager := outcome.manager }

/-- A button acts on the last rule, whichever rule it belongs to. -/
def step (e : RuleEditor) : EditStep → Option RuleEditor
  | .visit snapshot => some { e with rules := snapshot.savedConfig.transforms }
  | .type index typed =>
    if index < e.rules.length then some { e with rules := e.rules.set index typed.rule } else none
  | .add _ => some { e with rules := e.rules ++ [blankTransform] }
  | .press b index _ =>
    if index < e.rules.length then some { e with rules := b.apply (e.rules.length - 1) e.rules } else none
  | .save found => some (e.save found)
  | .reload found => some (e.reload found)
  | .meanwhile manager file => some { e with manager, file }

/-- The rules are held in a vector. -/
def Fits (e : RuleEditor) (_ : EditStep) : Prop := FitsVec e.rules

end RuleEditor

namespace EditSession

/-- The rules that the page describes. -/
def editor (s : EditSession) : RuleEditor := ⟨s.typed.map TypedRule.rule, s.manager, s.file⟩

/-- A page that shows `rules` is one that describes them. -/
theorem editor_ofRules (rules : List TransformRuleFile) (manager : RuntimeManager) (file : String) :
    editor ⟨rules.map .ofRule, manager, file⟩ = ⟨rules, manager, file⟩ :=
  congrArg (RuleEditor.mk · manager file) (TypedRule.rules_ofRules rules)

theorem length_editor (s : EditSession) : s.editor.rules.length = s.typed.length := List.length_map _

section Click

variable [Net] [Glob] [ConfigText] {s : EditSession} {found : Found}

/-- A click that shows a draft changes the page only. -/
theorem editor_click_of_render {clicked : ℕ} {draft : AppConfigFile}
    (h : Page.transforms.submit (submitForm (transformsForm s.editor.rules) clicked) found.snapshot =
      .ok (.render ⟨draft, found.snapshot, none, []⟩)) :
    (s.click (typedForm s.typed) clicked found).map editor =
      some { s.editor with rules := draft.transforms } := by
  unfold click
  rw [submit_typedForm]
  rw [show s.typed.map TypedRule.rule = s.editor.rules from rfl, h]
  exact congrArg some (editor_ofRules _ _ _)

theorem editor_add (hfits : FitsVec s.editor.rules) :
    (s.click (typedForm s.typed) 0 found).map editor =
      some { s.editor with rules := s.editor.rules ++ [blankTransform] } :=
  editor_click_of_render (submit_add hfits found.snapshot)

theorem editor_press (hfits : FitsVec s.editor.rules) (b : EditorButton) {index : ℕ}
    (hindex : index < s.editor.rules.length) :
    (s.click (typedForm s.typed) (b.position index) found).map editor =
      some { s.editor with rules := b.apply (s.editor.rules.length - 1) s.editor.rules } :=
  editor_click_of_render (submit_button hindex hfits b found.snapshot)

omit [Net] [Glob] [ConfigText] in
/-- Whatever becomes of a save, the page goes on with the draft. -/
theorem draft_savedPage (snapshot : RuntimeManagerState) (draft : AppConfigFile)
    (result : Except AnyError RuntimeManagerState) : (savedPage snapshot draft result).draft = draft := by
  cases result <;> rfl

theorem editor_save (hfits : FitsVec s.editor.rules) :
    (s.click (typedForm s.typed) 1 found).map editor = some (s.editor.save found) := by
  have hsubmit : Page.transforms.submit (submitForm (typedForm s.typed) 1) found.snapshot =
      .ok (.save found.snapshot { found.snapshot.savedConfig with transforms := s.editor.rules }) := by
    rw [submit_typedForm]
    exact submit_save hfits found.snapshot
  unfold click RuleEditor.save
  rw [hsubmit]
  dsimp only
  simp only [draft_savedPage]
  generalize hdraft : { found.snapshot.savedConfig with transforms := s.editor.rules } = draft
  rw [Option.map_some, editor_ofRules]
  show some (RuleEditor.mk _ _ _) = _
  cases hvalid : draft.toRuntimeConfig found.env.fs with
  | error err =>
    have hsave : s.manager.saveConfig found.env draft s.file = (.error err, s.manager, s.file) := by
      unfold RuntimeManager.saveConfig
      rw [hvalid]
    rw [hsave]
    rfl
  | ok runtime =>
    rcases RuntimeManager.writeJson_cases found.env.write draft s.manager.configPath s.file with
      ⟨err, hw, hprint⟩ | ⟨contents, hprint, hwritten, hw⟩ | ⟨contents, err, left, err', hprint, hfailed, hw⟩
    · rw [RuntimeManager.saveConfig_of_not_written hvalid hw]
      cases hcontents : ConfigText.print draft with
      | ok contents => exact absurd hcontents (hprint contents)
      | error _ => rfl
    · rw [RuntimeManager.saveConfig_of_written hvalid hw, hprint, hwritten]
      rfl
    · rw [RuntimeManager.saveConfig_of_not_written hvalid hw, hprint, hfailed]
      rfl

theorem editor_reload :
    (s.click sidebarForm 0 found).map editor = some (s.editor.reload found) := by
  unfold click
  rw [submit_reload]
  show some (editor ⟨List.map _ (reloadedPage _ _).draft.transforms, _, _⟩) = _
  rw [editor_ofRules]
  unfold RuleEditor.reload editor
  dsimp only
  cases (s.manager.reload found.env.toReloadEnv).result <;> rfl

/-- **Step lemma**: a step of the session is one of the editor. -/
theorem editor_step (s : EditSession) (a : EditStep) (hfits : s.editor.Fits a) :
    (s.step a).map editor = s.editor.step a := by
  have hlength := s.length_editor
  cases a with
  | visit snapshot => exact congrArg some (editor_ofRules _ _ _)
  | type index typed =>
    show (if index < s.typed.length then some _ else none : Option EditSession).map editor =
      if index < s.editor.rules.length then some _ else none
    rw [hlength]
    split_ifs
    · show some (RuleEditor.mk ((s.typed.set index typed).map TypedRule.rule) s.manager s.file) = _
      rw [List.map_set]
      rfl
    · rfl
  | add found => exact editor_add hfits
  | press b index found =>
    show (if index < s.typed.length then _ else none : Option EditSession).map editor =
      if index < s.editor.rules.length then _ else none
    rw [← hlength]
    split_ifs with hindex
    · exact editor_press hfits b hindex
    · rfl
  | save found => exact editor_save hfits
  | reload found => exact editor_reload
  | meanwhile manager file => rfl

end Click

end EditSession

/-- **An edit session is an editor of rules**: whatever the visitor types and clicks on the page, and
whatever others do to the manager and the config file meanwhile, the page describes after every click the
rules of the abstract editor, and leaves what it leaves in the manager and in the file; and the session can
go on exactly where the editor can.  The one thing asked is that the rules fit into memory. -/
theorem edit_session [Net] [Glob] [ConfigText] (manager : RuntimeManager) (file : String)
    (as : List EditStep)
    (hfits : Along RuleEditor.step RuleEditor.Fits
      ⟨manager.snapshot.savedConfig.transforms, manager, file⟩ as) :
    (run EditSession.step (.start manager file) as).map EditSession.editor =
      run RuleEditor.step ⟨manager.snapshot.savedConfig.transforms, manager, file⟩ as := by
  have hstart : (EditSession.start manager file).editor =
      ⟨manager.snapshot.savedConfig.transforms, manager, file⟩ := EditSession.editor_ofRules _ _ _
  rw [← hstart] at hfits ⊢
  exact run_refines EditSession.editor_step hfits

/-- What a handler finds in the sample manager. -/
def sampleFound : Found := ⟨sampleStarted.snapshot, sampleOk, sampleStarted.snapshot⟩

/-- The saved config with two rules, and what the visitor makes of the first one. -/
def sampleEdited : RuntimeManagerState :=
  { sampleStarted.snapshot with savedConfig.transforms := sampleRules.take 2 }

def sampleRewrite : TransformRuleFile := ⟨.everything, .replace "http:" "https:", .body, false⟩

/-- The visitor types into the first rule, adds one, removes the first one twice, which removes the last one
each time, and saves what is left. -/
def sampleEdits : List EditStep :=
  [.visit sampleEdited, .type 0 (.ofRule sampleRewrite), .add sampleFound, .press .remove 0 sampleFound,
    .press .remove 0 sampleFound, .save sampleFound]

theorem edit_session_sample :
    let _ := sampleNet; let _ := sampleGlob; let _ := AppConfigFile.serdeText id
    ∃ s, run EditSession.step (.start sampleStarted (sampleSaved "example.test")) sampleEdits = some s ∧
      s.manager.snapshot.savedConfig.transforms = [sampleRewrite] := by
  intro net glob text
  have hfits : Along RuleEditor.step RuleEditor.Fits
      ⟨sampleStarted.snapshot.savedConfig.transforms, sampleStarted, sampleSaved "example.test"⟩
      sampleEdits := by
    refine along_cons ?_ rfl (along_cons ?_ rfl (along_cons ?_ rfl (along_cons ?_ rfl
      (along_cons ?_ rfl (along_cons ?_ rfl trivial)))))
    all_goals
      unfold RuleEditor.Fits FitsVec
      decide
  have h := edit_session sampleStarted (sampleSaved "example.test") sampleEdits hfits
  obtain ⟨s, hs, heditor⟩ := Option.map_eq_some_iff.mp h
  refine ⟨s, hs, ?_⟩
  rw [show s.manager = s.editor.manager from rfl, heditor]
  rfl

end KidProxy
