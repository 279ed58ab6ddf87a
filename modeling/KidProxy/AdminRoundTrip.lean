import KidProxy.AdminPages
import Mathlib.Data.List.Nodup

/-!
# AdminRoundTrip — a form that is submitted as it was rendered

The renderer and the reader are separate code: every number, every list, every option and every generated
name has to be read back as it was written.
-/

namespace KidProxy

/-! ### Numbers, lists and paths -/

theorem parseU64_toString {n : ℕ} (h : n < 2 ^ 64) : parseU64 (toString n) = some n := by
  have hdigits : (toString n).toList = Nat.toDigits 10 n := by
    rw [Nat.toString_eq_repr, Nat.toList_repr]
  have hall := Text.all_isDigit_toDigits n
  have hvalue : (Nat.toDigits 10 n).foldl (fun n c => 10 * n + (c.toNat - '0'.toNat)) 0 = n := by
    rw [← Nat.ofDigitChars_eq_foldl]
    exact Nat.ofDigitChars_ten_toDigits
  have hempty : (Nat.toDigits 10 n).isEmpty = false := by
    rw [List.isEmpty_eq_false_iff]
    exact Nat.toDigits_ne_nil
  unfold parseU64
  rw [hdigits]
  split
  · -- a digit is no sign
    next digits heq =>
    rw [heq, List.all_cons] at hall
    cases hall
  · simp only [hempty, hall, hvalue, if_pos h]
    rfl

theorem isWhitespace_of_isNameChar {c : Char} (h : isNameChar c = true) : Text.isWhitespace c = false := by
  obtain ⟨hlow, hhigh⟩ := toNat_of_isNameChar h
  simp only [Text.isWhitespace, Bool.or_eq_false_iff, Bool.and_eq_false_iff, decide_eq_false_iff_not]
  omega

/-- An HTTP field name. -/
def IsFieldName (value : String) : Prop := (HeaderName.fromChars value.toList).isSome

instance (value : String) : Decidable (IsFieldName value) :=
  inferInstanceAs (Decidable ((HeaderName.fromChars value.toList).isSome = true))

namespace IsFieldName

variable {value : String}

theorem isNameChar_toLower (h : IsFieldName value) {c : Char} (hc : c ∈ value.toList) :
    isNameChar c.toLower = true := by
  unfold IsFieldName HeaderName.fromChars at h
  dsimp only at h
  split at h
  · next hvalid =>
    rw [Bool.and_eq_true, List.all_eq_true, String.toList_ofList] at hvalid
    exact hvalid.2 c.toLower (List.mem_map_of_mem hc)
  · cases h

theorem toList_ne_nil (h : IsFieldName value) : value.toList ≠ [] := by
  rintro hnil
  rw [IsFieldName, hnil] at h
  cases h

theorem comma_notMem (h : IsFieldName value) : ',' ∉ value.toList := fun hc =>
  absurd (h.isNameChar_toLower hc) (by decide)

/-- No character of a field name is white space. -/
theorem isWhitespace_eq_false (h : IsFieldName value) {c : Char} (hc : c ∈ value.toList) :
    Text.isWhitespace c = false := by
  have hname := h.isNameChar_toLower hc
  rw [← Text.isWhitespace_toLower]
  exact isWhitespace_of_isNameChar hname

theorem trim_eq (h : IsFieldName value) : Text.trim value.toList = value.toList :=
  Text.trimBy_eq_self fun _ hc => h.isWhitespace_eq_false hc

end IsFieldName

/-- A list of field names is read back from its text. -/
theorem commaList_joinComma {values : List String} (h : ∀ value ∈ values, IsFieldName value)
    (fallback : List String) : commaList (some (joinComma values)) fallback = values := by
  have hpieces : ∀ l : List String, (∀ value ∈ l, IsFieldName value) →
      (l.map fun value => String.ofList (Text.trim value.toList)).filter (fun value => !value.isEmpty) =
        l := by
    intro l hl
    induction l with
    | nil => rfl
    | cons value l ih =>
      have hvalue := hl value List.mem_cons_self
      have ih := ih fun v hv => hl v (List.mem_cons_of_mem _ hv)
      have hne : value.isEmpty = false := by
        rw [String.isEmpty_eq_false_iff]
        rintro rfl
        exact hvalue.toList_ne_nil rfl
      rw [List.map_cons, hvalue.trim_eq, String.ofList_toList, List.filter_cons_of_pos (by rw [hne]; rfl), ih]
  unfold commaList joinComma
  by_cases hnil : values = []
  · subst hnil
    rfl
  · have hsplit : ([','].intercalate (values.map String.toList)).splitOn ',' = values.map String.toList := by
      refine List.splitOn_intercalate ',' ?_ (by simpa using hnil)
      intro l hl
      obtain ⟨value, hvalue, rfl⟩ := List.mem_map.mp hl
      exact (h value hvalue).comma_notMem
    simp only [String.toList_ofList, hsplit, List.map_map]
    exact hpieces values h

/-! ### Generated names -/

theorem toList_ownedName (index : ℕ) (suffix : String) : (ownedName index suffix).toList =
    "transform_".toList ++ (Nat.toDigits 10 index ++ '_' :: suffix.toList) := by
  have hindex : (toString index).toList = Nat.toDigits 10 index := by
    rw [Nat.toString_eq_repr, Nat.toList_repr]
  have hname : ownedName index suffix = "transform_" ++ toString index ++ "_" ++ suffix := rfl
  rw [hname, String.toList_append, String.toList_append, String.toList_append, hindex, List.append_assoc,
    List.append_assoc]
  rfl

/-- The digits end at the first separator, so no two rules share a name. -/
theorem ownedName_inj {i j : ℕ} {s t : String} (h : ownedName i s = ownedName j t) : i = j ∧ s = t := by
  have hlist := congrArg String.toList h
  rw [toList_ownedName, toList_ownedName] at hlist
  have hrest := List.append_cancel_left hlist
  have hsplit := congrArg (Text.splitOnce '_') hrest
  rw [Text.splitOnce_append Nat.underscore_not_in_toDigits,
    Text.splitOnce_append Nat.underscore_not_in_toDigits] at hsplit
  obtain ⟨hdigits, hsuffix⟩ := Prod.mk.inj (Option.some.inj hsplit)
  refine ⟨?_, String.toList_inj.mp hsuffix⟩
  have hvalue := congrArg (fun digits => Nat.ofDigitChars 10 digits 0) hdigits
  rwa [Nat.ofDigitChars_ten_toDigits, Nat.ofDigitChars_ten_toDigits] at hvalue

theorem ownedName_ne_transformCount (index : ℕ) (suffix : String) :
    ownedName index suffix ≠ "transform_count" := by
  intro h
  have hlist := congrArg String.toList h
  rw [toList_ownedName] at hlist
  have hlist : "transform_".toList ++ (Nat.toDigits 10 index ++ '_' :: suffix.toList) =
      "transform_".toList ++ "count".toList := hlist
  have hrest := List.append_cancel_left hlist
  have hmem : '_' ∈ "count".toList :=
    hrest ▸ List.mem_append_right _ List.mem_cons_self
  exact absurd hmem (by decide)

theorem ownedName_ne_of_head (index : ℕ) (suffix : String) {name : String}
    (h : name.toList.head? ≠ some 't') : ownedName index suffix ≠ name := by
  rintro rfl
  rw [toList_ownedName] at h
  exact h rfl

/-! ### The form of the rules -/

theorem mem_transformEditors {start : ℕ} {rules : List TransformRuleFile} {c : FormControl} :
    c ∈ transformEditors start rules ↔
      ∃ (i : ℕ) (rule : TransformRuleFile), rules[i]? = some rule ∧ c ∈ transformEditor (start + i) rule := by
  induction rules generalizing start with
  | nil =>
    constructor
    · intro h
      exact absurd h List.not_mem_nil
    · rintro ⟨i, rule, hrule, -⟩
      cases hrule
  | cons rule rules ih =>
    unfold transformEditors
    rw [List.mem_append, ih]
    constructor
    · rintro (h | ⟨i, r, hr, h⟩)
      · exact ⟨0, rule, rfl, h⟩
      · refine ⟨i + 1, r, hr, ?_⟩
        rwa [← Nat.add_assoc, Nat.add_right_comm]
    · rintro ⟨i, r, hr, h⟩
      cases i with
      | zero =>
        obtain rfl := Option.some.inj hr
        exact .inl h
      | succ i =>
        refine .inr ⟨i, r, hr, ?_⟩
        rwa [Nat.add_right_comm, Nat.add_assoc]

/-- What a control of an editor is. -/
theorem mem_transformEditor {index : ℕ} {rule : TransformRuleFile} {c : FormControl}
    (h : c ∈ transformEditor index rule) :
    (∃ value, c = .button "editor_action" value) ∨ c = .input "editor_index" (toString index) ∨
    ∃ field : RuleField, c = field.control index rule := by
  unfold transformEditor at h
  rcases List.mem_append.mp h with h | h
  · obtain ⟨b, -, rfl⟩ := List.mem_map.mp h
    exact .inl ⟨b.value, rfl⟩
  · rcases List.mem_cons.mp h with rfl | h
    · exact .inr (.inl rfl)
    · obtain ⟨field, -, rfl⟩ := List.mem_map.mp h
      exact .inr (.inr ⟨field, rfl⟩)

/-- What a control of the form is. -/
theorem mem_transformsForm {rules : List TransformRuleFile} {c : FormControl} (h : c ∈ transformsForm rules) :
    (∃ value, c = .button "editor_action" value) ∨
    c = .input "transform_count" (toString rules.length) ∨
    (∃ index, c = .input "editor_index" (toString (index : ℕ))) ∨
    ∃ (i : ℕ) (rule : TransformRuleFile) (field : RuleField),
      rules[i]? = some rule ∧ c = field.control i rule := by
  unfold transformsForm at h
  rcases List.mem_append.mp h with h | h
  · simp only [transformsHead, List.mem_cons, List.not_mem_nil, or_false] at h
    rcases h with rfl | rfl | rfl
    · exact .inl ⟨_, rfl⟩
    · exact .inl ⟨_, rfl⟩
    · exact .inr (.inl rfl)
  · obtain ⟨i, rule, hrule, h⟩ := mem_transformEditors.mp h
    rw [Nat.zero_add] at h
    rcases mem_transformEditor h with h | h | ⟨field, h⟩
    · exact .inl h
    · exact .inr (.inr (.inl ⟨i, h⟩))
    · exact .inr (.inr (.inr ⟨i, rule, field, hrule, h⟩))

theorem control_mem_transformsForm {rules : List TransformRuleFile} {i : ℕ} {rule : TransformRuleFile}
    (hrule : rules[i]? = some rule) (field : RuleField) : field.control i rule ∈ transformsForm rules := by
  refine List.mem_append_right _ (mem_transformEditors.mpr ⟨i, rule, hrule, ?_⟩)
  rw [Nat.zero_add]
  exact List.mem_append_right _ (List.mem_cons_of_mem _ (List.mem_map_of_mem field.mem_all))

/-- Each field of each rule is read back as it is submitted. -/
theorem get_transformsForm {rules : List TransformRuleFile} {i : ℕ} {rule : TransformRuleFile}
    (hrule : rules[i]? = some rule) (field : RuleField) (clicked : ℕ) :
    (submitForm (transformsForm rules) clicked).get (ownedName i field.suffix) =
      (field.control i rule).submitted false := by
  rw [← field.control_name i rule]
  refine get_submitForm (control_mem_transformsForm hrule field) (field.control_isButton i rule) ?_ clicked
  intro d hd hname
  rw [field.control_name] at hname
  rcases mem_transformsForm hd with ⟨value, rfl⟩ | rfl | ⟨index, rfl⟩ | ⟨j, r, other, hr, rfl⟩
  · exact absurd (show _ = "editor_action" from hname.symm) (ownedName_ne_of_head i _ (by decide))
  · exact absurd hname.symm (ownedName_ne_transformCount i _)
  · exact absurd (show _ = "editor_index" from hname.symm) (ownedName_ne_of_head i _ (by decide))
  · rw [other.control_name] at hname
    obtain ⟨rfl, hsuffix⟩ := ownedName_inj hname
    obtain rfl := RuleField.suffix_injective hsuffix
    obtain rfl := Option.some.inj (hrule.symm.trans hr)
    rfl

theorem get_transformCount (rules : List TransformRuleFile) (clicked : ℕ) :
    (submitForm (transformsForm rules) clicked).get "transform_count" = some (toString rules.length) := by
  refine get_submitForm (c := .input "transform_count" (toString rules.length)) ?_ rfl ?_ clicked
  · refine List.mem_append_left _ ?_
    simp [transformsHead]
  · intro d hd hname
    have hname : d.name = "transform_count" := hname
    rcases mem_transformsForm hd with ⟨value, rfl⟩ | h | ⟨index, rfl⟩ | ⟨i, rule, field, -, rfl⟩
    · exact absurd (show "editor_action" = "transform_count" from hname) (by decide)
    · exact h
    · exact absurd (show "editor_index" = "transform_count" from hname) (by decide)
    · rw [field.control_name] at hname
      exact absurd hname (ownedName_ne_transformCount i _)

/-- The vector of the rules fits the memory, as every vector does. -/
def FitsVec (rules : List TransformRuleFile) : Prop := ruleBytes * rules.length < 2 ^ 63

theorem ruleFromForm_transformsForm {rules : List TransformRuleFile} {i : ℕ} {rule : TransformRuleFile}
    (hrule : rules[i]? = some rule) (clicked : ℕ) :
    ruleFromForm (submitForm (transformsForm rules) clicked) i = rule := by
  have hget := fun field => get_transformsForm hrule field clicked
  have htype := hget .matcherType
  have hpattern := hget .matcherPattern
  have hfrom := hget .actionFrom
  have hto := hget .actionTo
  have htarget := hget .targetType
  have hname := hget .targetName
  have hstop := hget .stop
  unfold RuleField.suffix at *
  dsimp only at *
  obtain ⟨matcher, action, target, stop⟩ := rule
  unfold ruleFromForm
  congr 1
  · unfold matcherFromForm textValueOwned
    rw [htype, hpattern]
    cases matcher <;> rfl
  · unfold textValueOwned
    rw [hfrom, hto]
    cases action
    rfl
  · unfold targetFromForm textValueOwned
    rw [htarget, hname]
    cases target <;> rfl
  · unfold FormValues.containsKey
    rw [hstop]
    cases stop <;> rfl

/-- A list of rules is read back from its form, whatever button is clicked. -/
theorem transformsFromForm_transformsForm {rules : List TransformRuleFile} (hfits : FitsVec rules)
    (fallback : List TransformRuleFile) (clicked : ℕ) :
    transformsFromForm (submitForm (transformsForm rules) clicked) fallback = .ok rules := by
  have hfits' : 112 * rules.length < 2 ^ 63 := hfits
  have hcount : usizeValue (submitForm (transformsForm rules) clicked) "transform_count" fallback.length =
      rules.length := by
    unfold usizeValue u64Value
    rw [get_transformCount, Option.bind_some, parseU64_toString (by omega)]
    rfl
  unfold transformsFromForm
  have hvec : vecWithCapacity ruleBytes rules.length = .ok () := if_pos hfits
  have hrules : (List.range rules.length).map (ruleFromForm (submitForm (transformsForm rules) clicked)) =
      rules := by
    refine List.ext_getElem? fun i => ?_
    rw [List.getElem?_map]
    by_cases hi : i < rules.length
    · rw [List.getElem?_range hi, List.getElem?_eq_getElem hi, Option.map_some]
      exact congrArg some (ruleFromForm_transformsForm (List.getElem?_eq_getElem hi) clicked)
    · have hi : rules.length ≤ i := Nat.le_of_not_lt hi
      rw [List.getElem?_eq_none hi, List.getElem?_eq_none (by rw [List.length_range]; exact hi),
        Option.map_none]
  simp only [hcount, hvec]
  exact congrArg Except.ok hrules

/-! ### The form of the settings -/

section Settings

variable {runtime : RuntimeSettingsFile} {clicked : ℕ}

theorem nodup_runtimeConfigForm (runtime : RuntimeSettingsFile) :
    ((runtimeConfigForm runtime).map FormControl.name).Nodup := by
  unfold runtimeConfigForm
  simp [FormControl.name]

theorem get_runtimeConfigForm {c : FormControl} (hc : c ∈ runtimeConfigForm runtime)
    (hbutton : c.isButton = false) :
    (submitForm (runtimeConfigForm runtime) clicked).get c.name = c.submitted false := by
  refine get_submitForm hc hbutton (fun d hd hname => ?_) clicked
  exact List.inj_on_of_nodup_map (nodup_runtimeConfigForm runtime) hd hc hname

theorem get_input {key value : String} (h : .input key value ∈ runtimeConfigForm runtime) :
    (submitForm (runtimeConfigForm runtime) clicked).get key = some value :=
  get_runtimeConfigForm h rfl

theorem textValue_input {key value : String} (h : .input key value ∈ runtimeConfigForm runtime) :
    textValue (submitForm (runtimeConfigForm runtime) clicked) key value = value := by
  rw [textValue, get_input h, Option.getD_some]

/-- A blank path is left to the fallback, which is the same path. -/
theorem pathValue_input {key value : String} (h : .input key value ∈ runtimeConfigForm runtime) :
    pathValue (submitForm (runtimeConfigForm runtime) clicked) key value = value := by
  rw [pathValue, get_input h]
  exact ite_self value

/-- A blank text is read as an absent one. -/
theorem optionalTextValue_input {key : String} {value : Option String}
    (h : .input key (value.getD "") ∈ runtimeConfigForm runtime) :
    optionalTextValue (submitForm (runtimeConfigForm runtime) clicked) key value =
      value.filter fun text => !isBlank text := by
  rw [optionalTextValue, get_input h]
  cases value with
  | none => rfl
  | some text =>
    show (if isBlank text then none else some text) = _
    by_cases htext : isBlank text = true
    · simp [htext, Option.filter]
    · simp [htext, Option.filter]

theorem u64Value_input {key : String} {value : ℕ}
    (h : .input key (toString value) ∈ runtimeConfigForm runtime)
    (hvalue : value < 2 ^ 64) (fallback : ℕ) :
    u64Value (submitForm (runtimeConfigForm runtime) clicked) key fallback = value := by
  rw [u64Value, get_input h, Option.bind_some, parseU64_toString hvalue, Option.getD_some]

theorem containsKey_checkbox {key : String} {checked : Bool}
    (h : .checkbox key "true" checked ∈ runtimeConfigForm runtime) :
    (submitForm (runtimeConfigForm runtime) clicked).containsKey key = checked := by
  have hget : (submitForm (runtimeConfigForm runtime) clicked).get _ = _ := get_runtimeConfigForm h rfl
  unfold FormValues.containsKey
  cases checked with
  | true => exact congrArg Option.isSome hget
  | false => exact congrArg Option.isSome hget

theorem commaList_input {key : String} {values : List String}
    (h : .input key (joinComma values) ∈ runtimeConfigForm runtime)
    (hvalues : ∀ value ∈ values, IsFieldName value) (fallback : List String) :
    commaList ((submitForm (runtimeConfigForm runtime) clicked).get key) fallback = values := by
  rw [get_input h, commaList_joinComma hvalues]

theorem httpModeFromForm_select (fallback : HttpMode) :
    httpModeFromForm ((submitForm (runtimeConfigForm runtime) clicked).get "http_mode") fallback =
      runtime.httpMode := by
  have hmem : .select "http_mode" (httpModeValue runtime.httpMode) httpModeOptions ∈
      runtimeConfigForm runtime := by
    simp [runtimeConfigForm]
  have hget : (submitForm (runtimeConfigForm runtime) clicked).get _ = _ := get_runtimeConfigForm hmem rfl
  have hname : FormControl.name (.select "http_mode" (httpModeValue runtime.httpMode) httpModeOptions) =
      "http_mode" := rfl
  rw [hname] at hget
  rw [hget]
  cases runtime.httpMode <;> rfl

theorem runtimeFromForm_runtimeConfigForm (hrange : runtime.InRange)
    (hallow : ∀ value ∈ runtime.headerAllowlist, IsFieldName value)
    (hdeny : ∀ value ∈ runtime.headerDenylist, IsFieldName value) (clicked : ℕ) :
    runtimeFromForm (submitForm (runtimeConfigForm runtime) clicked) runtime =
      { runtime with
        caBundlePath := runtime.caBundlePath.filter fun path => !isBlank path
        upstreamSniOverride := runtime.upstreamSniOverride.filter fun name => !isBlank name } := by
  unfold runtimeFromForm usizeValue optionalPathValue
  rw [textValue_input (by simp [runtimeConfigForm]), textValue_input (by simp [runtimeConfigForm]),
    textValue_input (by simp [runtimeConfigForm]), pathValue_input (by simp [runtimeConfigForm]),
    pathValue_input (by simp [runtimeConfigForm]), pathValue_input (by simp [runtimeConfigForm]),
    optionalTextValue_input (by simp [runtimeConfigForm, optionalPath]),
    optionalTextValue_input (by simp [runtimeConfigForm]), httpModeFromForm_select,
    u64Value_input (by simp [runtimeConfigForm]) hrange.flushRows,
    u64Value_input (by simp [runtimeConfigForm]) hrange.flushIntervalMs,
    u64Value_input (by simp [runtimeConfigForm]) hrange.maxInflightEvents,
    u64Value_input (by simp [runtimeConfigForm]) hrange.bodyMaxBytes,
    u64Value_input (by simp [runtimeConfigForm]) hrange.connectTimeoutMs,
    u64Value_input (by simp [runtimeConfigForm]) hrange.requestTimeoutMs,
    u64Value_input (by simp [runtimeConfigForm]) hrange.idlePoolTimeoutMs,
    u64Value_input (by simp [runtimeConfigForm]) hrange.gracefulShutdownTimeoutMs,
    containsKey_checkbox (by simp [runtimeConfigForm]; rfl),
    containsKey_checkbox (by simp [runtimeConfigForm]; rfl),
    commaList_input (by simp [runtimeConfigForm]) hallow, commaList_input (by simp [runtimeConfigForm]) hdeny]

end Settings

/-! ### Both forms -/

/-- A blank domain is refused. -/
theorem isBlank_of_normalizeDomain [Net] {value domain : String} (h : normalizeDomain value = .ok domain) :
    isBlank value = false := by
  by_contra hblank
  have hempty : Text.trim value.toList = [] := List.isEmpty_iff.mp (Bool.eq_true_of_not_eq_false hblank)
  have hrefused : normalizeDomain value = .error (.msg "domain must not be empty") := by
    unfold normalizeDomain
    rw [hempty]
    rfl
  rw [hrefused] at h
  cases h

/-- What is submitted unedited is what was rendered, a blank bundle path excepted: that is read as an
absent one. -/
theorem resubmitted_unchanged [Net] [Glob] (fs : Fs) (config : AppConfigFile) (cfg : RuntimeConfig)
    (haccepted : config.toRuntimeConfig fs = .ok cfg) (hrange : config.runtime.InRange)
    (hallow : ∀ value ∈ config.runtime.headerAllowlist, IsFieldName value)
    (hdeny : ∀ value ∈ config.runtime.headerDenylist, IsFieldName value) :
    (∀ clicked, runtimeFromForm (submitForm (runtimeConfigForm config.runtime) clicked) config.runtime =
      { config.runtime with
        caBundlePath := config.runtime.caBundlePath.filter fun path => !isBlank path }) ∧
    ∀ rules fallback clicked, FitsVec rules →
      transformsFromForm (submitForm (transformsForm rules) clicked) fallback = .ok rules := by
  refine ⟨fun clicked => ?_, fun rules fallback clicked hfits =>
    transformsFromForm_transformsForm hfits fallback clicked⟩
  have hsni : (config.runtime.upstreamSniOverride.filter fun name => !isBlank name) =
      config.runtime.upstreamSniOverride := by
    cases hover : config.runtime.upstreamSniOverride with
    | none => rfl
    | some value =>
      have hvalue := (RuntimeSettingsFile.acceptedAs cfg haccepted).sni value hover
      simp [Option.filter, isBlank_of_normalizeDomain hvalue]
  rw [runtimeFromForm_runtimeConfigForm hrange hallow hdeny, hsni]

/-- The default file with a bundle whose name is a blank. -/
def blankBundle : AppConfigFile := ⟨{ RuntimeSettingsFile.default with caBundlePath := some " " }, []⟩

theorem blank_bundle_path_dropped :
    (∃ cfg, @AppConfigFile.toRuntimeConfig sampleNet sampleGlob sampleFs blankBundle = .ok cfg) ∧
    runtimeFromForm (submitForm (runtimeConfigForm blankBundle.runtime) 0) blankBundle.runtime ≠
      blankBundle.runtime := by
  refine ⟨⟨{ sampleConfig with caBundlePath := some " " }, rfl⟩, ?_⟩
  intro h
  have hpath := congrArg RuntimeSettingsFile.caBundlePath h
  revert hpath
  decide

/-- Three rules of all kinds of matchers. -/
def sampleRules : List TransformRuleFile :=
  [⟨.urlGlob "/a*", .replace "a, b" "", .header "X-Name", true⟩, blankTransform,
   ⟨.contentTypeGlob "text/*", .replace "<" "&lt;", .cookies, false⟩]

/-- The default file with two header names. -/
def sampleHeaders : RuntimeSettingsFile :=
  { RuntimeSettingsFile.default with headerAllowlist := ["content-type", "X-Trace"] }

theorem resubmitted_unchanged_sample :
    runtimeFromForm (submitForm (runtimeConfigForm sampleHeaders) 0) sampleHeaders = sampleHeaders ∧
    transformsFromForm (submitForm (transformsForm sampleRules) 3) [] = .ok sampleRules := by
  have haccepted : @AppConfigFile.toRuntimeConfig sampleNet sampleGlob sampleFs ⟨sampleHeaders, []⟩ =
      .ok { sampleConfig with headerLogPolicy := ⟨["content-type", "x-trace"], []⟩ } := rfl
  have hall := @resubmitted_unchanged sampleNet sampleGlob sampleFs ⟨sampleHeaders, []⟩ _ haccepted
    (by constructor <;> decide) (by decide) nofun
  have hfits : FitsVec sampleRules := by
    show ruleBytes * 3 < 2 ^ 63
    decide
  exact ⟨hall.1 0, hall.2 sampleRules [] 3 hfits⟩

end KidProxy
