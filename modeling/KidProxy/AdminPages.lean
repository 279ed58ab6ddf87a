import KidProxy.AdminForm

/-!
# AdminPages — the forms as they are rendered, and what a browser submits of them

A form is the list of its controls in document order.  A browser submits the values of its inputs, the
checked boxes, the selected options and the button that was clicked.
-/

namespace KidProxy

/-! ### Controls -/

/-- A named control; `input` is a text, number or hidden one. -/
inductive FormControl
  | input (name value : String)
  | checkbox (name value : String) (checked : Bool)
  | select (name value : String) (options : List String)
  | button (name value : String)
  deriving DecidableEq, Repr

namespace FormControl

def name : FormControl → String
  | input name _ | checkbox name _ _ | select name _ _ | button name _ => name

/-- The value that is submitted for the control, if any.  Where no option is selected, the first one
is. -/
def submitted (clicked : Bool) : FormControl → Option String
  | input _ value => some value
  | checkbox _ value checked => if checked then some value else none
  | select _ value options => if options.contains value then some value else options.head?
  | button _ value => if clicked then some value else none

def isButton : FormControl → Bool
  | button _ _ => true
  | input _ _ | checkbox _ _ _ | select _ _ _ => false

theorem submitted_of_not_button {c : FormControl} (h : c.isButton = false) (clicked : Bool) :
    c.submitted clicked = c.submitted false := by
  cases c with
  | button name value => cases h
  | _ => rfl

end FormControl

/-- What is submitted of the controls when the one at position `clicked` is clicked; the first of them is
at position `start`. -/
def submittedFrom (start clicked : ℕ) (controls : List FormControl) : List (String × String) :=
  (controls.zipIdx start).filterMap fun p =>
    (p.1.submitted (p.2 = clicked)).map fun value => (p.1.name, value)

def submitForm (controls : List FormControl) (clicked : ℕ) : FormValues := ⟨submittedFrom 0 clicked controls⟩

/-! ### The two forms -/

/-- `http_mode_value`. -/
def httpModeValue : HttpMode → String
  | .auto => "auto"
  | .http1 => "http1"
  | .http2 => "http2"

def httpModeOptions : List String := ["auto", "http1", "http2"]

/-- `optional_path`. -/
def optionalPath (value : Option String) : String := value.getD ""

/-- `join(",")`. -/
def joinComma (values : List String) : String :=
  String.ofList ([','].intercalate (values.map String.toList))

/-- The form of `RuntimeConfigPage`. -/
def runtimeConfigForm (runtime : RuntimeSettingsFile) : List FormControl :=
  [.button "editor_action" "save",
   .input "listen_addr" runtime.listenAddr,
   .input "frontend_domain" runtime.frontendDomain,
   .input "backend_url" runtime.backendUrl,
   .input "sqlite_path" runtime.sqlitePath,
   .input "tls_cert_path" runtime.tlsCertPath,
   .input "tls_key_path" runtime.tlsKeyPath,
   .input "ca_bundle_path" (optionalPath runtime.caBundlePath),
   .input "upstream_sni_override" (runtime.upstreamSniOverride.getD ""),
   .select "http_mode" (httpModeValue runtime.httpMode) httpModeOptions,
   .input "flush_rows" (toString runtime.flushRows),
   .input "flush_interval_ms" (toString runtime.flushIntervalMs),
   .input "max_inflight_events" (toString runtime.maxInflightEvents),
   .input "body_max_bytes" (toString runtime.bodyMaxBytes),
   .input "connect_timeout_ms" (toString runtime.connectTimeoutMs),
   .input "request_timeout_ms" (toString runtime.requestTimeoutMs),
   .input "idle_pool_timeout_ms" (toString runtime.idlePoolTimeoutMs),
   .input "graceful_shutdown_timeout_ms" (toString runtime.gracefulShutdownTimeoutMs),
   .input "header_allowlist" (joinComma runtime.headerAllowlist),
   .input "header_denylist" (joinComma runtime.headerDenylist),
   .checkbox "trust_proxy_headers" "true" runtime.trustProxyHeaders,
   .checkbox "emit_keylog" "true" runtime.emitKeylog]

def matcherTypeValue : TransformMatcherFile → String
  | .urlGlob _ => "url_glob"
  | .contentTypeGlob _ => "content_type_glob"
  | .everything => "any"

def matcherPatternValue : TransformMatcherFile → String
  | .urlGlob pattern | .contentTypeGlob pattern => pattern
  | .everything => ""

def actionValues : TransformActionFile → String × String
  | .replace fromText toText => (fromText, toText)

def targetTypeValue : TransformTargetFile → String
  | .everything => "any"
  | .body => "body"
  | .allHeaders => "all_headers"
  | .header _ => "header"
  | .cookies => "cookies"

def targetNameValue : TransformTargetFile → String
  | .header name => name
  | _ => ""

def matcherOptions : List String := ["any", "url_glob", "content_type_glob"]

def targetOptions : List String := ["body", "any", "all_headers", "header", "cookies"]

/-- The fields of one rule in `TransformEditor`. -/
inductive RuleField
  | present
  | matcherType
  | matcherPattern
  | actionFrom
  | actionTo
  | targetType
  | targetName
  | stop
  deriving DecidableEq, Repr

namespace RuleField

def suffix : RuleField → String
  | present => "present"
  | matcherType => "matcher_type"
  | matcherPattern => "matcher_pattern"
  | actionFrom => "action_from"
  | actionTo => "action_to"
  | targetType => "target_type"
  | targetName => "target_name"
  | stop => "stop"

/-- The control of the field. -/
def control (index : ℕ) (rule : TransformRuleFile) (field : RuleField) : FormControl :=
  let name := ownedName index field.suffix
  match field with
  | present => .input name "true"
  | matcherType => .select name (matcherTypeValue rule.matcher) matcherOptions
  | matcherPattern => .input name (matcherPatternValue rule.matcher)
  | actionFrom => .input name (actionValues rule.action).1
  | actionTo => .input name (actionValues rule.action).2
  | targetType => .select name (targetTypeValue rule.target) targetOptions
  | targetName => .input name (targetNameValue rule.target)
  | stop => .checkbox name "true" rule.stop

/-- In document order. -/
def all : List RuleField :=
  [present, matcherType, matcherPattern, actionFrom, actionTo, targetType, targetName, stop]

theorem mem_all (field : RuleField) : field ∈ all := by
  cases field <;> decide

theorem suffix_injective : Function.Injective suffix := by
  intro a b h
  cases a <;> cases b <;> first | rfl | exact absurd h (by decide)

theorem control_name (index : ℕ) (rule : TransformRuleFile) (field : RuleField) :
    (field.control index rule).name = ownedName index field.suffix := by
  cases field <;> rfl

theorem control_isButton (index : ℕ) (rule : TransformRuleFile) (field : RuleField) :
    (field.control index rule).isButton = false := by
  cases field <;> rfl

end RuleField

/-- The buttons of a rule. -/
inductive EditorButton
  | up
  | down
  | remove
  deriving DecidableEq, Repr

namespace EditorButton

def value : EditorButton → String
  | up => "move_transform_up"
  | down => "move_transform_down"
  | remove => "remove_transform"

/-- In document order. -/
def all : List EditorButton := [up, down, remove]

end EditorButton

/-- The controls of `TransformEditor`. -/
def transformEditor (index : ℕ) (rule : TransformRuleFile) : List FormControl :=
  EditorButton.all.map (fun b => .button "editor_action" b.value) ++
    .input "editor_index" (toString index) :: RuleField.all.map (RuleField.control index rule)

/-- The controls of the editors of the rules, of which the first has the given index. -/
def transformEditors : ℕ → List TransformRuleFile → List FormControl
  | _, [] => []
  | index, rule :: rules => transformEditor index rule ++ transformEditors (index + 1) rules

/-- The controls of `TransformsPage` before its rules. -/
def transformsHead (rules : List TransformRuleFile) : List FormControl :=
  [.button "editor_action" "add_transform", .button "editor_action" "save",
   .input "transform_count" (toString rules.length)]

/-- The form of `TransformsPage`. -/
def transformsForm (rules : List TransformRuleFile) : List FormControl :=
  transformsHead rules ++ transformEditors 0 rules

/-! ### What is read back -/

section Lookup

variable {values : FormValues} {key value : String}

/-- Where all fields of a name have one value, that is what is read. -/
theorem FormValues.get_eq_some (hall : ∀ p ∈ values.fields, p.1 = key → p.2 = value)
    (hthere : ∃ p ∈ values.fields, p.1 = key) : values.get key = some value := by
  have hlookup : ∀ l : List (String × String), (∀ p ∈ l, p.1 = key → p.2 = value) →
      (∃ p ∈ l, p.1 = key) → l.lookup key = some value := by
    intro l
    induction l with
    | nil => rintro - ⟨p, hp, -⟩; exact absurd hp List.not_mem_nil
    | cons p l ih =>
      intro hall hthere
      by_cases hp : key = p.1
      · rw [List.lookup_cons, beq_iff_eq.mpr hp, hall p List.mem_cons_self hp.symm]
      · rw [List.lookup_cons, beq_false_of_ne hp]
        obtain ⟨q, hq, hkey⟩ := hthere
        rcases List.mem_cons.mp hq with rfl | hq
        · exact absurd hkey.symm hp
        · exact ih (fun r hr => hall r (List.mem_cons_of_mem _ hr)) ⟨q, hq, hkey⟩
  refine hlookup values.fields.reverse (fun p hp => hall p (List.mem_reverse.mp hp)) ?_
  obtain ⟨p, hp, hkey⟩ := hthere
  exact ⟨p, List.mem_reverse.mpr hp, hkey⟩

theorem FormValues.get_eq_none (h : ∀ p ∈ values.fields, p.1 ≠ key) : values.get key = none := by
  refine List.lookup_eq_none_iff.mpr fun p hp => ?_
  simpa using fun heq => h p (List.mem_reverse.mp hp) heq.symm

/-- The last fields decide. -/
theorem FormValues.get_append (before after : List (String × String)) :
    FormValues.get ⟨before ++ after⟩ key =
      (FormValues.get ⟨after⟩ key).or (FormValues.get ⟨before⟩ key) := by
  unfold FormValues.get
  rw [List.reverse_append, List.lookup_append]

end Lookup

theorem mem_submittedFrom {start clicked : ℕ} {controls : List FormControl} {p : String × String} :
    p ∈ submittedFrom start clicked controls ↔ ∃ (i : ℕ) (c : FormControl),
      controls[i]? = some c ∧ c.name = p.1 ∧ c.submitted (start + i = clicked) = some p.2 := by
  unfold submittedFrom
  rw [List.mem_filterMap]
  constructor
  · rintro ⟨⟨c, j⟩, hmem, hp⟩
    obtain ⟨value, hvalue, rfl⟩ := Option.map_eq_some_iff.mp hp
    obtain ⟨hle, hc⟩ := List.mk_mem_zipIdx_iff_le_and_getElem?_sub.mp hmem
    refine ⟨j - start, c, hc, rfl, ?_⟩
    rwa [Nat.add_sub_cancel' hle]
  · rintro ⟨i, c, hc, hname, hvalue⟩
    refine ⟨(c, start + i), List.mk_mem_zipIdx_iff_le_and_getElem?_sub.mpr ⟨Nat.le_add_right _ _, ?_⟩, ?_⟩
    · rwa [Nat.add_sub_cancel_left]
    · exact Option.map_eq_some_iff.mpr ⟨p.2, hvalue, Prod.ext hname rfl⟩

theorem submittedFrom_append (start clicked : ℕ) (before after : List FormControl) :
    submittedFrom start clicked (before ++ after) =
      submittedFrom start clicked before ++ submittedFrom (start + before.length) clicked after := by
  unfold submittedFrom
  rw [List.zipIdx_append, List.filterMap_append]

theorem mem_submitForm {controls : List FormControl} {clicked : ℕ} {p : String × String} :
    p ∈ (submitForm controls clicked).fields ↔ ∃ (i : ℕ) (c : FormControl),
      controls[i]? = some c ∧ c.name = p.1 ∧ c.submitted (i = clicked) = some p.2 := by
  show p ∈ submittedFrom 0 clicked controls ↔ _
  rw [mem_submittedFrom]
  simp only [Nat.zero_add]

/-- A control that shares its name with no other one is read back as it is submitted. -/
theorem get_submitForm {controls : List FormControl} {c : FormControl} (hc : c ∈ controls)
    (hbutton : c.isButton = false) (hunique : ∀ d ∈ controls, d.name = c.name → d = c) (clicked : ℕ) :
    (submitForm controls clicked).get c.name = c.submitted false := by
  have hfrom : ∀ p ∈ (submitForm controls clicked).fields, p.1 = c.name → c.submitted false = some p.2 := by
    intro p hp hname
    obtain ⟨i, d, hd, hdname, hvalue⟩ := mem_submitForm.mp hp
    obtain rfl := hunique d (List.mem_of_getElem? hd) (hdname.trans hname)
    rwa [FormControl.submitted_of_not_button hbutton] at hvalue
  cases hvalue : c.submitted false with
  | none =>
    refine FormValues.get_eq_none fun p hp hname => ?_
    rw [hfrom p hp hname] at hvalue
    cases hvalue
  | some value =>
    refine FormValues.get_eq_some (fun p hp hname => ?_) ?_
    · rw [hfrom p hp hname] at hvalue
      exact Option.some.inj hvalue
    · obtain ⟨i, hi⟩ := List.mem_iff_getElem?.mp hc
      refine ⟨(c.name, value), mem_submitForm.mpr ⟨i, c, hi, rfl, ?_⟩, rfl⟩
      rw [FormControl.submitted_of_not_button hbutton]
      exact hvalue

end KidProxy
