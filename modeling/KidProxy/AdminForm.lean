import KidProxy.ManagerCalls

/-!
# AdminForm — the forms of the two editor pages

`/config` edits the runtime settings, `/transforms` the list of rules.  Each handler reads the snapshot,
builds a whole config from it and from the form, and saves that.
-/

namespace KidProxy

/-! ### Fields -/

/-- The fields of a form as they were submitted. -/
structure FormValues where
  fields : List (String × String)
  deriving DecidableEq, Repr

namespace FormValues

/-- `Form<HashMap<String, String>>` keeps the last value of a name. -/
def get (values : FormValues) (key : String) : Option String := values.fields.reverse.lookup key

def containsKey (values : FormValues) (key : String) : Bool := (values.get key).isSome

end FormValues

/-- `str::parse` at `u64`, and at `usize` on a 64-bit target. -/
def parseU64 (value : String) : Option ℕ :=
  let digits := match value.toList with
    | '+' :: digits => digits
    | digits => digits
  if digits.isEmpty || !digits.all Char.isDigit then none
  else
    let n := digits.foldl (fun n c => 10 * n + (c.toNat - '0'.toNat)) 0
    if n < 2 ^ 64 then some n else none

def isBlank (value : String) : Bool := (Text.trim value.toList).isEmpty

def textValue (values : FormValues) (key fallback : String) : String := (values.get key).getD fallback

def textValueOwned (values : FormValues) (key : String) : String := (values.get key).getD ""

def optionalTextValue (values : FormValues) (key : String) (fallback : Option String) :
    Option String :=
  match values.get key with
  | some value => if isBlank value then none else some value
  | none => fallback

def pathValue (values : FormValues) (key fallback : String) : String :=
  match values.get key with
  | some value => if isBlank value then fallback else value
  | none => fallback

def optionalPathValue (values : FormValues) (key : String) (fallback : Option String) :
    Option String := optionalTextValue values key fallback

def u64Value (values : FormValues) (key : String) (fallback : ℕ) : ℕ :=
  ((values.get key).bind parseU64).getD fallback

def usizeValue (values : FormValues) (key : String) (fallback : ℕ) : ℕ := u64Value values key fallback

def commaList (value : Option String) (fallback : List String) : List String :=
  match value with
  | some raw =>
    ((raw.toList.splitOn ',').map fun piece => String.ofList (Text.trim piece)).filter
      fun value => !value.isEmpty
  | none => fallback

def httpModeFromForm (value : Option String) (fallback : HttpMode) : HttpMode :=
  match value with
  | some "http1" => .http1
  | some "http2" => .http2
  | some "auto" => .auto
  | _ => fallback

def runtimeFromForm (values : FormValues) (fallback : RuntimeSettingsFile) : RuntimeSettingsFile where
  listenAddr := textValue values "listen_addr" fallback.listenAddr
  frontendDomain := textValue values "frontend_domain" fallback.frontendDomain
  backendUrl := textValue values "backend_url" fallback.backendUrl
  tlsCertPath := pathValue values "tls_cert_path" fallback.tlsCertPath
  tlsKeyPath := pathValue values "tls_key_path" fallback.tlsKeyPath
  sqlitePath := pathValue values "sqlite_path" fallback.sqlitePath
  caBundlePath := optionalPathValue values "ca_bundle_path" fallback.caBundlePath
  upstreamSniOverride :=
    optionalTextValue values "upstream_sni_override" fallback.upstreamSniOverride
  httpMode := httpModeFromForm (values.get "http_mode") fallback.httpMode
  flushRows := usizeValue values "flush_rows" fallback.flushRows
  flushIntervalMs := u64Value values "flush_interval_ms" fallback.flushIntervalMs
  maxInflightEvents := usizeValue values "max_inflight_events" fallback.maxInflightEvents
  bodyMaxBytes := usizeValue values "body_max_bytes" fallback.bodyMaxBytes
  connectTimeoutMs := u64Value values "connect_timeout_ms" fallback.connectTimeoutMs
  requestTimeoutMs := u64Value values "request_timeout_ms" fallback.requestTimeoutMs
  idlePoolTimeoutMs := u64Value values "idle_pool_timeout_ms" fallback.idlePoolTimeoutMs
  gracefulShutdownTimeoutMs :=
    u64Value values "graceful_shutdown_timeout_ms" fallback.gracefulShutdownTimeoutMs
  trustProxyHeaders := values.containsKey "trust_proxy_headers"
  emitKeylog := values.containsKey "emit_keylog"
  headerAllowlist := commaList (values.get "header_allowlist") fallback.headerAllowlist
  headerDenylist := commaList (values.get "header_denylist") fallback.headerDenylist

/-! ### Rules -/

def ownedName (index : ℕ) (suffix : String) : String := s!"transform_{index}_{suffix}"

def matcherFromForm (values : FormValues) (index : ℕ) : TransformMatcherFile :=
  match (values.get (ownedName index "matcher_type")).getD "any" with
  | "url_glob" => .urlGlob (textValueOwned values (ownedName index "matcher_pattern"))
  | "content_type_glob" =>
    .contentTypeGlob (textValueOwned values (ownedName index "matcher_pattern"))
  | _ => .everything

def targetFromForm (values : FormValues) (index : ℕ) : TransformTargetFile :=
  match (values.get (ownedName index "target_type")).getD "body" with
  | "any" => .everything
  | "all_headers" => .allHeaders
  | "header" => .header (textValueOwned values (ownedName index "target_name"))
  | "cookies" => .cookies
  | _ => .body

/-- One rule of `transforms_from_form`. -/
def ruleFromForm (values : FormValues) (index : ℕ) : TransformRuleFile where
  matcher := matcherFromForm values index
  action := .replace (textValueOwned values (ownedName index "action_from"))
    (textValueOwned values (ownedName index "action_to"))
  target := targetFromForm values index
  stop := values.containsKey (ownedName index "stop")

/-- The bytes that a vector reserves for one rule, on a 64-bit target. -/
def ruleBytes : ℕ := 112

/-- `Vec::with_capacity` panics where the bytes do not fit an `isize`. -/
def vecWithCapacity (bytes capacity : ℕ) : Except Fault Unit :=
  if bytes * capacity < 2 ^ 63 then .ok () else .error (.panicked "capacity overflow")

def transformsFromForm (values : FormValues) (fallback : List TransformRuleFile) :
    Except Fault (List TransformRuleFile) := do
  let transformCount := usizeValue values "transform_count" fallback.length
  vecWithCapacity ruleBytes transformCount
  return (List.range transformCount).map (ruleFromForm values)

def blankTransform : TransformRuleFile := ⟨.everything, .replace "" "", .body, false⟩

/-! ### Editor actions -/

inductive EditorAction
  | addTransform
  | moveTransformDown (index : ℕ)
  | moveTransformUp (index : ℕ)
  | removeTransform (index : ℕ)
  | reload
  | save
  deriving DecidableEq, Repr

def editorAction (values : FormValues) : EditorAction :=
  let index := usizeValue values "editor_index" 0
  match values.get "editor_action" with
  | some "add_transform" => .addTransform
  | some "move_transform_up" => .moveTransformUp index
  | some "move_transform_down" => .moveTransformDown index
  | some "remove_transform" => .removeTransform index
  | some "reload" => .reload
  | _ => .save

/-- `slice::swap`. -/
def sliceSwap {α : Type} (l : List α) (i j : ℕ) : Except Fault (List α) :=
  match l[i]?, l[j]? with
  | some a, some b => .ok ((l.set i b).set j a)
  | some _, none =>
    .error (.panicked s!"index out of bounds: the len is {l.length} but the index is {j}")
  | none, _ => .error (.panicked s!"index out of bounds: the len is {l.length} but the index is {i}")

/-- `apply_editor_action`, with the wrapping addition of a release build. -/
def applyEditorAction (draft : List TransformRuleFile) :
    EditorAction → Except Fault (List TransformRuleFile)
  | .addTransform => .ok (draft ++ [blankTransform])
  | .moveTransformUp index =>
    if 0 < index && index < draft.length then sliceSwap draft index (index - 1) else .ok draft
  | .moveTransformDown index =>
    let next := (index + 1) % 2 ^ 64
    if next < draft.length then sliceSwap draft index next else .ok draft
  | .removeTransform index =>
    if index < draft.length then .ok (draft.eraseIdx index) else .ok draft
  | .reload | .save => .ok draft

/-! ### The two pages -/

structure Notice where
  tone : String
  message : String
  deriving DecidableEq, Repr

def Notice.info (message : String) : Notice :=
  ⟨"border-emerald-200 bg-emerald-50 text-emerald-900", message⟩

def Notice.error (message : String) : Notice :=
  ⟨"border-rose-200 bg-rose-50 text-rose-900", message⟩

/-- What an editor page shows. -/
structure EditorPage where
  draft : AppConfigFile
  snapshot : RuntimeManagerState
  notice : Option Notice
  validationErrors : List String
  deriving DecidableEq, Repr

/-- The pages `/config` and `/transforms`. -/
inductive Page
  | config
  | transforms
  deriving DecidableEq, Repr

/-- What a submit does once it has read the snapshot. -/
inductive Submitted
  | reload
  | save (snapshot : RuntimeManagerState) (draft : AppConfigFile)
  | render (page : EditorPage)
  deriving DecidableEq, Repr

namespace Page

/-- The config that a submit builds. -/
def draft (page : Page) (values : FormValues) (savedConfig : AppConfigFile) :
    Except Fault AppConfigFile :=
  match page with
  | .config => .ok { savedConfig with runtime := runtimeFromForm values savedConfig.runtime }
  | .transforms => do
    let transforms ← transformsFromForm values savedConfig.transforms
    let transforms ← applyEditorAction transforms (editorAction values)
    return { savedConfig with transforms }

/-- `config_submit` and `transforms_submit` up to their call on the manager. -/
def submit (page : Page) (values : FormValues) (snapshot : RuntimeManagerState) :
    Except Fault Submitted :=
  match editorAction values with
  | .reload => .ok .reload
  | .save => do
    let draft ← page.draft values snapshot.savedConfig
    return .save snapshot draft
  | _ => do
    let draft ← page.draft values snapshot.savedConfig
    return .render ⟨draft, snapshot, none, []⟩

end Page

/-- The answer after `save_config`. -/
def savedPage (snapshot : RuntimeManagerState) (draft : AppConfigFile) :
    Except AnyError RuntimeManagerState → EditorPage
  | .ok updatedSnapshot =>
    let message :=
      if updatedSnapshot.pendingReload then "Config saved. Reload is required to apply it."
      else "Config saved. The running proxy already matches this file."
    ⟨draft, updatedSnapshot, some (.info message), []⟩
  | .error err => ⟨draft, snapshot, some (.error "Config did not save."), [err.message]⟩

/-- The answer after `reload`; an error shows the snapshot that is current then. -/
def reloadedPage (currentSnapshot : RuntimeManagerState) :
    Except AnyError RuntimeManagerState → EditorPage
  | .ok updatedSnapshot =>
    ⟨updatedSnapshot.savedConfig, updatedSnapshot, some (.info "Proxy reloaded from disk."), []⟩
  | .error err =>
    ⟨currentSnapshot.savedConfig, currentSnapshot, some (.error "Reload failed."), [err.message]⟩

/-- `config_submit` and `transforms_submit` in one piece, with the manager and the config file after it. -/
def Page.handle [Net] [Glob] [ConfigText] (page : Page) (values : FormValues) (m : RuntimeManager)
    (env : CallEnv) (file : String) : Except Fault (EditorPage × RuntimeManager × String) := do
  match ← page.submit values m.snapshot with
  | .reload =>
    let outcome := m.reload env.toReloadEnv
    return (reloadedPage outcome.manager.snapshot outcome.result, outcome.manager, file)
  | .save snapshot draft =>
    let (result, m, file) := m.saveConfig env draft file
    return (savedPage snapshot draft result, m, file)
  | .render shown => return (shown, m, file)

/-! ### The part of a page -/

namespace Page

/-- The part of the config that the page edits is the same. -/
def Same : Page → AppConfigFile → AppConfigFile → Prop
  | .config, a, b => a.runtime = b.runtime
  | .transforms, a, b => a.transforms = b.transforms

def other : Page → Page
  | .config => .transforms
  | .transforms => .config

theorem eq_or_eq_other (p q : Page) : q = p ∨ q = p.other := by
  cases p <;> cases q <;> simp [other]

@[simp] theorem other_other (p : Page) : p.other.other = p := by
  cases p <;> rfl

theorem other_ne (p : Page) : p.other ≠ p := by
  cases p <;> simp [other]

theorem Same.refl (p : Page) (a : AppConfigFile) : p.Same a a := by
  cases p <;> rfl

theorem Same.symm {p : Page} {a b : AppConfigFile} (h : p.Same a b) : p.Same b a := by
  cases p <;> exact Eq.symm h

theorem Same.trans {p : Page} {a b c : AppConfigFile} (h : p.Same a b) (h' : p.Same b c) :
    p.Same a c := by
  cases p <;> exact Eq.trans h h'

/-- A submit leaves the part of the other page as it read it. -/
theorem draft_same {p : Page} {values : FormValues} {savedConfig draft : AppConfigFile}
    (h : p.draft values savedConfig = .ok draft) : p.other.Same draft savedConfig := by
  cases p with
  | config =>
    obtain rfl := Except.ok.inj h
    rfl
  | transforms =>
    obtain ⟨transforms, -, h⟩ := bind_eq_ok.mp h
    obtain ⟨edited, -, h⟩ := bind_eq_ok.mp h
    obtain rfl := Except.ok.inj h
    rfl

/-- A submit that comes to a save has built its draft from the snapshot it read. -/
theorem submit_save {p : Page} {values : FormValues} {snapshot snapshot' : RuntimeManagerState}
    {draft : AppConfigFile} (h : p.submit values snapshot = .ok (.save snapshot' draft)) :
    snapshot' = snapshot ∧ p.draft values snapshot.savedConfig = .ok draft := by
  unfold submit at h
  split at h
  · cases h
  · obtain ⟨built, hd, h⟩ := bind_eq_ok.mp h
    obtain ⟨rfl, rfl⟩ := Submitted.save.inj (Except.ok.inj h)
    exact ⟨rfl, hd⟩
  · obtain ⟨built, hd, h⟩ := bind_eq_ok.mp h
    cases h

end Page

end KidProxy
