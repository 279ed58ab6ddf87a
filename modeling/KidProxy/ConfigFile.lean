import KidProxy.Lib.Serde
import KidProxy.ManagerCalls
import Mathlib.Data.List.Nodup

/-!
# ConfigFile — the config file as JSON

`serialize` is what `serde` derives for writing and `deserialize` what it derives for reading, with the
renamed variants, aliases and defaults that the attributes give.
-/

namespace KidProxy

/-! ### What is written -/

def HttpMode.serialize : HttpMode → Json
  | .auto => .str "auto"
  | .http1 => .str "http1"
  | .http2 => .str "http2"

def TransformMatcherFile.serialize : TransformMatcherFile → Json
  | .urlGlob pattern => .obj [("type", .str "url_glob"), ("pattern", .str pattern)]
  | .contentTypeGlob pattern => .obj [("type", .str "content_type_glob"), ("pattern", .str pattern)]
  | .everything => .obj [("type", .str "everything")]

def TransformActionFile.serialize : TransformActionFile → Json
  | .replace fromText toText =>
    .obj [("type", .str "replace"), ("from", .str fromText), ("to", .str toText)]

def TransformTargetFile.serialize : TransformTargetFile → Json
  | .everything => .obj [("type", .str "everything")]
  | .body => .obj [("type", .str "body")]
  | .allHeaders => .obj [("type", .str "all_headers")]
  | .header name => .obj [("type", .str "header"), ("name", .str name)]
  | .cookies => .obj [("type", .str "cookies")]

def TransformRuleFile.members (rule : TransformRuleFile) : List (String × Json) :=
  [("matcher", rule.matcher.serialize), ("action", rule.action.serialize),
    ("target", rule.target.serialize), ("stop", .bool rule.stop)]

def TransformRuleFile.serialize (rule : TransformRuleFile) : Json := .obj rule.members

def serializeOption : Option String → Json
  | some value => .str value
  | none => .null

def serializeNumber (n : ℕ) : Json := .num (.ofNat n)

def serializeStrings (values : List String) : Json := .arr (values.map .str)

def RuntimeSettingsFile.members (runtime : RuntimeSettingsFile) : List (String × Json) :=
  [("listen_addr", .str runtime.listenAddr), ("frontend_domain", .str runtime.frontendDomain),
    ("backend_url", .str runtime.backendUrl), ("tls_cert_path", .str runtime.tlsCertPath),
    ("tls_key_path", .str runtime.tlsKeyPath), ("sqlite_path", .str runtime.sqlitePath),
    ("ca_bundle_path", serializeOption runtime.caBundlePath),
    ("upstream_sni_override", serializeOption runtime.upstreamSniOverride),
    ("http_mode", runtime.httpMode.serialize), ("flush_rows", serializeNumber runtime.flushRows),
    ("flush_interval_ms", serializeNumber runtime.flushIntervalMs),
    ("max_inflight_events", serializeNumber runtime.maxInflightEvents),
    ("body_max_bytes", serializeNumber runtime.bodyMaxBytes),
    ("connect_timeout_ms", serializeNumber runtime.connectTimeoutMs),
    ("request_timeout_ms", serializeNumber runtime.requestTimeoutMs),
    ("idle_pool_timeout_ms", serializeNumber runtime.idlePoolTimeoutMs),
    ("graceful_shutdown_timeout_ms", serializeNumber runtime.gracefulShutdownTimeoutMs),
    ("trust_proxy_headers", .bool runtime.trustProxyHeaders), ("emit_keylog", .bool runtime.emitKeylog),
    ("header_allowlist", serializeStrings runtime.headerAllowlist),
    ("header_denylist", serializeStrings runtime.headerDenylist)]

def RuntimeSettingsFile.serialize (runtime : RuntimeSettingsFile) : Json := .obj runtime.members

def AppConfigFile.members (appConfig : AppConfigFile) : List (String × Json) :=
  [("runtime", appConfig.runtime.serialize),
    ("transforms", .arr (appConfig.transforms.map TransformRuleFile.serialize))]

def AppConfigFile.serialize (appConfig : AppConfigFile) : Json := .obj appConfig.members

/-! ### What is read -/

def HttpMode.deserialize (value : Json) : Option HttpMode := do
  match ← Serde.unitVariant value with
  | "auto" => return .auto
  | "http1" => return .http1
  | "http2" => return .http2
  | _ => none

/-- The fields of a variant. -/
def TransformMatcherFile.fields : String → List String
  | "url_glob" => ["pattern"]
  | "content_type_glob" => ["pattern"]
  | _ => []

def TransformMatcherFile.ofVariant (variant : String) (members : List (String × Json)) :
    Option TransformMatcherFile := do
  match variant with
  | "url_glob" => return .urlGlob (← Serde.required Serde.string "pattern" members)
  | "content_type_glob" => return .contentTypeGlob (← Serde.required Serde.string "pattern" members)
  | "everything" => return .everything
  | "any" => return .everything
  | _ => none

def TransformMatcherFile.deserialize : Json → Option TransformMatcherFile :=
  Serde.taggedEnum "type" fields ofVariant

def TransformActionFile.fields : String → List String
  | "replace" => ["from", "to"]
  | _ => []

def TransformActionFile.ofVariant (variant : String) (members : List (String × Json)) :
    Option TransformActionFile := do
  match variant with
  | "replace" =>
    let fromText ← Serde.required Serde.string "from" members
    let toText ← Serde.required Serde.string "to" members
    return .replace fromText toText
  | _ => none

def TransformActionFile.deserialize : Json → Option TransformActionFile :=
  Serde.taggedEnum "type" fields ofVariant

def TransformTargetFile.fields : String → List String
  | "header" => ["name"]
  | _ => []

def TransformTargetFile.ofVariant (variant : String) (members : List (String × Json)) :
    Option TransformTargetFile := do
  match variant with
  | "everything" => return .everything
  | "any" => return .everything
  | "body" => return .body
  | "all_headers" => return .allHeaders
  | "header" => return .header (← Serde.required Serde.string "name" members)
  | "cookies" => return .cookies
  | _ => none

def TransformTargetFile.deserialize : Json → Option TransformTargetFile :=
  Serde.taggedEnum "type" fields ofVariant

namespace TransformRuleFile

def fieldNames : List String := ["matcher", "action", "target", "stop"]

def ofMembers (members : List (String × Json)) : Option TransformRuleFile := do
  let matcher ← Serde.required TransformMatcherFile.deserialize "matcher" members
  let action ← Serde.required TransformActionFile.deserialize "action" members
  let target ← Serde.required TransformTargetFile.deserialize "target" members
  let stop ← Serde.defaulted Serde.bool false "stop" members
  return { matcher, action, target, stop }

def deserialize (value : Json) : Option TransformRuleFile := (Serde.struct fieldNames value).bind ofMembers

end TransformRuleFile

namespace RuntimeSettingsFile

def fieldNames : List String :=
  ["listen_addr", "frontend_domain", "backend_url", "tls_cert_path", "tls_key_path", "sqlite_path",
    "ca_bundle_path", "upstream_sni_override", "http_mode", "flush_rows", "flush_interval_ms",
    "max_inflight_events", "body_max_bytes", "connect_timeout_ms", "request_timeout_ms",
    "idle_pool_timeout_ms", "graceful_shutdown_timeout_ms", "trust_proxy_headers", "emit_keylog",
    "header_allowlist", "header_denylist"]

def ofMembers (members : List (String × Json)) : Option RuntimeSettingsFile := do
  let listenAddr ← Serde.required Serde.string "listen_addr" members
  let frontendDomain ← Serde.required Serde.string "frontend_domain" members
  let backendUrl ← Serde.required Serde.string "backend_url" members
  let tlsCertPath ← Serde.required Serde.string "tls_cert_path" members
  let tlsKeyPath ← Serde.required Serde.string "tls_key_path" members
  let sqlitePath ← Serde.defaulted Serde.string default.sqlitePath "sqlite_path" members
  let caBundlePath ← Serde.defaulted (Serde.option Serde.string) none "ca_bundle_path" members
  let upstreamSniOverride ← Serde.defaulted (Serde.option Serde.string) none "upstream_sni_override" members
  let httpMode ← Serde.defaulted HttpMode.deserialize default.httpMode "http_mode" members
  let flushRows ← Serde.defaulted Serde.u64 default.flushRows "flush_rows" members
  let flushIntervalMs ← Serde.defaulted Serde.u64 default.flushIntervalMs "flush_interval_ms" members
  let maxInflightEvents ← Serde.defaulted Serde.u64 default.maxInflightEvents "max_inflight_events" members
  let bodyMaxBytes ← Serde.defaulted Serde.u64 default.bodyMaxBytes "body_max_bytes" members
  let connectTimeoutMs ← Serde.defaulted Serde.u64 default.connectTimeoutMs "connect_timeout_ms" members
  let requestTimeoutMs ← Serde.defaulted Serde.u64 default.requestTimeoutMs "request_timeout_ms" members
  let idlePoolTimeoutMs ← Serde.defaulted Serde.u64 default.idlePoolTimeoutMs "idle_pool_timeout_ms" members
  let gracefulShutdownTimeoutMs ← Serde.defaulted Serde.u64 default.gracefulShutdownTimeoutMs
    "graceful_shutdown_timeout_ms" members
  let trustProxyHeaders ← Serde.defaulted Serde.bool false "trust_proxy_headers" members
  let emitKeylog ← Serde.defaulted Serde.bool false "emit_keylog" members
  let headerAllowlist ← Serde.defaulted (Serde.vec Serde.string) [] "header_allowlist" members
  let headerDenylist ← Serde.defaulted (Serde.vec Serde.string) [] "header_denylist" members
  return {
    listenAddr, frontendDomain, backendUrl, tlsCertPath, tlsKeyPath, sqlitePath, caBundlePath
    upstreamSniOverride, httpMode, flushRows, flushIntervalMs, maxInflightEvents, bodyMaxBytes
    connectTimeoutMs, requestTimeoutMs, idlePoolTimeoutMs, gracefulShutdownTimeoutMs
    trustProxyHeaders, emitKeylog, headerAllowlist, headerDenylist }

def deserialize (value : Json) : Option RuntimeSettingsFile := (Serde.struct fieldNames value).bind ofMembers

end RuntimeSettingsFile

namespace AppConfigFile

def fieldNames : List String := ["runtime", "transforms"]

def ofMembers (members : List (String × Json)) : Option AppConfigFile := do
  let runtime ← Serde.required RuntimeSettingsFile.deserialize "runtime" members
  let transforms ← Serde.defaulted (Serde.vec TransformRuleFile.deserialize) [] "transforms" members
  return { runtime, transforms }

def deserialize (value : Json) : Option AppConfigFile := (Serde.struct fieldNames value).bind ofMembers

/-- `serde_json::from_str`. -/
def fromStr (contents : String) : Option AppConfigFile := (Json.parse contents.toList).bind deserialize

end AppConfigFile

/-! ### What is written is read back -/

theorem HttpMode.deserialize_serialize (mode : HttpMode) : deserialize mode.serialize = some mode := by
  cases mode <;> rfl

theorem TransformMatcherFile.deserialize_serialize (matcher : TransformMatcherFile) :
    deserialize matcher.serialize = some matcher := by
  cases matcher <;> rfl

theorem TransformActionFile.deserialize_serialize (action : TransformActionFile) :
    deserialize action.serialize = some action := by
  cases action
  rfl

theorem TransformTargetFile.deserialize_serialize (target : TransformTargetFile) :
    deserialize target.serialize = some target := by
  cases target <;> rfl

theorem struct_of_names {names : List String} (hnames : names.Nodup) {members : List (String × Json)}
    (h : members.map Prod.fst = names) : Serde.struct names (.obj members) = some members := by
  refine Serde.struct_obj_eq_some.mpr ⟨?_, rfl⟩
  rw [h]
  exact ⟨hnames, fun key hkey => hkey⟩

/-- Names are told apart by their characters. -/
theorem nodup_of_toList {names : List String} (h : (names.map String.toList).Nodup) : names.Nodup :=
  List.Nodup.of_map _ h

namespace TransformRuleFile

theorem nodup_fieldNames : fieldNames.Nodup := nodup_of_toList (by decide +kernel)

theorem ofMembers_members (rule : TransformRuleFile) : ofMembers rule.members = some rule := by
  have hnodup : (rule.members.map Prod.fst).Nodup := nodup_fieldNames
  have hmatcher : Serde.required TransformMatcherFile.deserialize "matcher" rule.members =
      some rule.matcher :=
    Serde.required_of_getElem hnodup (i := 0) rfl rule.matcher.deserialize_serialize
  have haction : Serde.required TransformActionFile.deserialize "action" rule.members = some rule.action :=
    Serde.required_of_getElem hnodup (i := 1) rfl rule.action.deserialize_serialize
  have htarget : Serde.required TransformTargetFile.deserialize "target" rule.members = some rule.target :=
    Serde.required_of_getElem hnodup (i := 2) rfl rule.target.deserialize_serialize
  have hstop : Serde.defaulted Serde.bool false "stop" rule.members = some rule.stop :=
    Serde.defaulted_of_getElem hnodup (i := 3) rfl rfl
  unfold ofMembers
  rw [hmatcher, haction, htarget, hstop]
  rfl

theorem deserialize_serialize (rule : TransformRuleFile) : deserialize rule.serialize = some rule := by
  have hstruct : Serde.struct fieldNames rule.serialize = some rule.members :=
    struct_of_names nodup_fieldNames rfl
  unfold deserialize
  rw [hstruct, Option.bind_some, ofMembers_members]

end TransformRuleFile

theorem option_serializeOption (value : Option String) :
    Serde.option Serde.string (serializeOption value) = some value := by
  cases value <;> rfl

theorem vec_serializeStrings (values : List String) :
    Serde.vec Serde.string (serializeStrings values) = some values :=
  Serde.vec_map fun _ _ => rfl

namespace RuntimeSettingsFile

variable {runtime : RuntimeSettingsFile}

theorem nodup_fieldNames : fieldNames.Nodup := nodup_of_toList (by decide +kernel)

/-- A member is read as what it was written from. -/
theorem required_members (runtime : RuntimeSettingsFile) (i : ℕ) {name value : String}
    (h : runtime.members[i]? = some (name, .str value)) :
    Serde.required Serde.string name runtime.members = some value :=
  Serde.required_of_getElem nodup_fieldNames h rfl

theorem defaulted_members {α : Type} (runtime : RuntimeSettingsFile) (decode : Json → Option α) (i : ℕ)
    {default a : α} {name : String} {value : Json}
    (h : runtime.members[i]? = some (name, value)) (hdecode : decode value = some a) :
    Serde.defaulted decode default name runtime.members = some a :=
  Serde.defaulted_of_getElem nodup_fieldNames h hdecode

theorem ofMembers_members (h : runtime.InRange) : ofMembers runtime.members = some runtime := by
  have hnumber : ∀ {n : ℕ}, n < 2 ^ 64 → Serde.u64 (serializeNumber n) = some n := Serde.u64_ofNat
  unfold ofMembers
  rw [runtime.required_members 0 rfl, runtime.required_members 1 rfl, runtime.required_members 2 rfl,
    runtime.required_members 3 rfl, runtime.required_members 4 rfl,
    runtime.defaulted_members Serde.string 5 rfl rfl,
    runtime.defaulted_members (Serde.option Serde.string) 6 rfl (option_serializeOption _),
    runtime.defaulted_members (Serde.option Serde.string) 7 rfl (option_serializeOption _),
    runtime.defaulted_members HttpMode.deserialize 8 rfl runtime.httpMode.deserialize_serialize,
    runtime.defaulted_members Serde.u64 9 rfl (hnumber h.flushRows),
    runtime.defaulted_members Serde.u64 10 rfl (hnumber h.flushIntervalMs),
    runtime.defaulted_members Serde.u64 11 rfl (hnumber h.maxInflightEvents),
    runtime.defaulted_members Serde.u64 12 rfl (hnumber h.bodyMaxBytes),
    runtime.defaulted_members Serde.u64 13 rfl (hnumber h.connectTimeoutMs),
    runtime.defaulted_members Serde.u64 14 rfl (hnumber h.requestTimeoutMs),
    runtime.defaulted_members Serde.u64 15 rfl (hnumber h.idlePoolTimeoutMs),
    runtime.defaulted_members Serde.u64 16 rfl (hnumber h.gracefulShutdownTimeoutMs),
    runtime.defaulted_members Serde.bool 17 rfl rfl, runtime.defaulted_members Serde.bool 18 rfl rfl,
    runtime.defaulted_members (Serde.vec Serde.string) 19 rfl (vec_serializeStrings _),
    runtime.defaulted_members (Serde.vec Serde.string) 20 rfl (vec_serializeStrings _)]
  rfl

theorem deserialize_serialize (h : runtime.InRange) : deserialize runtime.serialize = some runtime := by
  have hstruct : Serde.struct fieldNames runtime.serialize = some runtime.members :=
    struct_of_names nodup_fieldNames rfl
  unfold deserialize
  rw [hstruct, Option.bind_some, ofMembers_members h]

end RuntimeSettingsFile

namespace AppConfigFile

variable {appConfig : AppConfigFile}

theorem nodup_fieldNames : fieldNames.Nodup := nodup_of_toList (by decide +kernel)

theorem ofMembers_members (h : appConfig.runtime.InRange) : ofMembers appConfig.members = some appConfig := by
  have hnodup : (appConfig.members.map Prod.fst).Nodup := nodup_fieldNames
  have hruntime : Serde.required RuntimeSettingsFile.deserialize "runtime" appConfig.members =
      some appConfig.runtime :=
    Serde.required_of_getElem hnodup (i := 0) rfl (RuntimeSettingsFile.deserialize_serialize h)
  have htransforms :
      Serde.defaulted (Serde.vec TransformRuleFile.deserialize) [] "transforms" appConfig.members =
      some appConfig.transforms :=
    Serde.defaulted_of_getElem hnodup (i := 1) rfl (Serde.vec_map fun rule _ => rule.deserialize_serialize)
  unfold ofMembers
  rw [hruntime, htransforms]
  rfl

theorem deserialize_serialize (h : appConfig.runtime.InRange) :
    deserialize appConfig.serialize = some appConfig := by
  have hstruct : Serde.struct fieldNames appConfig.serialize = some appConfig.members :=
    struct_of_names nodup_fieldNames rfl
  unfold deserialize
  rw [hstruct, Option.bind_some, ofMembers_members h]

/-- The file that is written is read back. -/
theorem fromStr_prettyText (h : appConfig.runtime.InRange) :
    fromStr appConfig.serialize.prettyText = some appConfig := by
  unfold fromStr
  rw [Json.parse_prettyText, Option.bind_some, deserialize_serialize h]

end AppConfigFile

/-! ### Shorter documents -/

/-- The members that may be left out, at their defaults. -/
def RuntimeSettingsFile.defaultMembers : List (String × Json) := default.members.drop 5

def TransformRuleFile.defaultMembers : List (String × Json) := [("stop", .bool false)]

def AppConfigFile.defaultMembers : List (String × Json) := [("transforms", .arr [])]

/-- A rule without a member that has its default, or with the alias of a variant. -/
inductive TransformRuleFile.Abbreviates : Json → Json → Prop
  | omitted {full short : List (String × Json)} (h : Serde.Omits defaultMembers short full) :
      Abbreviates (.obj full) (.obj short)
  | matcher {members members' variant variant' : List (String × Json)}
      (halias : Serde.Replaced "type" (.str "everything") (.str "any") variant variant')
      (h : Serde.Replaced "matcher" (.obj variant) (.obj variant') members members') :
      Abbreviates (.obj members) (.obj members')
  | target {members members' variant variant' : List (String × Json)}
      (halias : Serde.Replaced "type" (.str "everything") (.str "any") variant variant')
      (h : Serde.Replaced "target" (.obj variant) (.obj variant') members members') :
      Abbreviates (.obj members) (.obj members')

/-- One abbreviation of a config file. -/
inductive AppConfigFile.Abbreviates : Json → Json → Prop
  | omitted {full short : List (String × Json)} (h : Serde.Omits defaultMembers short full) :
      Abbreviates (.obj full) (.obj short)
  | runtime {members members' full short : List (String × Json)}
      (homits : Serde.Omits RuntimeSettingsFile.defaultMembers short full)
      (h : Serde.Replaced "runtime" (.obj full) (.obj short) members members') :
      Abbreviates (.obj members) (.obj members')
  | rule {members members' : List (String × Json)} {before after : List Json} {rule rule' : Json}
      (hrule : TransformRuleFile.Abbreviates rule rule')
      (h : Serde.Replaced "transforms" (.arr (before ++ rule :: after)) (.arr (before ++ rule' :: after))
        members members') :
      Abbreviates (.obj members) (.obj members')

namespace RuntimeSettingsFile

theorem nodup_defaultMembers : (defaultMembers.map Prod.fst).Nodup :=
  nodup_fieldNames.sublist (List.drop_sublist 5 fieldNames)

theorem lookup_defaultMembers {name : String} (i : ℕ) (h : (fieldNames.take 5)[i]? = some name) :
    defaultMembers.lookup name = none :=
  Assoc.lookup_eq_none_iff.mpr
    (List.disjoint_take_drop nodup_fieldNames (le_refl 5) (List.mem_of_getElem? h))

/-- The default of a member is what is read for it. -/
theorem required_defaultMembers {α : Type} (decode : Json → Option α) (i : ℕ) {default : α} {name : String}
    {value : Json} (h : defaultMembers[i]? = some (name, value)) (hdecode : decode value = some default) :
    Serde.required decode name defaultMembers = some default :=
  Serde.required_of_getElem nodup_defaultMembers h hdecode

theorem ofMembers_of_omits {full short : List (String × Json)} (hnodup : (full.map Prod.fst).Nodup)
    (h : Serde.Omits defaultMembers short full) : ofMembers short = ofMembers full := by
  have hrequired : ∀ {name : String} (i : ℕ), (fieldNames.take 5)[i]? = some name →
      Serde.required Serde.string name short = Serde.required Serde.string name full := fun i hi =>
    Serde.required_of_omits hnodup h (lookup_defaultMembers i hi)
  have hnumber : ∀ {name : String} {n : ℕ} (i : ℕ), n < 2 ^ 64 →
      defaultMembers[i]? = some (name, serializeNumber n) →
      Serde.defaulted Serde.u64 n name short = Serde.defaulted Serde.u64 n name full := fun i hn hi =>
    Serde.defaulted_of_omits hnodup h (required_defaultMembers Serde.u64 i hi (Serde.u64_ofNat hn))
  have hother : ∀ {α : Type} (decode : Json → Option α) (default : α) {name : String} {value : Json} (i : ℕ),
      defaultMembers[i]? = some (name, value) → decode value = some default →
      Serde.defaulted decode default name short = Serde.defaulted decode default name full :=
    fun decode _ _ _ i hi hdecode =>
      Serde.defaulted_of_omits hnodup h (required_defaultMembers decode i hi hdecode)
  unfold ofMembers
  rw [hrequired 0 rfl, hrequired 1 rfl, hrequired 2 rfl, hrequired 3 rfl, hrequired 4 rfl,
    hother Serde.string default.sqlitePath 0 rfl rfl, hother (Serde.option Serde.string) none 1 rfl rfl,
    hother (Serde.option Serde.string) none 2 rfl rfl, hother HttpMode.deserialize default.httpMode 3 rfl rfl,
    hnumber 4 (by decide) rfl, hnumber 5 (by decide) rfl, hnumber 6 (by decide) rfl,
    hnumber 7 (by decide) rfl, hnumber 8 (by decide) rfl, hnumber 9 (by decide) rfl,
    hnumber 10 (by decide) rfl, hnumber 11 (by decide) rfl, hother Serde.bool false 12 rfl rfl,
    hother Serde.bool false 13 rfl rfl, hother (Serde.vec Serde.string) [] 14 rfl rfl,
    hother (Serde.vec Serde.string) [] 15 rfl rfl]

theorem deserialize_of_omits {full short : List (String × Json)} {runtime : RuntimeSettingsFile}
    (h : Serde.Omits defaultMembers short full) (hfull : deserialize (.obj full) = some runtime) :
    deserialize (.obj short) = some runtime := by
  obtain ⟨members, hstruct, hmembers⟩ := Option.bind_eq_some_iff.mp hfull
  obtain ⟨⟨hnodup, -⟩, rfl⟩ := Serde.struct_obj_eq_some.mp hstruct
  unfold deserialize
  rw [Serde.struct_of_omits h hstruct, Option.bind_some, ofMembers_of_omits hnodup h, hmembers]

end RuntimeSettingsFile

namespace TransformRuleFile

variable {full short members members' : List (String × Json)}

theorem ofMembers_of_omits (hnodup : (full.map Prod.fst).Nodup) (h : Serde.Omits defaultMembers short full) :
    ofMembers short = ofMembers full := by
  have hnone : ∀ {name : String}, name.toList ≠ "stop".toList → defaultMembers.lookup name = none := by
    intro name hne
    refine Assoc.lookup_eq_none_iff.mpr fun hmem => hne ?_
    rw [List.mem_singleton.mp hmem]
  unfold ofMembers
  rw [Serde.required_of_omits hnodup h (hnone (by decide)),
    Serde.required_of_omits hnodup h (hnone (by decide)),
    Serde.required_of_omits hnodup h (hnone (by decide)), Serde.defaulted_of_omits hnodup h rfl]

theorem deserialize_of_abbreviates {rule rule' : Json} {value : TransformRuleFile}
    (h : Abbreviates rule rule') (hvalue : deserialize rule = some value) :
    deserialize rule' = some value := by
  obtain ⟨members, hstruct, hmembers⟩ := Option.bind_eq_some_iff.mp hvalue
  have hne : ∀ {a b : String}, a.toList ≠ b.toList → a ≠ b := fun h heq => h (congrArg String.toList heq)
  unfold deserialize
  cases h with
  | omitted homits =>
    obtain ⟨⟨hnodup, -⟩, rfl⟩ := Serde.struct_obj_eq_some.mp hstruct
    rw [Serde.struct_of_omits homits hstruct, Option.bind_some, ofMembers_of_omits hnodup homits, hmembers]
  | matcher halias hreplaced =>
    obtain ⟨⟨hnodup, -⟩, rfl⟩ := Serde.struct_obj_eq_some.mp hstruct
    rw [Serde.struct_of_replaced hreplaced hstruct, Option.bind_some]
    obtain ⟨matcher, hmatcher, hrest⟩ := Option.bind_eq_some_iff.mp hmembers
    have hmatcher' : Serde.required TransformMatcherFile.deserialize "matcher" _ = some matcher :=
      Serde.required_of_replaced hnodup hreplaced (Serde.taggedEnum_of_replaced halias rfl rfl) hmatcher
    unfold ofMembers
    rw [hmatcher', Serde.required_of_replaced_ne hreplaced (hne (by decide)),
      Serde.required_of_replaced_ne hreplaced (hne (by decide)),
      Serde.defaulted_of_replaced_ne hreplaced (hne (by decide))]
    exact hrest
  | target halias hreplaced =>
    obtain ⟨⟨hnodup, -⟩, rfl⟩ := Serde.struct_obj_eq_some.mp hstruct
    rw [Serde.struct_of_replaced hreplaced hstruct, Option.bind_some]
    obtain ⟨matcher, hmatcher, hrest⟩ := Option.bind_eq_some_iff.mp hmembers
    obtain ⟨action, haction, hrest⟩ := Option.bind_eq_some_iff.mp hrest
    obtain ⟨target, htarget, hrest⟩ := Option.bind_eq_some_iff.mp hrest
    have htarget' : Serde.required TransformTargetFile.deserialize "target" _ = some target :=
      Serde.required_of_replaced hnodup hreplaced (Serde.taggedEnum_of_replaced halias rfl rfl) htarget
    unfold ofMembers
    rw [Serde.required_of_replaced_ne hreplaced (hne (by decide)),
      Serde.required_of_replaced_ne hreplaced (hne (by decide)), hmatcher, haction, htarget',
      Serde.defaulted_of_replaced_ne hreplaced (hne (by decide))]
    exact hrest

end TransformRuleFile

namespace AppConfigFile

variable {full short : Json} {appConfig : AppConfigFile}

/-- An abbreviation is read as what it abbreviates. -/
theorem deserialize_of_abbreviates (h : Abbreviates full short) (hfull : deserialize full = some appConfig) :
    deserialize short = some appConfig := by
  obtain ⟨members, hstruct, hmembers⟩ := Option.bind_eq_some_iff.mp hfull
  have hne : ∀ {a b : String}, a.toList ≠ b.toList → a ≠ b := fun h heq => h (congrArg String.toList heq)
  unfold deserialize
  cases h with
  | omitted homits =>
    obtain ⟨⟨hnodup, -⟩, rfl⟩ := Serde.struct_obj_eq_some.mp hstruct
    have hnone : defaultMembers.lookup "runtime" = none := by
      refine Assoc.lookup_eq_none_iff.mpr fun hmem => ?_
      exact hne (a := "runtime") (b := "transforms") (by decide) (List.mem_singleton.mp hmem)
    rw [Serde.struct_of_omits homits hstruct, Option.bind_some]
    unfold ofMembers
    rw [Serde.required_of_omits hnodup homits hnone, Serde.defaulted_of_omits hnodup homits rfl]
    exact hmembers
  | runtime homits hreplaced =>
    obtain ⟨⟨hnodup, -⟩, rfl⟩ := Serde.struct_obj_eq_some.mp hstruct
    rw [Serde.struct_of_replaced hreplaced hstruct, Option.bind_some]
    obtain ⟨runtime, hruntime, hrest⟩ := Option.bind_eq_some_iff.mp hmembers
    have hruntime' := Serde.required_of_replaced hnodup hreplaced
      (RuntimeSettingsFile.deserialize_of_omits homits) hruntime
    unfold ofMembers
    rw [hruntime', Serde.defaulted_of_replaced_ne hreplaced (hne (by decide))]
    exact hrest
  | rule hrule hreplaced =>
    obtain ⟨⟨hnodup, -⟩, rfl⟩ := Serde.struct_obj_eq_some.mp hstruct
    rw [Serde.struct_of_replaced hreplaced hstruct, Option.bind_some]
    obtain ⟨runtime, hruntime, hrest⟩ := Option.bind_eq_some_iff.mp hmembers
    obtain ⟨transforms, htransforms, hrest⟩ := Option.bind_eq_some_iff.mp hrest
    have htransforms' := Serde.defaulted_of_replaced hnodup hreplaced
      (Serde.vec_of_replaced (fun _ => TransformRuleFile.deserialize_of_abbreviates hrule)) htransforms
    unfold ofMembers
    rw [Serde.required_of_replaced_ne hreplaced (hne (by decide)), hruntime, htransforms']
    exact hrest

/-- Any number of abbreviations. -/
theorem deserialize_of_run (h : Relation.ReflTransGen Abbreviates full short)
    (hfull : deserialize full = some appConfig) : deserialize short = some appConfig := by
  induction h with
  | refl => exact hfull
  | tail _ hstep ih => exact deserialize_of_abbreviates hstep ih

end AppConfigFile

/-! ### Unknown keys -/

/-- A key of the rule, or of its matcher, action or target, that is not known there. -/
inductive TransformRuleFile.UnknownKey : Json → Prop
  | rule {rule : Json} (h : Serde.UnknownField fieldNames rule) : UnknownKey rule
  | matcher {rule matcher : Json} (hfield : Serde.FieldValue fieldNames "matcher" rule matcher)
      (h : Serde.UnknownVariantField "type" TransformMatcherFile.fields matcher) : UnknownKey rule
  | action {rule action : Json} (hfield : Serde.FieldValue fieldNames "action" rule action)
      (h : Serde.UnknownVariantField "type" TransformActionFile.fields action) : UnknownKey rule
  | target {rule target : Json} (hfield : Serde.FieldValue fieldNames "target" rule target)
      (h : Serde.UnknownVariantField "type" TransformTargetFile.fields target) : UnknownKey rule

/-- A key that is not known at its place. -/
inductive AppConfigFile.UnknownKey : Json → Prop
  | top {value : Json} (h : Serde.UnknownField fieldNames value) : UnknownKey value
  | runtime {value runtime : Json} (hfield : Serde.FieldValue fieldNames "runtime" value runtime)
      (h : Serde.UnknownField RuntimeSettingsFile.fieldNames runtime) : UnknownKey value
  | rule {value rule : Json} {rules : List Json}
      (hfield : Serde.FieldValue fieldNames "transforms" value (.arr rules)) (hmem : rule ∈ rules)
      (h : TransformRuleFile.UnknownKey rule) : UnknownKey value

theorem TransformRuleFile.deserialize_unknown {rule : Json} (h : UnknownKey rule) :
    deserialize rule = none := by
  refine Option.eq_none_iff_forall_ne_some.mpr fun value hvalue => ?_
  obtain ⟨members, hstruct, hmembers⟩ := Option.bind_eq_some_iff.mp hvalue
  obtain ⟨matcher, hmatcher, hrest⟩ := Option.bind_eq_some_iff.mp hmembers
  obtain ⟨action, haction, hrest⟩ := Option.bind_eq_some_iff.mp hrest
  obtain ⟨target, htarget, -⟩ := Option.bind_eq_some_iff.mp hrest
  cases h with
  | rule h =>
    rw [Serde.struct_eq_none_of_unknown h] at hstruct
    cases hstruct
  | matcher hfield h =>
    have hrefused : TransformMatcherFile.deserialize _ = none := Serde.taggedEnum_eq_none_of_unknown h
    have hnone := Serde.required_eq_none_of_fieldValue nodup_fieldNames hfield hstruct hrefused
    rw [hnone] at hmatcher
    cases hmatcher
  | action hfield h =>
    have hrefused : TransformActionFile.deserialize _ = none := Serde.taggedEnum_eq_none_of_unknown h
    have hnone := Serde.required_eq_none_of_fieldValue nodup_fieldNames hfield hstruct hrefused
    rw [hnone] at haction
    cases haction
  | target hfield h =>
    have hrefused : TransformTargetFile.deserialize _ = none := Serde.taggedEnum_eq_none_of_unknown h
    have hnone := Serde.required_eq_none_of_fieldValue nodup_fieldNames hfield hstruct hrefused
    rw [hnone] at htarget
    cases htarget

namespace AppConfigFile

theorem deserialize_unknown {value : Json} (h : UnknownKey value) : deserialize value = none := by
  refine Option.eq_none_iff_forall_ne_some.mpr fun appConfig happConfig => ?_
  obtain ⟨members, hstruct, hmembers⟩ := Option.bind_eq_some_iff.mp happConfig
  obtain ⟨runtime, hruntime, hrest⟩ := Option.bind_eq_some_iff.mp hmembers
  obtain ⟨transforms, htransforms, -⟩ := Option.bind_eq_some_iff.mp hrest
  cases h with
  | top h =>
    rw [Serde.struct_eq_none_of_unknown h] at hstruct
    cases hstruct
  | @runtime given hfield h =>
    have hgiven : RuntimeSettingsFile.deserialize given = none := by
      unfold RuntimeSettingsFile.deserialize
      rw [Serde.struct_eq_none_of_unknown h]
      rfl
    rw [Serde.required_eq_none_of_fieldValue nodup_fieldNames hfield hstruct hgiven] at hruntime
    cases hruntime
  | rule hfield hmem h =>
    have hgiven := Serde.vec_eq_none_of_mem hmem (TransformRuleFile.deserialize_unknown h)
    rw [Serde.defaulted_eq_none_of_fieldValue nodup_fieldNames hfield hstruct hgiven] at htransforms
    cases htransforms

/-! ### The file on disk -/

/-- `serde_json` at the config file; `message` is the text of its error. -/
abbrev serdeText (message : String → String) : ConfigText where
  parse contents :=
    match fromStr contents with
    | some appConfig => .ok appConfig
    | none => .error (message contents)
  print appConfig := .ok appConfig.serialize.prettyText

theorem loadJson_of_contents [ConfigJson] {fs : Fs} {path contents : String}
    (h : fs.readToString path = .ok contents) :
    loadJson fs path = external s!"parse config {path}" (ConfigJson.parse contents) := by
  unfold loadJson
  rw [h]
  rfl

/-- **The config file round trips**: what is written is read back, an abbreviation of it is read as the
same config, and a document with an unknown key is refused. -/
theorem config_json_round_trips (appConfig : AppConfigFile) (h : appConfig.runtime.InRange)
    (message : String → String) (path file : String) :
    (∃ contents, @writeJson (serdeText message) .written appConfig path file = (.ok (), contents) ∧
      ∀ fs : Fs, fs.readToString path = .ok contents →
        @loadJson (serdeText message).toConfigJson fs path = .ok appConfig) ∧
    (∀ short contents, Relation.ReflTransGen Abbreviates appConfig.serialize short →
      Json.parse contents.toList = some short → ∀ fs : Fs, fs.readToString path = .ok contents →
        @loadJson (serdeText message).toConfigJson fs path = .ok appConfig) ∧
    ∀ value contents, UnknownKey value → Json.parse contents.toList = some value →
      ∀ fs : Fs, fs.readToString path = .ok contents →
        @loadJson (serdeText message).toConfigJson fs path =
          external s!"parse config {path}" (.error (message contents)) := by
  let _ := serdeText message
  have hread : ∀ {contents : String} {fs : Fs}, fs.readToString path = .ok contents →
      fromStr contents = some appConfig → loadJson fs path = .ok appConfig := by
    intro contents fs hfs hfrom
    have hparse : ConfigJson.parse contents = .ok appConfig := by
      show (match fromStr contents with
        | some appConfig => .ok appConfig
        | none => .error (message contents)) = Except.ok appConfig
      rw [hfrom]
    rw [loadJson_of_contents hfs, hparse]
    rfl
  refine ⟨⟨_, rfl, fun fs hfs => hread hfs (fromStr_prettyText h)⟩, ?_, ?_⟩
  · intro short contents hshort hparse fs hfs
    refine hread hfs ?_
    unfold fromStr
    rw [hparse, Option.bind_some, deserialize_of_run hshort (deserialize_serialize h)]
  · intro value contents hunknown hparse fs hfs
    have hnone : fromStr contents = none := by
      unfold fromStr
      rw [hparse, Option.bind_some, deserialize_unknown hunknown]
    have hrefused : ConfigJson.parse contents = .error (message contents) := by
      show (match fromStr contents with
        | some appConfig => .ok appConfig
        | none => .error (message contents)) = Except.error (message contents)
      rw [hnone]
    rw [loadJson_of_contents hfs, hrefused]

/-- Two rules on everything. -/
def sampleFile : AppConfigFile where
  runtime := .default
  transforms := [⟨.everything, .replace "a" "b", .everything, false⟩,
    ⟨.urlGlob "*", .replace "b" "", .cookies, true⟩]

/-- The first rule by the alias. -/
def sampleShort : Json :=
  .obj [("runtime", sampleFile.runtime.serialize), ("transforms", .arr [.obj [
    ("matcher", .obj [("type", .str "any")]), ("action", (TransformActionFile.replace "a" "b").serialize),
    ("target", .obj [("type", .str "everything")]), ("stop", .bool false)],
    (TransformRuleFile.mk (.urlGlob "*") (.replace "b" "") .cookies true).serialize])]

theorem abbreviates_sampleShort : Abbreviates sampleFile.serialize sampleShort :=
  @Abbreviates.rule _ _ [] _ _ _ (.matcher ⟨[], [], rfl, rfl⟩ ⟨[], _, rfl, rfl⟩) ⟨[_], [], rfl, rfl⟩

/-- A file system with this file. -/
def fsOf (contents : String) : Fs := ⟨fun _ => .ok contents, fun _ => .ok (), fun _ => .ok ()⟩

theorem sampleFile_round_trips :
    @loadJson (serdeText id).toConfigJson (fsOf sampleFile.serialize.prettyText) "kidproxy.json" =
      .ok sampleFile ∧
    @loadJson (serdeText id).toConfigJson (fsOf sampleShort.prettyText) "kidproxy.json" = .ok sampleFile ∧
    @loadJson (serdeText id).toConfigJson (fsOf "\x7b\"rules\":[]\x7d") "kidproxy.json" =
      external "parse config kidproxy.json" (.error "\x7b\"rules\":[]\x7d") := by
  have hrange : sampleFile.runtime.InRange := by constructor <;> decide
  obtain ⟨⟨contents, hwrite, hread⟩, hshort, hunknown⟩ :=
    config_json_round_trips sampleFile hrange id "kidproxy.json" ""
  obtain rfl : sampleFile.serialize.prettyText = contents := (Prod.mk.inj hwrite).2
  refine ⟨hread _ rfl, ?_, ?_⟩
  · exact hshort _ _ (.single abbreviates_sampleShort) (Json.parse_prettyText _) _ rfl
  · have hparse : Json.parse "\x7b\"rules\":[]\x7d".toList = some (.obj [("rules", .arr [])]) := by
      exact Json.parse_text (.obj [("rules", .arr [])])
    refine hunknown _ _ (.top ⟨_, rfl, "rules", List.mem_cons_self, ?_⟩) hparse _ rfl
    decide

end AppConfigFile

end KidProxy
