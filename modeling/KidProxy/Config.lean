import KidProxy.Transform
import Mathlib.Algebra.Group.Nat.Defs

/-!
# Config — the config file and what it compiles to

`AppConfigFile` is the content of `kidproxy.json`, `RuntimeConfig` what a running proxy works from.
Parsers of other crates are a parameter (`Net`), and so are the answers of the file system (`Fs`).
-/

namespace KidProxy

inductive HttpMode
  | auto
  | http1
  | http2
  deriving DecidableEq, Repr

inductive ResolvedHttpMode
  | auto
  | http1
  | http2
  deriving DecidableEq, Repr

/-! ### What other crates decide -/

/-- `url::Url` in its parts. -/
structure Url where
  scheme : String
  username : String
  password : Option String
  hostStr : Option String
  port : Option ℕ
  path : String
  query : Option String
  fragment : Option String
  deriving DecidableEq, Repr

def Url.portOrKnownDefault (url : Url) : Option ℕ :=
  match url.port with
  | some port => some port
  | none =>
    if url.scheme = "https" || url.scheme = "wss" then some 443
    else if url.scheme = "http" || url.scheme = "ws" then some 80
    else if url.scheme = "ftp" then some 21
    else none

/-- Socket addresses, domains, URLs and URIs as `std`, `url` and `rama` read and write them. -/
class Net where
  parseSocketAddr : String → Except String SocketAddr
  showSocketAddr : SocketAddr → String
  parseDomain : String → Except String String
  parseUrl : String → Except String Url
  setPath : Url → String → Url
  setQuery : Url → Option String → Url
  urlText : Url → String
  parseUri : String → Except String Uri

/-- The answers of the file system at one moment. -/
structure Fs where
  readToString : String → Except String String
  openFile : String → Except String Unit
  createDirAll : String → Except String Unit

/-- What a library call answers, with its own error text. -/
def external {α : Type} (message : String) : Except String α → Except AnyError α
  | .ok a => .ok a
  | .error err => .error ((AnyError.msg err).context message)

theorem external_eq_ok {α : Type} {message : String} {r : Except String α} {a : α} :
    external message r = .ok a ↔ r = .ok a := by
  cases r <;> simp [external]

/-! ### Header logging -/

/-- The sets of lower-case header names; membership is all that is asked of them. -/
structure HeaderLogPolicy where
  allowlist : List String
  denylist : List String
  deriving DecidableEq, Repr

def HeaderLogPolicy.allows (policy : HeaderLogPolicy) (headerName : String) : Bool :=
  let normalized := String.ofList (Text.asciiLower headerName.toList)
  if !policy.allowlist.isEmpty then policy.allowlist.contains normalized
  else !policy.denylist.contains normalized

def normalizeHeaderNames (values : List String) : List String :=
  (values.map fun value => String.ofList (Text.asciiLower (Text.trim value.toList))).filter
    fun value => !value.isEmpty

/-! ### The file -/

structure RuntimeSettingsFile where
  listenAddr : String
  frontendDomain : String
  backendUrl : String
  tlsCertPath : String
  tlsKeyPath : String
  sqlitePath : String
  caBundlePath : Option String
  upstreamSniOverride : Option String
  httpMode : HttpMode
  flushRows : ℕ
  flushIntervalMs : ℕ
  maxInflightEvents : ℕ
  bodyMaxBytes : ℕ
  connectTimeoutMs : ℕ
  requestTimeoutMs : ℕ
  idlePoolTimeoutMs : ℕ
  gracefulShutdownTimeoutMs : ℕ
  trustProxyHeaders : Bool
  emitKeylog : Bool
  headerAllowlist : List String
  headerDenylist : List String
  deriving DecidableEq, Repr

/-- The numbers are of their types, on a 64-bit target. -/
structure RuntimeSettingsFile.InRange (runtime : RuntimeSettingsFile) : Prop where
  flushRows : runtime.flushRows < 2 ^ 64
  flushIntervalMs : runtime.flushIntervalMs < 2 ^ 64
  maxInflightEvents : runtime.maxInflightEvents < 2 ^ 64
  bodyMaxBytes : runtime.bodyMaxBytes < 2 ^ 64
  connectTimeoutMs : runtime.connectTimeoutMs < 2 ^ 64
  requestTimeoutMs : runtime.requestTimeoutMs < 2 ^ 64
  idlePoolTimeoutMs : runtime.idlePoolTimeoutMs < 2 ^ 64
  gracefulShutdownTimeoutMs : runtime.gracefulShutdownTimeoutMs < 2 ^ 64

structure AppConfigFile where
  runtime : RuntimeSettingsFile
  transforms : List TransformRuleFile
  deriving DecidableEq, Repr

/-- `RuntimeSettingsFile::default`, whose numbers are also the defaults of omitted fields. -/
def RuntimeSettingsFile.default : RuntimeSettingsFile where
  listenAddr := "127.0.0.1:8443"
  frontendDomain := "example.test"
  backendUrl := "https://backend.example"
  tlsCertPath := "./certs/fullchain.pem"
  tlsKeyPath := "./certs/privkey.pem"
  sqlitePath := "./data/kidproxy.sqlite"
  caBundlePath := none
  upstreamSniOverride := none
  httpMode := .auto
  flushRows := 5000
  flushIntervalMs := 2000
  maxInflightEvents := 10000
  bodyMaxBytes := 65536
  connectTimeoutMs := 5000
  requestTimeoutMs := 180000
  idlePoolTimeoutMs := 90000
  gracefulShutdownTimeoutMs := 10000
  trustProxyHeaders := false
  emitKeylog := false
  headerAllowlist := []
  headerDenylist := []

/-- `serde_json::from_str` at `AppConfigFile`. -/
class ConfigJson where
  parse : String → Except String AppConfigFile

def AppConfigFile.loadJson [ConfigJson] (fs : Fs) (path : String) : Except AnyError AppConfigFile := do
  let contents ← external s!"read config {path}" (fs.readToString path)
  external s!"parse config {path}" (ConfigJson.parse contents)

/-! ### The runtime configuration -/

/-- Times are in milliseconds. -/
structure RuntimeConfig where
  listenAddr : SocketAddr
  frontendDomain : String
  backendUrl : Url
  backendHost : String
  backendPort : ℕ
  backendAuthority : String
  backendPathPrefix : String
  tlsCertPath : String
  tlsKeyPath : String
  sqlitePath : String
  caBundlePath : Option String
  upstreamSni : String
  httpMode : HttpMode
  flushRows : ℕ
  flushInterval : ℕ
  maxInflightEvents : ℕ
  bodyMaxBytes : ℕ
  connectTimeout : ℕ
  requestTimeout : ℕ
  idlePoolTimeout : ℕ
  gracefulShutdownTimeout : ℕ
  trustProxyHeaders : Bool
  emitKeylog : Bool
  headerLogPolicy : HeaderLogPolicy
  transforms : TransformConfig

def normalizeRequestPath (path : String) : String :=
  if path.isEmpty then "/" else if path.toList.head? = some '/' then path else "/" ++ path

def normalizeBackendPrefix (path : String) : String :=
  if path.isEmpty || path = "/" then "/" else normalizeRequestPath path

def normalizeDomain [Net] (raw : String) : Except AnyError String :=
  let trimmed := String.ofList (Text.trimEndBy (· = '.') (Text.trim raw.toList))
  if trimmed.isEmpty then .error (.msg "domain must not be empty")
  else do
    let domain ← external "domain must be a valid DNS name" (Net.parseDomain trimmed)
    return String.ofList (Text.asciiLower domain.toList)

def ensureReadableFile (fs : Fs) (path label : String) : Except AnyError Unit :=
  external s!"{label} path is not readable: {path}" (fs.openFile path)

def validatePositive (label : String) (value : ℕ) : Except AnyError Unit :=
  if value = 0 then .error (.msg s!"{label} must be greater than zero") else .ok ()

/-- A reversed path without trailing separators and `.` components. -/
def stripPathTail : List Char → List Char
  | '/' :: cs => stripPathTail cs
  | '.' :: '/' :: cs => stripPathTail cs
  | cs => cs

/-- `Path::parent`. -/
def pathParent (path : String) : Option String :=
  let stripped := stripPathTail path.toList.reverse
  if stripped.isEmpty then none
  else
    let parent := stripPathTail (stripped.dropWhile (· ≠ '/'))
    if parent.isEmpty && stripped.contains '/' then some "/" else some (String.ofList parent.reverse)

/-- What `PathBuf` compares of a path; an empty first piece is the root, and a `.` counts only there. -/
def pathComponents (path : String) : List (List Char) :=
  match path.toList.splitOn '/' with
  | [] => []
  | first :: rest =>
    (if first.isEmpty && rest.isEmpty then [] else [first]) ++
      rest.filter fun piece => !piece.isEmpty && piece ≠ ['.']

/-- What `==` compares of the settings: four paths, and the rest. -/
structure ComparedSettings where
  tlsCertPath : List (List Char)
  tlsKeyPath : List (List Char)
  sqlitePath : List (List Char)
  caBundlePath : Option (List (List Char))
  rest : RuntimeSettingsFile
  deriving DecidableEq

def RuntimeSettingsFile.compared (settings : RuntimeSettingsFile) : ComparedSettings where
  tlsCertPath := pathComponents settings.tlsCertPath
  tlsKeyPath := pathComponents settings.tlsKeyPath
  sqlitePath := pathComponents settings.sqlitePath
  caBundlePath := settings.caBundlePath.map pathComponents
  rest :=
    { settings with tlsCertPath := "", tlsKeyPath := "", sqlitePath := "", caBundlePath := none }

/-- `==` on `AppConfigFile`. -/
def AppConfigFile.Same (a b : AppConfigFile) : Prop :=
  a.runtime.compared = b.runtime.compared ∧ a.transforms = b.transforms

instance (a b : AppConfigFile) : Decidable (a.Same b) :=
  inferInstanceAs (Decidable (a.runtime.compared = b.runtime.compared ∧ a.transforms = b.transforms))

namespace AppConfigFile.Same

variable {a b c : AppConfigFile}

@[refl] theorem refl (a : AppConfigFile) : a.Same a := ⟨rfl, rfl⟩

theorem symm (h : a.Same b) : b.Same a := ⟨h.1.symm, h.2.symm⟩

theorem trans (h : a.Same b) (h' : b.Same c) : a.Same c := ⟨h.1.trans h'.1, h.2.trans h'.2⟩

end AppConfigFile.Same

/-- `RuntimeSettingsFile::to_runtime_config`. -/
def RuntimeSettingsFile.toRuntimeConfig [Net] [Glob] (fs : Fs) (settings : RuntimeSettingsFile)
    (transformRules : List TransformRuleFile) : Except AnyError RuntimeConfig := do
  let listenAddr ← external "invalid listen address" (Net.parseSocketAddr settings.listenAddr)
  let frontendDomain ← normalizeDomain settings.frontendDomain
  let backendUrl ← external "invalid backend URL" (Net.parseUrl settings.backendUrl)
  if backendUrl.scheme ≠ "https" then throw (AnyError.msg "backend URL must use https")
  let hostStr ← contextSome "backend URL must include a host" backendUrl.hostStr
  let backendHost := String.ofList (Text.asciiLower hostStr.toList)
  let backendPort ← contextSome "backend URL must include a known HTTPS port"
    backendUrl.portOrKnownDefault
  let backendAuthority := match backendUrl.port with
    | some port => s!"{backendHost}:{port}"
    | none => backendHost
  let backendPathPrefix := normalizeBackendPrefix backendUrl.path
  let upstreamSni ← match settings.upstreamSniOverride with
    | some value => normalizeDomain value
    | none => pure backendHost
  ensureReadableFile fs settings.tlsCertPath "TLS cert"
  ensureReadableFile fs settings.tlsKeyPath "TLS key"
  match settings.caBundlePath with
  | some path => ensureReadableFile fs path "CA bundle"
  | none => pure ()
  match pathParent settings.sqlitePath with
  | some parent =>
    if !parent.isEmpty then external s!"failed to create {parent}" (fs.createDirAll parent)
  | none => pure ()
  validatePositive "flush rows" settings.flushRows
  validatePositive "flush interval" settings.flushIntervalMs
  validatePositive "max inflight events" settings.maxInflightEvents
  validatePositive "body max bytes" settings.bodyMaxBytes
  validatePositive "connect timeout" settings.connectTimeoutMs
  validatePositive "request timeout" settings.requestTimeoutMs
  validatePositive "idle pool timeout" settings.idlePoolTimeoutMs
  validatePositive "graceful shutdown timeout" settings.gracefulShutdownTimeoutMs
  let transforms ← TransformConfig.compile transformRules
  return {
    listenAddr, frontendDomain, backendUrl, backendHost, backendPort, backendAuthority
    backendPathPrefix
    tlsCertPath := settings.tlsCertPath
    tlsKeyPath := settings.tlsKeyPath
    sqlitePath := settings.sqlitePath
    caBundlePath := settings.caBundlePath
    upstreamSni
    httpMode := settings.httpMode
    flushRows := settings.flushRows
    flushInterval := settings.flushIntervalMs
    maxInflightEvents := settings.maxInflightEvents
    bodyMaxBytes := settings.bodyMaxBytes
    connectTimeout := settings.connectTimeoutMs
    requestTimeout := settings.requestTimeoutMs
    idlePoolTimeout := settings.idlePoolTimeoutMs
    gracefulShutdownTimeout := settings.gracefulShutdownTimeoutMs
    trustProxyHeaders := settings.trustProxyHeaders
    emitKeylog := settings.emitKeylog
    headerLogPolicy := {
      allowlist := normalizeHeaderNames settings.headerAllowlist
      denylist := normalizeHeaderNames settings.headerDenylist }
    transforms }

def AppConfigFile.toRuntimeConfig [Net] [Glob] (fs : Fs) (config : AppConfigFile) :
    Except AnyError RuntimeConfig :=
  config.runtime.toRuntimeConfig fs config.transforms

/-- What an accepted file says of its backend. -/
structure RuntimeSettingsFile.AcceptedAs [Net] (settings : RuntimeSettingsFile) (cfg : RuntimeConfig) :
    Prop where
  parsed : Net.parseUrl settings.backendUrl = .ok cfg.backendUrl
  https : cfg.backendUrl.scheme = "https"
  host : cfg.backendUrl.hostStr.isSome
  pathPrefix : cfg.backendPathPrefix = normalizeBackendPrefix cfg.backendUrl.path
  sni : ∀ value, settings.upstreamSniOverride = some value → normalizeDomain value = .ok cfg.upstreamSni

theorem RuntimeSettingsFile.acceptedAs [Net] [Glob] {fs : Fs} {settings : RuntimeSettingsFile}
    {transformRules : List TransformRuleFile} :
    ∀ cfg, settings.toRuntimeConfig fs transformRules = .ok cfg → settings.AcceptedAs cfg := by
  unfold toRuntimeConfig
  refine forall_bind_ok fun listenAddr _ => forall_bind_ok fun frontendDomain _ =>
    forall_bind_ok fun backendUrl hurl => ?_
  extract_lets backendPathPrefix build
  by_cases hscheme : backendUrl.scheme = "https"
  · rw [if_neg (not_not_intro hscheme)]
    refine forall_bind_ok fun hostStr hhost => forall_bind_ok fun backendPort _ => ?_
    extract_lets backendAuthority finish
    -- the checks that follow end in the record, on every way through them
    have hfinish : ∀ sni, (∀ value, settings.upstreamSniOverride = some value →
        normalizeDomain value = .ok sni) → ∀ cfg, finish sni = .ok cfg → settings.AcceptedAs cfg := by
      intro sni hsni
      refine forall_bind_ok fun _ _ => forall_bind_ok fun _ _ => ?_
      extract_lets record parents
      have hrecord : ∀ u, ∀ cfg, record u = .ok cfg → settings.AcceptedAs cfg := by
        intro u
        refine forall_bind_ok fun _ _ => forall_bind_ok fun _ _ => forall_bind_ok fun _ _ =>
          forall_bind_ok fun _ _ => forall_bind_ok fun _ _ => forall_bind_ok fun _ _ =>
          forall_bind_ok fun _ _ => forall_bind_ok fun _ _ => forall_bind_ok fun transforms _ => ?_
        intro cfg hcfg
        obtain rfl := Except.ok.inj hcfg
        refine ⟨external_eq_ok.mp hurl, hscheme, ?_, rfl, hsni⟩
        show backendUrl.hostStr.isSome = true
        rw [contextSome_eq_ok.mp hhost]
        rfl
      have hparents : ∀ u, ∀ cfg, parents u = .ok cfg → settings.AcceptedAs cfg := by
        intro u
        dsimp only [parents]
        split
        · split
          · exact forall_bind_ok fun u _ => hrecord u
          · exact hrecord ()
        · exact hrecord ()
      split
      · exact forall_bind_ok fun u _ => hparents u
      · exact hparents ()
    split
    · next value hover =>
      refine forall_bind_ok fun sni hsni => hfinish sni fun v hv => ?_
      obtain rfl := Option.some.inj (hover.symm.trans hv)
      exact hsni
    · next hover =>
      refine forall_bind_ok fun sni _ => hfinish sni fun v hv => ?_
      exact absurd (hover.symm.trans hv) nofun
  · rw [if_pos hscheme]
    exact forall_bind_ok fun _ hthrow => absurd hthrow nofun

namespace RuntimeConfig

def resolvedHttpMode (cfg : RuntimeConfig) (backendSupportsH2 : Option Bool) : ResolvedHttpMode :=
  match cfg.httpMode with
  | .http1 => .http1
  | .http2 => .http2
  | .auto => if backendSupportsH2 = some false then .http1 else .auto

def buildBackendUri [Net] (cfg : RuntimeConfig) (path : String) (query : Option String) :
    Except AnyError Uri :=
  let combinedPath :=
    if cfg.backendPathPrefix = "/" then normalizeRequestPath path
    else String.ofList (Text.trimEndBy (· = '/') cfg.backendPathPrefix.toList) ++
      normalizeRequestPath path
  let url := { Net.setQuery (Net.setPath cfg.backendUrl combinedPath) query with fragment := none }
  external s!"failed to build upstream URI from {Net.urlText url}" (Net.parseUri (Net.urlText url))

end RuntimeConfig

example : pathParent "./data/kidproxy.sqlite" = some "./data" := by decide

/-! ### The default file -/

/-- The parsers on the texts of the default file. -/
@[reducible] def sampleNet : Net where
  parseSocketAddr s :=
    if s = "127.0.0.1:8443" then .ok ⟨"127.0.0.1", 8443⟩ else .error "invalid socket address syntax"
  showSocketAddr addr := s!"{addr.ip}:{addr.port}"
  parseDomain s := .ok s
  parseUrl s :=
    if s = "https://backend.example" then
      .ok ⟨"https", "", none, some "backend.example", none, "/", none, none⟩
    else .error "relative URL without a base"
  setPath url path := { url with path }
  setQuery url query := { url with query }
  urlText url :=
    let query := match url.query with
      | some query => "?" ++ query
      | none => ""
    url.scheme ++ "://" ++ url.hostStr.getD "" ++ url.path ++ query
  parseUri s := .ok ⟨some "https", some "backend.example",
    some (String.ofList ((s.toList.drop "https://backend.example".length).takeWhile (· ≠ '?'))), none⟩

/-- Patterns without a wildcard. -/
@[reducible] def sampleGlob : Glob where
  new pattern := .ok ⟨pattern⟩
  isMatch pattern text := pattern.original = text

def sampleFs : Fs where
  readToString _ := .error "No such file or directory (os error 2)"
  openFile _ := .ok ()
  createDirAll _ := .ok ()

def sampleConfig : RuntimeConfig where
  listenAddr := ⟨"127.0.0.1", 8443⟩
  frontendDomain := "example.test"
  backendUrl := ⟨"https", "", none, some "backend.example", none, "/", none, none⟩
  backendHost := "backend.example"
  backendPort := 443
  backendAuthority := "backend.example"
  backendPathPrefix := "/"
  tlsCertPath := "./certs/fullchain.pem"
  tlsKeyPath := "./certs/privkey.pem"
  sqlitePath := "./data/kidproxy.sqlite"
  caBundlePath := none
  upstreamSni := "backend.example"
  httpMode := .auto
  flushRows := 5000
  flushInterval := 2000
  maxInflightEvents := 10000
  bodyMaxBytes := 65536
  connectTimeout := 5000
  requestTimeout := 180000
  idlePoolTimeout := 90000
  gracefulShutdownTimeout := 10000
  trustProxyHeaders := false
  emitKeylog := false
  headerLogPolicy := ⟨[], []⟩
  transforms := ⟨[]⟩

theorem toRuntimeConfig_default :
    @AppConfigFile.toRuntimeConfig sampleNet sampleGlob sampleFs ⟨.default, []⟩ = .ok sampleConfig :=
  rfl

end KidProxy
