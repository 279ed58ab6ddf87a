import KidProxy.Runtime

/-!
# RuntimeManager — the active runtime and its reload

The controller owns the active runtime, the snapshot is what the admin pages read.  `reload` takes the
runtime out, stops it and starts the one of the config file.  No section that holds a lock can panic,
so the errors of poisoned locks are left out.
-/

namespace KidProxy

structure RuntimeSummary where
  listenAddr : String
  frontendDomain : String
  backendUrl : String
  sqlitePath : String
  transformCount : ℕ
  httpMode : String
  droppedEvents : ℕ
  writeFailures : ℕ
  deriving DecidableEq, Repr

structure RuntimeManagerState where
  configPath : String
  savedConfig : AppConfigFile
  activeRuntime : RuntimeSummary
  pendingReload : Bool
  lastReloadError : Option String
  deriving DecidableEq, Repr

/-- The controller, with its config path and the active runtime, and the snapshot. -/
structure RuntimeManager where
  configPath : String
  active : Option ActiveRuntime
  snapshot : RuntimeManagerState

/-- What the environment answers during one reload. -/
structure ReloadEnv where
  fs : Fs
  stop : StopEnv
  /-- The tries of `wait_for_listener_release` to bind the old address. -/
  release : ℕ → Except String Unit
  /-- How many of these tries come before the deadline. -/
  tries : ℕ
  start : StartEnv
  restart : StartEnv
  /-- The text of the `JoinError` of a task that panicked with a message. -/
  joinError : String → String

/-- What a reload returns and leaves behind. -/
structure ReloadOutcome where
  result : Except AnyError RuntimeManagerState
  manager : RuntimeManager
  /-- Ghost: what the shutdown of the previous runtime came to, where it was tried. -/
  stopped : Option (Except AnyError Unit)
  /-- Ghost: what the restart of the previous runtime came to, where it was tried. -/
  restarted : Option (Except Fault ActiveRuntime)

/-- The lower-case debug text. -/
def HttpMode.text : HttpMode → String
  | .auto => "auto"
  | .http1 => "http1"
  | .http2 => "http2"

section Manager

variable [Net]

def runtimeSummary (active : ActiveRuntime) : RuntimeSummary where
  listenAddr := Net.showSocketAddr active.runtime.listenAddr
  frontendDomain := active.runtime.frontendDomain
  backendUrl := Net.urlText active.runtime.backendUrl
  sqlitePath := active.runtime.sqlitePath
  transformCount := active.appConfig.transforms.length
  httpMode := active.runtime.httpMode.text
  droppedEvents := active.writer.writer.droppedEvents
  writeFailures := active.writer.writer.writeFailures

namespace RuntimeManager

/-- The success branch of `reload_inner`. -/
def installNew (m : RuntimeManager) (savedConfig : AppConfigFile) (active : ActiveRuntime)
    (stopped : Except AnyError Unit) : ReloadOutcome :=
  let snapshot := { m.snapshot with
    savedConfig
    activeRuntime := runtimeSummary active
    pendingReload := false
    lastReloadError := none }
  ⟨.ok snapshot, { m with active := some active, snapshot }, some stopped, none⟩

/-- A reload whose task panicked while the controller was without a runtime. -/
def joinFailure (m : RuntimeManager) (env : ReloadEnv) (text : String) (stopped : Except AnyError Unit)
    (restarted : Option (Except Fault ActiveRuntime)) : ReloadOutcome :=
  ⟨.error (.msg s!"runtime reload task join failure: {env.joinError text}"),
    { m with active := none }, some stopped, restarted⟩

/-- Its fallback branch: the previous runtime is started again. -/
def restartPrevious (m : RuntimeManager) (env : ReloadEnv) (previous : ActiveRuntime) (err : AnyError)
    (stopped : Except AnyError Unit) : ReloadOutcome :=
  match startActiveRuntime env.restart previous.appConfig previous.runtime with
  | .ok active =>
    let snapshot := { m.snapshot with
      lastReloadError := some err.message
      pendingReload := true }
    ⟨.error err, { m with active := some active, snapshot }, some stopped, some (.ok active)⟩
  | .error (.error restartErr) =>
    let message := s!"reload failed: {err.message}; fallback restart failed: {restartErr.message}"
    let snapshot := { m.snapshot with lastReloadError := some message }
    ⟨.error (.msg message), { m with active := none, snapshot }, some stopped,
      some (.error (.error restartErr))⟩
  | .error (.panicked text) =>
    m.joinFailure env text stopped (some (.error (.panicked text)))

/-- The start of the new runtime, after the old one was stopped. -/
def startNew (m : RuntimeManager) (env : ReloadEnv) (previous : ActiveRuntime)
    (savedConfig : AppConfigFile) (newRuntime : RuntimeConfig) (stopped : Except AnyError Unit) :
    ReloadOutcome :=
  match startActiveRuntime env.start savedConfig newRuntime with
  | .ok active => m.installNew savedConfig active stopped
  | .error (.error err) => m.restartPrevious env previous err stopped
  | .error (.panicked text) => m.joinFailure env text stopped none

/-- `RuntimeManager::reload`, which runs `reload_inner` in a task of its own.  The active runtime is
taken out first. -/
def reload [Glob] [ConfigJson] (m : RuntimeManager) (env : ReloadEnv) : ReloadOutcome :=
  match m.active with
  | none =>
    ⟨.error (.msg "runtime manager missing active runtime during reload"), m, none, none⟩
  | some previous =>
    match AppConfigFile.loadJson env.fs m.configPath with
    | .error err => ⟨.error err, { m with active := none }, none, none⟩
    | .ok savedConfig =>
      match savedConfig.toRuntimeConfig env.fs with
      | .error err => ⟨.error err, { m with active := none }, none, none⟩
      | .ok newRuntime =>
        -- an error of the shutdown is only logged
        let stopped := shutdownActiveRuntime env.stop previous
        match waitForListenerRelease previous.runtime.listenAddr env.release env.tries with
        | .error err => ⟨.error err, { m with active := none }, some stopped, none⟩
        | .ok () => m.startNew env previous savedConfig newRuntime stopped

end RuntimeManager

end Manager

/-! ### A sample controller -/

/-- The five settings that have no default. -/
def sampleDocument : String :=
  "\x7b\"runtime\": \x7b\"listen_addr\": \"127.0.0.1:8443\", \"frontend_domain\": \"example.test\", " ++
    "\"backend_url\": \"https://backend.example\", \"tls_cert_path\": \"./certs/fullchain.pem\", " ++
    "\"tls_key_path\": \"./certs/privkey.pem\"\x7d\x7d"

@[reducible] def sampleJson : ConfigJson where
  parse s :=
    if s = sampleDocument then .ok ⟨.default, []⟩ else .error "expected value at line 1 column 1"

/-- The file system with that document in place of the missing config file. -/
def sampleFsConfig : Fs := { sampleFs with readToString := fun _ => .ok sampleDocument }

theorem loadJson_sample : @AppConfigFile.loadJson sampleJson sampleFsConfig "kidproxy.json" =
    .ok ⟨.default, []⟩ := by
  have hparse : @ConfigJson.parse sampleJson sampleDocument = .ok ⟨.default, []⟩ := if_pos rfl
  exact bind_eq_ok.mpr ⟨sampleDocument, rfl, external_eq_ok.mpr hparse⟩

theorem toRuntimeConfig_sample :
    @AppConfigFile.toRuntimeConfig sampleNet sampleGlob sampleFsConfig ⟨.default, []⟩ =
      .ok sampleConfig := rfl

/-- The configuration that runs before the reload; it listens on another port. -/
def samplePrevious : ActiveRuntime where
  appConfig := ⟨{ RuntimeSettingsFile.default with listenAddr := "127.0.0.1:9443" }, []⟩
  runtime := { sampleConfig with listenAddr := ⟨"127.0.0.1", 9443⟩ }
  writer := ⟨.spawn { sampleConfig with listenAddr := ⟨"127.0.0.1", 9443⟩ } [], by decide⟩
  handle := ⟨.serving ⟨"127.0.0.1", 9443⟩⟩

def sampleManager : RuntimeManager where
  configPath := "kidproxy.json"
  active := some samplePrevious
  snapshot := {
    configPath := "kidproxy.json"
    savedConfig := samplePrevious.appConfig
    activeRuntime := @runtimeSummary sampleNet samplePrevious
    pendingReload := false
    lastReloadError := none }

/-- An environment in which every step but the two named ones succeeds. -/
def sampleStartEnv (frontendTls : Except AnyError Unit) (bind : Except String Unit) : StartEnv where
  fs := sampleFs
  probe _ := .ok true
  connect _ := .ok ()
  migrate _ := .ok ()
  stored _ := []
  buildFrontendTls _ _ := frontendTls
  buildUpstreamClient _ _ := .ok ()
  bind _ := bind

/-- The old listener is released at once, and the restart goes well. -/
def sampleReloadEnv (fs : Fs) (start : StartEnv) : ReloadEnv where
  fs := fs
  stop := ⟨some (.returned (.ok ())), .cancelled⟩
  release _ := .ok ()
  tries := 200
  start := start
  restart := sampleStartEnv (.ok ()) (.ok ())
  joinError message := s!"task 7 panicked with message \"{message}\""

end KidProxy
