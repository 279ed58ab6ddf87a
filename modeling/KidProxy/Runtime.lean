import KidProxy.Writer

/-!
# Runtime — starting and stopping one runtime

`startActiveRuntime` probes the backend, starts the writer, builds the proxy and spawns its task; what
the environment answers to each of these steps is a `StartEnv`.  The listener is bound inside the
task, so the outcome of the bind is part of the task, not of the result.  The channel of the writer is
the one step that can panic.
-/

namespace KidProxy

/-- What the environment answers while a runtime starts. -/
structure StartEnv where
  fs : Fs
  /-- Whether the probed backend speaks HTTP/2. -/
  probe : RuntimeConfig → Except AnyError Bool
  /-- The database at a connection URL. -/
  connect : String → Except String Unit
  migrate : String → Except String Unit
  /-- The rows that the database holds after the migration. -/
  stored : String → List ActiveModel
  buildFrontendTls : RuntimeConfig → ResolvedHttpMode → Except AnyError Unit
  buildUpstreamClient : RuntimeConfig → ResolvedHttpMode → Except AnyError Unit
  bind : SocketAddr → Except String Unit

structure BackendProbe where
  supportsH2 : Option Bool
  deriving DecidableEq, Repr

def BackendProbe.fallback : BackendProbe := ⟨none⟩

/-! ### The writer -/

/-- `Path::new(":memory:")`; a trailing separator does not make another path. -/
def isMemoryPath (path : String) : Bool := stripPathTail path.toList.reverse = ":memory:".toList.reverse

def ensureSqliteParentDir (fs : Fs) (path : String) : Except AnyError Unit :=
  if isMemoryPath path then .ok ()
  else match pathParent path with
    | some parent => external s!"create SQLite parent dir {parent}" (fs.createDirAll parent)
    | none => .ok ()

def sqliteConnectionUrl (path : String) : String :=
  if isMemoryPath path then "sqlite::memory:"
  else
    let encodedPath := String.ofList (Replace.replaceAll [' '] "%20".toList path.toList)
    s!"sqlite://{encodedPath}?mode=rwc"

/-- The capacities at which `mpsc::channel` does not panic; the limit is `Semaphore::MAX_PERMITS`. -/
def MpscCapacity (capacity : ℕ) : Prop := 0 < capacity ∧ capacity ≤ (2 ^ 64 - 1) / 8

instance (capacity : ℕ) : Decidable (MpscCapacity capacity) :=
  inferInstanceAs (Decidable (0 < capacity ∧ capacity ≤ (2 ^ 64 - 1) / 8))

/-- The handle of the writer of a configuration.  It exists only where its channel could be made. -/
structure SqliteWriterHandle (cfg : RuntimeConfig) where
  writer : Writer
  capacity : MpscCapacity cfg.maxInflightEvents

def mpscChannel (cfg : RuntimeConfig) (stored : List ActiveModel) :
    Except Fault (SqliteWriterHandle cfg) :=
  if h : MpscCapacity cfg.maxInflightEvents then .ok ⟨.spawn cfg stored, h⟩
  else if cfg.maxInflightEvents = 0 then
    .error (.panicked "mpsc bounded channel requires buffer > 0")
  else .error (.panicked
    s!"a semaphore may not have more than MAX_PERMITS permits ({(2 ^ 64 - 1) / 8})")

def spawnWriter (env : StartEnv) (cfg : RuntimeConfig) : Except Fault (SqliteWriterHandle cfg) := do
  returning (ensureSqliteParentDir env.fs cfg.sqlitePath)
  let url := sqliteConnectionUrl cfg.sqlitePath
  returning (external s!"connect SQLite database {cfg.sqlitePath}" (env.connect url))
  returning (external "run SQLite migrations" (env.migrate url))
  mpscChannel cfg (env.stored url)

/-! ### The proxy -/

/-- What the spawned task comes to: it serves an address, or has ended with an error. -/
inductive ProxyTask
  | serving (addr : SocketAddr)
  | failed (err : AnyError)
  deriving DecidableEq, Repr

structure ProxyHandle where
  task : ProxyTask
  deriving DecidableEq, Repr

structure ProxyApp where
  cfg : RuntimeConfig
  httpMode : ResolvedHttpMode

/-- `ProxyApp::new`. -/
def ProxyApp.new (env : StartEnv) (cfg : RuntimeConfig) (probe : BackendProbe) :
    Except AnyError ProxyApp := do
  let httpMode := cfg.resolvedHttpMode probe.supportsH2
  env.buildFrontendTls cfg httpMode
  env.buildUpstreamClient cfg httpMode
  return { cfg, httpMode }

/-- The first step of the spawned task is to bind the listener. -/
def spawnedTask (env : StartEnv) (cfg : RuntimeConfig) : ProxyTask :=
  match env.bind cfg.listenAddr with
  | .ok () => .serving cfg.listenAddr
  | .error err => .failed (.msg s!"bind frontend TCP listener: {err}")

/-- `ProxyApp::start` spawns the task and does not wait for it. -/
def ProxyApp.start (env : StartEnv) (app : ProxyApp) : Except AnyError ProxyHandle :=
  .ok ⟨spawnedTask env app.cfg⟩

structure ActiveRuntime where
  appConfig : AppConfigFile
  runtime : RuntimeConfig
  writer : SqliteWriterHandle runtime
  handle : ProxyHandle

def probeOrFallback (env : StartEnv) (runtime : RuntimeConfig) : BackendProbe :=
  match env.probe runtime with
  | .ok supportsH2 => ⟨some supportsH2⟩
  | .error _ => .fallback

def startActiveRuntime (env : StartEnv) (appConfig : AppConfigFile) (runtime : RuntimeConfig) :
    Except Fault ActiveRuntime := do
  let probe := probeOrFallback env runtime
  let writer ←
    (spawnWriter env runtime).mapError (Fault.context "failed to start SQLite writer")
  let proxy ← returning (context "failed to initialize proxy app" (ProxyApp.new env runtime probe))
  let handle ← returning (context "failed to start proxy app" (proxy.start env))
  return { appConfig, runtime, writer, handle }

/-! ### Stopping -/

/-- How an awaited task ended. -/
inductive JoinOutcome
  | returned (result : Except AnyError Unit)
  | cancelled
  | panicked (text : String)

/-- How a serving task takes the stop signal: what it came to within five seconds, and else after it
was aborted. -/
structure StopEnv where
  inTime : Option JoinOutcome
  afterAbort : JoinOutcome

/-- `ProxyHandle::shutdown`; a task that has failed before is joined at once. -/
def ProxyHandle.shutdown (env : StopEnv) (handle : ProxyHandle) : Except AnyError Unit :=
  let inTime : Option JoinOutcome := match handle.task with
    | .failed err => some (.returned (.error err))
    | .serving _ => env.inTime
  match inTime with
  | some (.returned result) => result
  | some .cancelled => .error (.msg "proxy task join failure: task was cancelled")
  | some (.panicked text) => .error (.msg s!"proxy task join failure: {text}")
  | none =>
    match env.afterAbort with
    | .returned result => result
    | .cancelled => .ok ()
    | .panicked text => .error (.msg s!"proxy task abort failure: {text}")

/-- `shutdown_active_runtime`; the shutdown of the writer itself does not fail. -/
def shutdownActiveRuntime (env : StopEnv) (active : ActiveRuntime) : Except AnyError Unit :=
  active.handle.shutdown env

/-- The loop of `wait_for_listener_release`: `attempt` numbers the tries to bind, and after `tries`
more of them the deadline has passed. -/
def waitForRelease (addr : String) (bind : ℕ → Except String Unit) : ℕ → ℕ → Except AnyError Unit
  | tries, attempt =>
    match bind attempt with
    | .ok () => .ok ()
    | .error err =>
      match tries with
      | 0 => .error (.msg s!"listener {addr} did not shut down cleanly: {err}")
      | tries + 1 => waitForRelease addr bind tries (attempt + 1)

def waitForListenerRelease [Net] (addr : SocketAddr) (bind : ℕ → Except String Unit) (tries : ℕ) :
    Except AnyError Unit := waitForRelease (Net.showSocketAddr addr) bind tries 0

/-! ### What a start and a stop come to -/

/-- The waiting ends well exactly when one of the tries up to the deadline can bind. -/
theorem waitForRelease_eq_ok {addr : String} {bind : ℕ → Except String Unit} {tries attempt : ℕ} :
    waitForRelease addr bind tries attempt = .ok () ↔
      ∃ i, attempt ≤ i ∧ i ≤ attempt + tries ∧ bind i = .ok () := by
  induction tries generalizing attempt with
  | zero =>
    unfold waitForRelease
    cases hb : bind attempt with
    | ok u => exact ⟨fun _ => ⟨attempt, Nat.le_refl _, Nat.le_refl _, hb⟩, fun _ => rfl⟩
    | error err =>
      refine ⟨fun h => (nomatch h), fun ⟨i, hle, hge, hi⟩ => ?_⟩
      obtain rfl : i = attempt := by omega
      rw [hb] at hi
      cases hi
  | succ tries ih =>
    unfold waitForRelease
    cases hb : bind attempt with
    | ok u => exact ⟨fun _ => ⟨attempt, Nat.le_refl _, Nat.le_add_right _ _, hb⟩, fun _ => rfl⟩
    | error err =>
      dsimp only
      rw [ih]
      constructor
      · rintro ⟨i, hle, hge, hi⟩
        exact ⟨i, by omega, by omega, hi⟩
      · rintro ⟨i, hle, hge, hi⟩
        have hne : i ≠ attempt := fun heq => by
          rw [heq, hb] at hi
          cases hi
        exact ⟨i, by omega, by omega, hi⟩

/-- The database of a runtime can be opened. -/
structure DatabaseReady (env : StartEnv) (runtime : RuntimeConfig) : Prop where
  parentDir : ensureSqliteParentDir env.fs runtime.sqlitePath = .ok ()
  connect : env.connect (sqliteConnectionUrl runtime.sqlitePath) = .ok ()
  migrate : env.migrate (sqliteConnectionUrl runtime.sqlitePath) = .ok ()

/-- Every step of a start before the task is spawned succeeds. -/
structure Prepared (env : StartEnv) (runtime : RuntimeConfig) : Prop extends
    DatabaseReady env runtime where
  capacity : MpscCapacity runtime.maxInflightEvents
  frontendTls : env.buildFrontendTls runtime
    (runtime.resolvedHttpMode (probeOrFallback env runtime).supportsH2) = .ok ()
  upstreamClient : env.buildUpstreamClient runtime
    (runtime.resolvedHttpMode (probeOrFallback env runtime).supportsH2) = .ok ()

/-- The runtime that such a start comes to. -/
def Prepared.active {env : StartEnv} {runtime : RuntimeConfig} (hp : Prepared env runtime)
    (appConfig : AppConfigFile) : ActiveRuntime :=
  ⟨appConfig, runtime,
    ⟨.spawn runtime (env.stored (sqliteConnectionUrl runtime.sqlitePath)), hp.capacity⟩,
    ⟨spawnedTask env runtime⟩⟩

/-- The start gets as far as the channel of the writer, whose capacity is out of bounds. -/
structure StartPanics (env : StartEnv) (runtime : RuntimeConfig) : Prop extends
    DatabaseReady env runtime where
  capacity : ¬ MpscCapacity runtime.maxInflightEvents

theorem mpscChannel_eq_ok {cfg : RuntimeConfig} {stored : List ActiveModel}
    {handle : SqliteWriterHandle cfg} :
    mpscChannel cfg stored = .ok handle ↔ ∃ h, handle = ⟨.spawn cfg stored, h⟩ := by
  unfold mpscChannel
  split_ifs with h hz <;> simp [h, eq_comm]

theorem mpscChannel_panicked {cfg : RuntimeConfig} {stored : List ActiveModel} :
    (∃ text, mpscChannel cfg stored = .error (.panicked text)) ↔ ¬ MpscCapacity cfg.maxInflightEvents := by
  unfold mpscChannel
  split_ifs with h hz <;> simp [h]

theorem spawnWriter_eq_ok {env : StartEnv} {cfg : RuntimeConfig} {handle : SqliteWriterHandle cfg} :
    spawnWriter env cfg = .ok handle ↔
      DatabaseReady env cfg ∧ ∃ h,
        handle = ⟨.spawn cfg (env.stored (sqliteConnectionUrl cfg.sqlitePath)), h⟩ := by
  unfold spawnWriter
  constructor
  · intro h
    obtain ⟨⟨⟩, hdir, h⟩ := bind_eq_ok.mp h
    obtain ⟨⟨⟩, hconnect, h⟩ := bind_eq_ok.mp h
    obtain ⟨⟨⟩, hmigrate, h⟩ := bind_eq_ok.mp h
    exact ⟨⟨returning_eq_ok.mp hdir, external_eq_ok.mp (returning_eq_ok.mp hconnect),
      external_eq_ok.mp (returning_eq_ok.mp hmigrate)⟩, mpscChannel_eq_ok.mp h⟩
  · rintro ⟨hdb, hhandle⟩
    exact bind_eq_ok.mpr ⟨(), returning_eq_ok.mpr hdb.parentDir, bind_eq_ok.mpr
      ⟨(), returning_eq_ok.mpr (external_eq_ok.mpr hdb.connect), bind_eq_ok.mpr
        ⟨(), returning_eq_ok.mpr (external_eq_ok.mpr hdb.migrate), mpscChannel_eq_ok.mpr hhandle⟩⟩⟩

theorem spawnWriter_panicked {env : StartEnv} {cfg : RuntimeConfig} :
    (∃ text, spawnWriter env cfg = .error (.panicked text)) ↔ StartPanics env cfg := by
  unfold spawnWriter
  constructor
  · rintro ⟨text, h⟩
    obtain ⟨⟨⟩, hdir, h⟩ := (bind_eq_error.mp h).resolve_left returning_ne_panicked
    obtain ⟨⟨⟩, hconnect, h⟩ := (bind_eq_error.mp h).resolve_left returning_ne_panicked
    obtain ⟨⟨⟩, hmigrate, h⟩ := (bind_eq_error.mp h).resolve_left returning_ne_panicked
    exact ⟨⟨returning_eq_ok.mp hdir, external_eq_ok.mp (returning_eq_ok.mp hconnect),
      external_eq_ok.mp (returning_eq_ok.mp hmigrate)⟩, mpscChannel_panicked.mp ⟨text, h⟩⟩
  · rintro ⟨hdb, hcapacity⟩
    obtain ⟨text, h⟩ := mpscChannel_panicked.mpr hcapacity
    exact ⟨text, bind_eq_error.mpr (.inr ⟨(), returning_eq_ok.mpr hdb.parentDir, bind_eq_error.mpr
      (.inr ⟨(), returning_eq_ok.mpr (external_eq_ok.mpr hdb.connect), bind_eq_error.mpr
        (.inr ⟨(), returning_eq_ok.mpr (external_eq_ok.mpr hdb.migrate), h⟩)⟩)⟩)⟩

theorem ProxyApp.new_eq_ok {env : StartEnv} {cfg : RuntimeConfig} {probe : BackendProbe}
    {app : ProxyApp} : ProxyApp.new env cfg probe = .ok app ↔
      env.buildFrontendTls cfg (cfg.resolvedHttpMode probe.supportsH2) = .ok () ∧
        env.buildUpstreamClient cfg (cfg.resolvedHttpMode probe.supportsH2) = .ok () ∧
        app = ⟨cfg, cfg.resolvedHttpMode probe.supportsH2⟩ := by
  unfold ProxyApp.new
  constructor
  · intro h
    obtain ⟨⟨⟩, htls, h⟩ := bind_eq_ok.mp h
    obtain ⟨⟨⟩, hclient, h⟩ := bind_eq_ok.mp h
    exact ⟨htls, hclient, (Except.ok.inj h).symm⟩
  · rintro ⟨htls, hclient, rfl⟩
    exact bind_eq_ok.mpr ⟨(), htls, bind_eq_ok.mpr ⟨(), hclient, rfl⟩⟩

/-- **A start succeeds** exactly when the steps before the spawn do; the bind plays no part. -/
theorem startActiveRuntime_eq_ok {env : StartEnv} {appConfig : AppConfigFile}
    {runtime : RuntimeConfig} {active : ActiveRuntime} :
    startActiveRuntime env appConfig runtime = .ok active ↔
      ∃ hp : Prepared env runtime, active = hp.active appConfig := by
  unfold startActiveRuntime
  constructor
  · intro h
    obtain ⟨writer, hwriter, h⟩ := bind_eq_ok.mp h
    obtain ⟨app, happ, h⟩ := bind_eq_ok.mp h
    obtain ⟨handle, hstart, h⟩ := bind_eq_ok.mp h
    obtain ⟨hdb, hcapacity, rfl⟩ := spawnWriter_eq_ok.mp (mapError_context_eq_ok.mp hwriter)
    obtain ⟨htls, hclient, rfl⟩ := ProxyApp.new_eq_ok.mp (context_eq_ok.mp (returning_eq_ok.mp happ))
    obtain rfl := Except.ok.inj (context_eq_ok.mp (returning_eq_ok.mp hstart))
    exact ⟨⟨hdb, hcapacity, htls, hclient⟩, (Except.ok.inj h).symm⟩
  · rintro ⟨hp, rfl⟩
    have hwriter := spawnWriter_eq_ok.mpr ⟨hp.toDatabaseReady, hp.capacity, rfl⟩
    have happ := ProxyApp.new_eq_ok.mpr ⟨hp.frontendTls, hp.upstreamClient, rfl⟩
    exact bind_eq_ok.mpr ⟨_, mapError_context_eq_ok.mpr hwriter, bind_eq_ok.mpr
      ⟨_, returning_eq_ok.mpr (context_eq_ok.mpr happ), bind_eq_ok.mpr
        ⟨_, returning_eq_ok.mpr (context_eq_ok.mpr rfl), rfl⟩⟩⟩

theorem startActiveRuntime_panicked {env : StartEnv} {appConfig : AppConfigFile}
    {runtime : RuntimeConfig} :
    (∃ text, startActiveRuntime env appConfig runtime = .error (.panicked text)) ↔
      StartPanics env runtime := by
  unfold startActiveRuntime
  rw [← spawnWriter_panicked]
  constructor
  · rintro ⟨text, h⟩
    refine ⟨text, ?_⟩
    rcases bind_eq_error.mp h with hw | ⟨writer, -, h⟩
    · exact mapError_context_eq_panicked.mp hw
    · -- nothing after the writer panics
      obtain ⟨app, -, h⟩ := (bind_eq_error.mp h).resolve_left returning_ne_panicked
      obtain ⟨handle, -, h⟩ := (bind_eq_error.mp h).resolve_left returning_ne_panicked
      cases h
  · rintro ⟨text, h⟩
    exact ⟨text, bind_eq_error.mpr (.inl (mapError_context_eq_panicked.mpr h))⟩

/-- The three ways a start ends. -/
theorem startActiveRuntime_cases (env : StartEnv) (appConfig : AppConfigFile)
    (runtime : RuntimeConfig) :
    (∃ hp : Prepared env runtime,
      startActiveRuntime env appConfig runtime = .ok (hp.active appConfig)) ∨
    (StartPanics env runtime ∧
      ∃ text, startActiveRuntime env appConfig runtime = .error (.panicked text)) ∨
    ¬ Prepared env runtime ∧ ¬ StartPanics env runtime ∧
      ∃ err, startActiveRuntime env appConfig runtime = .error (.error err) := by
  rcases h : startActiveRuntime env appConfig runtime with (err | text) | active
  · refine .inr (.inr ⟨fun hp => ?_, fun hn => ?_, err, rfl⟩)
    · have hok := (@startActiveRuntime_eq_ok env appConfig runtime _).mpr ⟨hp, rfl⟩
      rw [h] at hok
      cases hok
    · obtain ⟨text, ht⟩ := (@startActiveRuntime_panicked env appConfig runtime).mpr hn
      rw [h] at ht
      cases ht
  · exact .inr (.inl ⟨startActiveRuntime_panicked.mp ⟨text, h⟩, text, rfl⟩)
  · obtain ⟨hp, rfl⟩ := startActiveRuntime_eq_ok.mp h
    exact .inl ⟨hp, rfl⟩

end KidProxy
