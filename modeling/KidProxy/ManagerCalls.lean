import KidProxy.Lib.Pool
import KidProxy.Lib.Run
import KidProxy.RuntimeManager

/-!
# ManagerCalls — concurrent calls on the runtime manager

`save_config`, `reload` and `shutdown` as steps: each section that holds a lock, each read and each
write of the config file, and each wait for something else is one step.  `ManagerCalls` is the manager
with all calls made on it.  A call that is alone does what `RuntimeManager.saveConfig` and
`RuntimeManager.reload` say in one piece (`save_alone`, `reload_alone`).
-/

namespace KidProxy

open Transition

/-! ### The config file -/

/-- `serde_json` at `AppConfigFile`, with `to_string_pretty`. -/
class ConfigText extends ConfigJson where
  print : AppConfigFile → Except String String

/-- What a write of the config file comes to; one that fails may leave anything. -/
inductive WriteOutcome
  | written
  | failed (err : String) (left : String)

/-- `AppConfigFile::write_json`, and the contents of the file after it. -/
def AppConfigFile.writeJson [ConfigText] (outcome : WriteOutcome) (appConfig : AppConfigFile)
    (path file : String) : Except AnyError Unit × String :=
  match external "serialize config" (ConfigText.print appConfig) with
  | .error err => (.error err, file)
  | .ok contents =>
    match outcome with
    | .written => (.ok (), contents)
    | .failed err left => (external s!"write config {path}" (.error err), left)

/-- A write that succeeds leaves the text of the config. -/
theorem print_of_writeJson [ConfigText] {outcome : WriteOutcome} {appConfig : AppConfigFile}
    {path file file' : String} (h : appConfig.writeJson outcome path file = (.ok (), file')) :
    ConfigText.print appConfig = .ok file' := by
  unfold AppConfigFile.writeJson at h
  cases hp : ConfigText.print appConfig with
  | error err =>
    simp only [hp, external] at h
    cases h
  | ok contents =>
    simp only [hp, external] at h
    cases outcome with
    | written =>
      obtain ⟨-, rfl⟩ := Prod.mk.inj h
      rfl
    | failed err left => cases h

/-! ### Calls in one piece -/

/-- What the environment answers during one call. -/
structure CallEnv extends ReloadEnv where
  write : WriteOutcome

namespace RuntimeManager

/-- The comparison of `save_config`. -/
def activeMatches (m : RuntimeManager) (appConfig : AppConfigFile) : Bool :=
  match m.active with
  | some active => active.appConfig.Same appConfig
  | none => false

/-- The snapshot that `save_config` leaves. -/
def publishSaved (m : RuntimeManager) (appConfig : AppConfigFile) (activeMatches : Bool) :
    RuntimeManager :=
  { m with snapshot := { m.snapshot with
      savedConfig := appConfig
      pendingReload := !activeMatches
      lastReloadError := none } }

variable [Net] [Glob]

/-- `RuntimeManager::start`. -/
def start [ConfigJson] (fs : Fs) (env : StartEnv) (configPath : String) :
    Except Fault RuntimeManager := do
  let appConfig ← returning (AppConfigFile.loadJson fs configPath)
  let runtime ← returning (appConfig.toRuntimeConfig fs)
  let active ← startActiveRuntime env appConfig runtime
  let snapshot := {
    configPath
    savedConfig := appConfig
    activeRuntime := runtimeSummary active
    pendingReload := false
    lastReloadError := none }
  return { configPath, active := some active, snapshot }

/-- `RuntimeManager::save_config`: its result, and the manager and the config file after it. -/
def saveConfig [ConfigText] (m : RuntimeManager) (env : CallEnv) (appConfig : AppConfigFile)
    (file : String) : Except AnyError RuntimeManagerState × RuntimeManager × String :=
  match appConfig.toRuntimeConfig env.fs with
  | .error err => (.error err, m, file)
  | .ok _ =>
    let activeMatches := m.activeMatches appConfig
    match appConfig.writeJson env.write m.configPath file with
    | (.error err, file) => (.error err, m, file)
    | (.ok (), file) =>
      let m := m.publishSaved appConfig activeMatches
      (.ok m.snapshot, m, file)

end RuntimeManager

/-! ### Calls in steps -/

/-- Where a `save_config` call stands; `reading` is before its last look at the snapshot. -/
inductive SaveStage
  | validating (appConfig : AppConfigFile)
  | comparing (appConfig : AppConfigFile)
  | writing (appConfig : AppConfigFile) (activeMatches : Bool)
  | written (appConfig : AppConfigFile) (activeMatches : Bool)
  | reading
  | returned (result : Except AnyError RuntimeManagerState)

/-- What a reload goes by once the config file was found valid. -/
structure ReloadPlan where
  savedConfig : AppConfigFile
  newRuntime : RuntimeConfig
  previousConfig : AppConfigFile
  previousRuntime : RuntimeConfig

/-- Where a `reload` call stands.  It owns the runtime that its stage names. -/
inductive ReloadStage
  | taking
  | taken (previous : ActiveRuntime)
  | loaded (previous : ActiveRuntime) (savedConfig : AppConfigFile)
  | planned (previous : ActiveRuntime) (plan : ReloadPlan)
  | stopping (previous : ActiveRuntime) (plan : ReloadPlan)
  | stopped (plan : ReloadPlan)
  | released (plan : ReloadPlan)
  | started (active : ActiveRuntime) (savedConfig : AppConfigFile)
  | installed (savedConfig : AppConfigFile)
  | summarized (savedConfig : AppConfigFile) (activeRuntime : RuntimeSummary)
  | fallingBack (plan : ReloadPlan) (err : AnyError)
  | restarted (active : ActiveRuntime) (err : AnyError)
  | reinstalled (err : AnyError)
  | restartFailed (message : String)
  | returned (result : Except AnyError RuntimeManagerState)

/-- Where a `shutdown` call stands. -/
inductive ManagerStop
  | taking
  | taken (active : ActiveRuntime)
  | stopping (active : ActiveRuntime)
  | returned (result : Except AnyError Unit)

inductive ManagerCall
  | save (stage : SaveStage)
  | reload (stage : ReloadStage)
  | shutdown (stage : ManagerStop)

/-- What the calls share. -/
structure ManagerShared where
  manager : RuntimeManager
  /-- The contents of the config file, as far as `save_config` writes it. -/
  file : String
  /-- Ghost: the runtimes that were started. -/
  started : List ActiveRuntime
  /-- Ghost: the runtimes that were given to `shutdown_active_runtime`. -/
  given : List ActiveRuntime

namespace ManagerShared

def setActive (x : ManagerShared) (active : Option ActiveRuntime) : ManagerShared :=
  { x with manager := { x.manager with active } }

def setSnapshot (x : ManagerShared) (snapshot : RuntimeManagerState) : ManagerShared :=
  { x with manager := { x.manager with snapshot } }

def addStarted (x : ManagerShared) (active : ActiveRuntime) : ManagerShared :=
  { x with started := x.started ++ [active] }

def addGiven (x : ManagerShared) (active : ActiveRuntime) : ManagerShared :=
  { x with given := x.given ++ [active] }

variable (x : ManagerShared) (active : Option ActiveRuntime) (r : ActiveRuntime)
  (snapshot : RuntimeManagerState)

@[simp] theorem setActive_active : (x.setActive active).manager.active = active := rfl
@[simp] theorem setActive_snapshot : (x.setActive active).manager.snapshot = x.manager.snapshot := rfl
@[simp] theorem setActive_file : (x.setActive active).file = x.file := rfl
@[simp] theorem setActive_started : (x.setActive active).started = x.started := rfl
@[simp] theorem setActive_given : (x.setActive active).given = x.given := rfl
@[simp] theorem setSnapshot_active : (x.setSnapshot snapshot).manager.active = x.manager.active := rfl
@[simp] theorem setSnapshot_snapshot : (x.setSnapshot snapshot).manager.snapshot = snapshot := rfl
@[simp] theorem setSnapshot_file : (x.setSnapshot snapshot).file = x.file := rfl
@[simp] theorem setSnapshot_started : (x.setSnapshot snapshot).started = x.started := rfl
@[simp] theorem setSnapshot_given : (x.setSnapshot snapshot).given = x.given := rfl
@[simp] theorem addStarted_manager : (x.addStarted r).manager = x.manager := rfl
@[simp] theorem addStarted_file : (x.addStarted r).file = x.file := rfl
@[simp] theorem addStarted_started : (x.addStarted r).started = x.started ++ [r] := rfl
@[simp] theorem addStarted_given : (x.addStarted r).given = x.given := rfl
@[simp] theorem addGiven_manager : (x.addGiven r).manager = x.manager := rfl
@[simp] theorem addGiven_file : (x.addGiven r).file = x.file := rfl
@[simp] theorem addGiven_started : (x.addGiven r).started = x.started := rfl
@[simp] theorem addGiven_given : (x.addGiven r).given = x.given ++ [r] := rfl

end ManagerShared

/-- A reload whose task panicked. -/
def joinFailure (env : CallEnv) (text : String) : ReloadStage :=
  .returned (.error (.msg s!"runtime reload task join failure: {env.joinError text}"))

section Step

variable [Net] [Glob]

def SaveStage.step [ConfigText] (env : CallEnv) (x : ManagerShared) :
    SaveStage → Option (ManagerShared × SaveStage)
  | .validating appConfig =>
    match appConfig.toRuntimeConfig env.fs with
    | .error err => some (x, .returned (.error err))
    | .ok _ => some (x, .comparing appConfig)
  | .comparing appConfig => some (x, .writing appConfig (x.manager.activeMatches appConfig))
  | .writing appConfig activeMatches =>
    match appConfig.writeJson env.write x.manager.configPath x.file with
    | (.error err, file) => some ({ x with file }, .returned (.error err))
    | (.ok (), file) => some ({ x with file }, .written appConfig activeMatches)
  | .written appConfig activeMatches =>
    some ({ x with manager := x.manager.publishSaved appConfig activeMatches }, .reading)
  | .reading => some (x, .returned (.ok x.manager.snapshot))
  | .returned _ => none

/-- A step of `reload_inner`. -/
def ReloadStage.step [ConfigJson] (env : CallEnv) (x : ManagerShared) :
    ReloadStage → Option (ManagerShared × ReloadStage)
  | .taking =>
    match x.manager.active with
    | none =>
      some (x, .returned (.error (.msg "runtime manager missing active runtime during reload")))
    | some previous => some (x.setActive none, .taken previous)
  | .taken previous =>
    match AppConfigFile.loadJson env.fs x.manager.configPath with
    | .error err => some (x, .returned (.error err))
    | .ok savedConfig => some (x, .loaded previous savedConfig)
  | .loaded previous savedConfig =>
    match savedConfig.toRuntimeConfig env.fs with
    | .error err => some (x, .returned (.error err))
    | .ok newRuntime =>
      some (x, .planned previous ⟨savedConfig, newRuntime, previous.appConfig, previous.runtime⟩)
  | .planned previous plan => some (x.addGiven previous, .stopping previous plan)
  -- what `shutdown_active_runtime` comes to is only logged
  | .stopping _ plan => some (x, .stopped plan)
  | .stopped plan =>
    match waitForListenerRelease plan.previousRuntime.listenAddr env.release env.tries with
    | .error err => some (x, .returned (.error err))
    | .ok () => some (x, .released plan)
  | .released plan =>
    match startActiveRuntime env.start plan.savedConfig plan.newRuntime with
    | .ok active => some (x.addStarted active, .started active plan.savedConfig)
    | .error (.error err) => some (x, .fallingBack plan err)
    | .error (.panicked text) => some (x, joinFailure env text)
  | .started active savedConfig => some (x.setActive (some active), .installed savedConfig)
  | .installed savedConfig =>
    match x.manager.active with
    | none =>
      some (x, .returned (.error (.msg "runtime manager missing active runtime after reload")))
    | some active => some (x, .summarized savedConfig (runtimeSummary active))
  | .summarized savedConfig activeRuntime =>
    let snapshot := { x.manager.snapshot with
      savedConfig
      activeRuntime
      pendingReload := false
      lastReloadError := none }
    some (x.setSnapshot snapshot, .returned (.ok snapshot))
  | .fallingBack plan err =>
    match startActiveRuntime env.restart plan.previousConfig plan.previousRuntime with
    | .ok active => some (x.addStarted active, .restarted active err)
    | .error (.error restartErr) =>
      some (x, .restartFailed
        s!"reload failed: {err.message}; fallback restart failed: {restartErr.message}")
    | .error (.panicked text) => some (x, joinFailure env text)
  | .restarted active err => some (x.setActive (some active), .reinstalled err)
  | .reinstalled err =>
    let snapshot := { x.manager.snapshot with
      lastReloadError := some err.message
      pendingReload := true }
    some (x.setSnapshot snapshot, .returned (.error err))
  | .restartFailed message =>
    let snapshot := { x.manager.snapshot with lastReloadError := some message }
    some (x.setSnapshot snapshot, .returned (.error (.msg message)))
  | .returned _ => none

/-- A step of `shutdown`. -/
def ManagerStop.step (env : CallEnv) (x : ManagerShared) :
    ManagerStop → Option (ManagerShared × ManagerStop)
  | .taking =>
    match x.manager.active with
    | none =>
      some (x, .returned (.error (.msg "runtime manager missing active runtime during shutdown")))
    | some active => some (x.setActive none, .taken active)
  | .taken active => some (x.addGiven active, .stopping active)
  | .stopping active => some (x, .returned (shutdownActiveRuntime env.stop active))
  | .returned _ => none

def ManagerCall.step [ConfigText] (env : CallEnv) (x : ManagerShared) :
    ManagerCall → Option (ManagerShared × ManagerCall)
  | .save stage => (stage.step env x).map (Prod.map id .save)
  | .reload stage => (stage.step env x).map (Prod.map id .reload)
  | .shutdown stage => (stage.step env x).map (Prod.map id .shutdown)

/-! ### What a step does -/

/-- The effect of a step of `save_config`. -/
inductive SaveEffect [ConfigText] (env : CallEnv) (x : ManagerShared) :
    SaveStage → ManagerShared → SaveStage → Prop
  | invalid {appConfig err} (h : appConfig.toRuntimeConfig env.fs = .error err) :
      SaveEffect env x (.validating appConfig) x (.returned (.error err))
  | validated {appConfig runtime} (h : appConfig.toRuntimeConfig env.fs = .ok runtime) :
      SaveEffect env x (.validating appConfig) x (.comparing appConfig)
  | compared {appConfig} :
      SaveEffect env x (.comparing appConfig) x
        (.writing appConfig (x.manager.activeMatches appConfig))
  | notWritten {appConfig activeMatches err file}
      (h : appConfig.writeJson env.write x.manager.configPath x.file = (.error err, file)) :
      SaveEffect env x (.writing appConfig activeMatches) { x with file } (.returned (.error err))
  | wrote {appConfig activeMatches file}
      (h : appConfig.writeJson env.write x.manager.configPath x.file = (.ok (), file)) :
      SaveEffect env x (.writing appConfig activeMatches) { x with file }
        (.written appConfig activeMatches)
  | published {appConfig activeMatches} :
      SaveEffect env x (.written appConfig activeMatches)
        { x with manager := x.manager.publishSaved appConfig activeMatches } .reading
  | answered : SaveEffect env x .reading x (.returned (.ok x.manager.snapshot))

/-- The effect of a step of `reload`. -/
inductive ReloadEffect [ConfigJson] (env : CallEnv) (x : ManagerShared) :
    ReloadStage → ManagerShared → ReloadStage → Prop
  | missing (h : x.manager.active = none) :
      ReloadEffect env x .taking x
        (.returned (.error (.msg "runtime manager missing active runtime during reload")))
  | took {previous} (h : x.manager.active = some previous) :
      ReloadEffect env x .taking (x.setActive none) (.taken previous)
  | unloaded {previous err}
      (h : AppConfigFile.loadJson env.fs x.manager.configPath = .error err) :
      ReloadEffect env x (.taken previous) x (.returned (.error err))
  | loaded {previous savedConfig}
      (h : AppConfigFile.loadJson env.fs x.manager.configPath = .ok savedConfig) :
      ReloadEffect env x (.taken previous) x (.loaded previous savedConfig)
  | invalid {previous savedConfig err} (h : savedConfig.toRuntimeConfig env.fs = .error err) :
      ReloadEffect env x (.loaded previous savedConfig) x (.returned (.error err))
  | planned {previous savedConfig newRuntime}
      (h : savedConfig.toRuntimeConfig env.fs = .ok newRuntime) :
      ReloadEffect env x (.loaded previous savedConfig) x
        (.planned previous ⟨savedConfig, newRuntime, previous.appConfig, previous.runtime⟩)
  | gave {previous plan} :
      ReloadEffect env x (.planned previous plan) (x.addGiven previous) (.stopping previous plan)
  | stopped {previous plan} : ReloadEffect env x (.stopping previous plan) x (.stopped plan)
  | unreleased {plan err}
      (h : waitForListenerRelease plan.previousRuntime.listenAddr env.release env.tries =
        .error err) :
      ReloadEffect env x (.stopped plan) x (.returned (.error err))
  | released {plan}
      (h : waitForListenerRelease plan.previousRuntime.listenAddr env.release env.tries = .ok ()) :
      ReloadEffect env x (.stopped plan) x (.released plan)
  | started {plan active}
      (h : startActiveRuntime env.start plan.savedConfig plan.newRuntime = .ok active) :
      ReloadEffect env x (.released plan) (x.addStarted active) (.started active plan.savedConfig)
  | startFailed {plan err}
      (h : startActiveRuntime env.start plan.savedConfig plan.newRuntime = .error (.error err)) :
      ReloadEffect env x (.released plan) x (.fallingBack plan err)
  | startPanicked {plan text}
      (h : startActiveRuntime env.start plan.savedConfig plan.newRuntime = .error (.panicked text)) :
      ReloadEffect env x (.released plan) x (joinFailure env text)
  | installed {active savedConfig} :
      ReloadEffect env x (.started active savedConfig) (x.setActive (some active))
        (.installed savedConfig)
  | vanished {savedConfig} (h : x.manager.active = none) :
      ReloadEffect env x (.installed savedConfig) x
        (.returned (.error (.msg "runtime manager missing active runtime after reload")))
  | summarized {savedConfig active} (h : x.manager.active = some active) :
      ReloadEffect env x (.installed savedConfig) x
        (.summarized savedConfig (runtimeSummary active))
  | published {savedConfig activeRuntime snapshot}
      (h : snapshot = { x.manager.snapshot with
        savedConfig, activeRuntime, pendingReload := false, lastReloadError := none }) :
      ReloadEffect env x (.summarized savedConfig activeRuntime) (x.setSnapshot snapshot)
        (.returned (.ok snapshot))
  | restarted {plan err active}
      (h : startActiveRuntime env.restart plan.previousConfig plan.previousRuntime = .ok active) :
      ReloadEffect env x (.fallingBack plan err) (x.addStarted active) (.restarted active err)
  | restartFailed {plan err message} :
      ReloadEffect env x (.fallingBack plan err) x (.restartFailed message)
  | restartPanicked {plan err text} :
      ReloadEffect env x (.fallingBack plan err) x (joinFailure env text)
  | reinstalled {active err} :
      ReloadEffect env x (.restarted active err) (x.setActive (some active)) (.reinstalled err)
  | publishedError {err snapshot} :
      ReloadEffect env x (.reinstalled err) (x.setSnapshot snapshot) (.returned (.error err))
  | publishedFailure {message err snapshot} :
      ReloadEffect env x (.restartFailed message) (x.setSnapshot snapshot) (.returned (.error err))

/-- The effect of a step of `shutdown`. -/
inductive StopEffect (env : CallEnv) (x : ManagerShared) :
    ManagerStop → ManagerShared → ManagerStop → Prop
  | missing (h : x.manager.active = none) :
      StopEffect env x .taking x
        (.returned (.error (.msg "runtime manager missing active runtime during shutdown")))
  | took {active} (h : x.manager.active = some active) :
      StopEffect env x .taking (x.setActive none) (.taken active)
  | gave {active} : StopEffect env x (.taken active) (x.addGiven active) (.stopping active)
  | stopped {active} :
      StopEffect env x (.stopping active) x (.returned (shutdownActiveRuntime env.stop active))

variable {env : CallEnv} {x y : ManagerShared}

theorem SaveStage.step_effect [ConfigText] {stage stage' : SaveStage}
    (h : stage.step env x = some (y, stage')) : SaveEffect env x stage y stage' := by
  cases stage with
  | validating appConfig =>
    simp only [SaveStage.step] at h
    split at h <;> cases h
    · exact .invalid ‹_›
    · exact .validated ‹_›
  | comparing appConfig =>
    cases h
    exact .compared
  | writing appConfig activeMatches =>
    simp only [SaveStage.step] at h
    split at h <;> cases h
    · exact .notWritten ‹_›
    · exact .wrote ‹_›
  | written appConfig activeMatches =>
    cases h
    exact .published
  | reading =>
    cases h
    exact .answered
  | returned result => cases h

theorem ReloadStage.step_effect [ConfigJson] {stage stage' : ReloadStage}
    (h : stage.step env x = some (y, stage')) : ReloadEffect env x stage y stage' := by
  cases stage with
  | taking =>
    simp only [ReloadStage.step] at h
    split at h <;> cases h
    · exact .missing ‹_›
    · exact .took ‹_›
  | taken previous =>
    simp only [ReloadStage.step] at h
    split at h <;> cases h
    · exact .unloaded ‹_›
    · exact .loaded ‹_›
  | loaded previous savedConfig =>
    simp only [ReloadStage.step] at h
    split at h <;> cases h
    · exact .invalid ‹_›
    · exact .planned ‹_›
  | planned previous plan =>
    cases h
    exact .gave
  | stopping previous plan =>
    cases h
    exact .stopped
  | stopped plan =>
    simp only [ReloadStage.step] at h
    split at h <;> cases h
    · exact .unreleased ‹_›
    · exact .released ‹_›
  | released plan =>
    simp only [ReloadStage.step] at h
    split at h <;> cases h
    · exact .started ‹_›
    · exact .startFailed ‹_›
    · exact .startPanicked ‹_›
  | started active savedConfig =>
    cases h
    exact .installed
  | installed savedConfig =>
    simp only [ReloadStage.step] at h
    split at h <;> cases h
    · exact .vanished ‹_›
    · exact .summarized ‹_›
  | summarized savedConfig activeRuntime =>
    cases h
    exact .published rfl
  | fallingBack plan err =>
    simp only [ReloadStage.step] at h
    split at h <;> cases h
    · exact .restarted ‹_›
    · exact .restartFailed
    · exact .restartPanicked
  | restarted active err =>
    cases h
    exact .reinstalled
  | reinstalled err =>
    cases h
    exact .publishedError
  | restartFailed message =>
    cases h
    exact .publishedFailure
  | returned result => cases h

omit [Net] [Glob] in
theorem ManagerStop.step_effect {stage stage' : ManagerStop} (h : stage.step env x = some (y, stage')) :
    StopEffect env x stage y stage' := by
  cases stage with
  | taking =>
    simp only [ManagerStop.step] at h
    split at h <;> cases h
    · exact .missing ‹_›
    · exact .took ‹_›
  | taken active =>
    cases h
    exact .gave
  | stopping active =>
    cases h
    exact .stopped
  | returned result => cases h

/-- The effect of a step of a call. -/
inductive CallEffect [ConfigText] (env : CallEnv) (x : ManagerShared) :
    ManagerCall → ManagerShared → ManagerCall → Prop
  | save {stage y stage'} (h : SaveEffect env x stage y stage') :
      CallEffect env x (.save stage) y (.save stage')
  | reload {stage y stage'} (h : ReloadEffect env x stage y stage') :
      CallEffect env x (.reload stage) y (.reload stage')
  | shutdown {stage y stage'} (h : StopEffect env x stage y stage') :
      CallEffect env x (.shutdown stage) y (.shutdown stage')

theorem ManagerCall.step_effect [ConfigText] {call call' : ManagerCall}
    (h : call.step env x = some (y, call')) : CallEffect env x call y call' := by
  cases call with
  | save stage =>
    obtain ⟨⟨y', stage'⟩, hstep, heq⟩ := Option.map_eq_some_iff.mp h
    cases heq
    exact .save (SaveStage.step_effect hstep)
  | reload stage =>
    obtain ⟨⟨y', stage'⟩, hstep, heq⟩ := Option.map_eq_some_iff.mp h
    cases heq
    exact .reload (ReloadStage.step_effect hstep)
  | shutdown stage =>
    obtain ⟨⟨y', stage'⟩, hstep, heq⟩ := Option.map_eq_some_iff.mp h
    cases heq
    exact .shutdown (ManagerStop.step_effect hstep)

end Step

/-- The manager with the calls made on it. -/
abbrev ManagerCalls := Pool ManagerShared ManagerCall

inductive ManagerAction
  | save (appConfig : AppConfigFile)
  | reload
  | shutdown
  /-- A step of call `i`, and what the environment answers to it. -/
  | step (i : ℕ) (env : CallEnv)

namespace ManagerCalls

/-- After `start`, with the config file as it was read there. -/
def init (manager : RuntimeManager) (file : String) : ManagerCalls :=
  ⟨⟨manager, file, manager.active.toList, []⟩, []⟩

def step [Net] [Glob] [ConfigText] (s : ManagerCalls) : ManagerAction → Option ManagerCalls
  | .save appConfig => some (s.enter (.save (.validating appConfig)))
  | .reload => some (s.enter (.reload .taking))
  | .shutdown => some (s.enter (.shutdown .taking))
  | .step i env =>
    match s.calls[i]? with
    | none => none
    | some call => (call.step env s.shared).map fun p => s.update i p.1 p.2

/-- The effect of each action: a call enters, or one call takes a step. -/
inductive Effect [Net] [Glob] [ConfigText] (s : ManagerCalls) : ManagerAction → ManagerCalls → Prop
  | save {appConfig} : Effect s (.save appConfig) (s.enter (.save (.validating appConfig)))
  | reload : Effect s .reload (s.enter (.reload .taking))
  | shutdown : Effect s .shutdown (s.enter (.shutdown .taking))
  | step {i env call x call'} (hcall : s.calls[i]? = some call)
      (h : CallEffect env s.shared call x call') : Effect s (.step i env) (s.update i x call')

section Alone

variable [Net] [Glob] [ConfigText] {env : CallEnv}

theorem step_call {s : ManagerCalls} {i : ℕ} {call call' : ManagerCall} {x : ManagerShared}
    (hcall : s.calls[i]? = some call) (h : call.step env s.shared = some (x, call')) :
    s.step (.step i env) = some (s.update i x call') := by
  simp only [step, hcall, h]
  rfl

theorem step_call_inv {s t : ManagerCalls} {i : ℕ} (h : s.step (.step i env) = some t) :
    ∃ call x call', s.calls[i]? = some call ∧ call.step env s.shared = some (x, call') ∧
      t = s.update i x call' := by
  simp only [step] at h
  split at h
  · cases h
  · rename_i call hcall
    obtain ⟨⟨x, call'⟩, hstep, rfl⟩ := Option.map_eq_some_iff.mp h
    exact ⟨call, x, call', hcall, hstep, rfl⟩

theorem step_effect {s t : ManagerCalls} {a : ManagerAction} (h : s.step a = some t) :
    Effect s a t := by
  cases a with
  | save appConfig =>
    cases h
    exact .save
  | reload =>
    cases h
    exact .reload
  | shutdown =>
    cases h
    exact .shutdown
  | step i env =>
    obtain ⟨call, x, call', hcall, hstep, rfl⟩ := step_call_inv h
    exact .step hcall (ManagerCall.step_effect hstep)

/-- A call takes steps while no other call does. -/
inductive Alone (env : CallEnv) : ManagerShared → ManagerCall → ManagerShared → ManagerCall → Prop
  | refl {x call} : Alone env x call x call
  | step {x y z call call' call''} (h : call.step env x = some (y, call'))
      (rest : Alone env y call' z call'') : Alone env x call z call''

theorem run_of_alone {x y : ManagerShared} {call call' : ManagerCall}
    (h : Alone env x call y call') {s : ManagerCalls} {i : ℕ} (hx : s.shared = x)
    (hcall : s.calls[i]? = some call) :
    ∃ n, run step s (List.replicate n (.step i env)) = some (s.update i y call') := by
  induction h generalizing s with
  | refl =>
    subst hx
    exact ⟨0, congrArg some (Pool.update_self hcall).symm⟩
  | @step x y z call call' call'' h rest ih =>
    subst hx
    obtain ⟨n, hn⟩ := ih (s := s.update i y call') rfl (Pool.update_get hcall)
    refine ⟨n + 1, ?_⟩
    rw [List.replicate_succ, run_cons, step_call hcall h, Option.bind_some, hn, Pool.update_update]

/-- A reload that takes its steps from `x` alone returns `result` and leaves the manager `m`. -/
def Ends (env : CallEnv) (x : ManagerShared) (stage : ReloadStage)
    (result : Except AnyError RuntimeManagerState) (m : RuntimeManager) : Prop :=
  ∃ y, Alone env x (.reload stage) y (.reload (.returned result)) ∧ y.manager = m ∧ y.file = x.file

variable {x y : ManagerShared} {stage stage' : ReloadStage} {m : RuntimeManager}
  {result : Except AnyError RuntimeManagerState}

theorem Ends.step (h : stage.step env x = some (y, stage')) (hfile : y.file = x.file)
    (rest : Ends env y stage' result m) : Ends env x stage result m := by
  obtain ⟨z, hz, hm, hf⟩ := rest
  have hcall : ManagerCall.step env x (.reload stage) = some (y, .reload stage') := by
    simp only [ManagerCall.step, h]
    rfl
  exact ⟨z, .step hcall hz, hm, hf.trans hfile⟩

theorem Ends.done : Ends env x (.returned result) result x.manager := ⟨x, .refl, rfl, rfl⟩

variable {path file : String} {snapshot : RuntimeManagerState} {started given : List ActiveRuntime}
  {plan : ReloadPlan} {previous : ActiveRuntime} {stopped : Except AnyError Unit}

/-- The fallback branch. -/
theorem ends_fallingBack {err : AnyError} (hconfig : plan.previousConfig = previous.appConfig)
    (hruntime : plan.previousRuntime = previous.runtime) :
    Ends env ⟨⟨path, none, snapshot⟩, file, started, given⟩ (.fallingBack plan err)
      (RuntimeManager.restartPrevious ⟨path, none, snapshot⟩ env.toReloadEnv previous err stopped).result
      (RuntimeManager.restartPrevious ⟨path, none, snapshot⟩ env.toReloadEnv previous err
        stopped).manager := by
  unfold RuntimeManager.restartPrevious
  rw [← hconfig, ← hruntime]
  rcases hs : startActiveRuntime env.restart plan.previousConfig plan.previousRuntime with
    (restartErr | text) | active
  · have hstep (x : ManagerShared) : ReloadStage.step env x (.fallingBack plan err) =
        some (x, .restartFailed
          s!"reload failed: {err.message}; fallback restart failed: {restartErr.message}") := by
      simp only [ReloadStage.step, hs]
    exact .step (hstep _) rfl (.step rfl rfl .done)
  · have hstep (x : ManagerShared) : ReloadStage.step env x (.fallingBack plan err) =
        some (x, joinFailure env text) := by
      simp only [ReloadStage.step, hs]
    exact .step (hstep _) rfl .done
  · have hstep (x : ManagerShared) : ReloadStage.step env x (.fallingBack plan err) =
        some (x.addStarted active, .restarted active err) := by
      simp only [ReloadStage.step, hs]
    exact .step (hstep _) rfl (.step rfl rfl (.step rfl rfl .done))

/-- From the start of the new runtime on. -/
theorem ends_released (hconfig : plan.previousConfig = previous.appConfig)
    (hruntime : plan.previousRuntime = previous.runtime) :
    Ends env ⟨⟨path, none, snapshot⟩, file, started, given⟩ (.released plan)
      (RuntimeManager.startNew ⟨path, none, snapshot⟩ env.toReloadEnv previous plan.savedConfig
        plan.newRuntime stopped).result
      (RuntimeManager.startNew ⟨path, none, snapshot⟩ env.toReloadEnv previous plan.savedConfig
        plan.newRuntime stopped).manager := by
  unfold RuntimeManager.startNew
  rcases hs : startActiveRuntime env.start plan.savedConfig plan.newRuntime with (err | text) | active
  · have hstep (x : ManagerShared) : ReloadStage.step env x (.released plan) =
        some (x, .fallingBack plan err) := by
      simp only [ReloadStage.step, hs]
    exact .step (hstep _) rfl (ends_fallingBack hconfig hruntime)
  · have hstep (x : ManagerShared) : ReloadStage.step env x (.released plan) =
        some (x, joinFailure env text) := by
      simp only [ReloadStage.step, hs]
    exact .step (hstep _) rfl .done
  · have hstep (x : ManagerShared) : ReloadStage.step env x (.released plan) =
        some (x.addStarted active, .started active plan.savedConfig) := by
      simp only [ReloadStage.step, hs]
    exact .step (hstep _) rfl (.step rfl rfl (.step rfl rfl (.step rfl rfl .done)))

theorem ends_taking (x : ManagerShared) (env : CallEnv) :
    Ends env x .taking (x.manager.reload env.toReloadEnv).result
      (x.manager.reload env.toReloadEnv).manager := by
  obtain ⟨⟨path, _ | previous, snapshot⟩, file, started, given⟩ := x
  · exact .step rfl rfl .done
  · refine .step (y := ⟨⟨path, none, snapshot⟩, file, started, given⟩) rfl rfl ?_
    unfold RuntimeManager.reload
    dsimp only
    cases hload : AppConfigFile.loadJson env.fs path with
    | error err =>
      have hstep : ReloadStage.step env ⟨⟨path, none, snapshot⟩, file, started, given⟩
          (.taken previous) =
            some (⟨⟨path, none, snapshot⟩, file, started, given⟩, .returned (.error err)) := by
        simp only [ReloadStage.step, hload]
      exact .step hstep rfl .done
    | ok savedConfig =>
      have hstep : ReloadStage.step env ⟨⟨path, none, snapshot⟩, file, started, given⟩
          (.taken previous) =
            some (⟨⟨path, none, snapshot⟩, file, started, given⟩, .loaded previous savedConfig) := by
        simp only [ReloadStage.step, hload]
      refine .step hstep rfl ?_
      dsimp only
      cases hvalid : savedConfig.toRuntimeConfig env.fs with
      | error err =>
        have hstep (x : ManagerShared) : ReloadStage.step env x (.loaded previous savedConfig) =
            some (x, .returned (.error err)) := by
          simp only [ReloadStage.step, hvalid]
        exact .step (hstep _) rfl .done
      | ok newRuntime =>
        have hstep (x : ManagerShared) : ReloadStage.step env x (.loaded previous savedConfig) =
            some (x, .planned previous
              ⟨savedConfig, newRuntime, previous.appConfig, previous.runtime⟩) := by
          simp only [ReloadStage.step, hvalid]
        refine .step (hstep _) rfl (.step rfl rfl (.step rfl rfl ?_))
        dsimp only
        cases hw : waitForListenerRelease previous.runtime.listenAddr env.release env.tries with
        | error err =>
          have hstep (x : ManagerShared) : ReloadStage.step env x
              (.stopped ⟨savedConfig, newRuntime, previous.appConfig, previous.runtime⟩) =
                some (x, .returned (.error err)) := by
            simp only [ReloadStage.step, hw]
          exact .step (hstep _) rfl .done
        | ok u =>
          have hstep (x : ManagerShared) : ReloadStage.step env x
              (.stopped ⟨savedConfig, newRuntime, previous.appConfig, previous.runtime⟩) =
                some (x, .released
                  ⟨savedConfig, newRuntime, previous.appConfig, previous.runtime⟩) := by
            simp only [ReloadStage.step, hw]
          exact .step (hstep _) rfl (ends_released rfl rfl)

/-- **A reload alone** does what `RuntimeManager.reload` says. -/
theorem reload_alone {s : ManagerCalls} {i : ℕ} (hcall : s.calls[i]? = some (.reload .taking))
    (env : CallEnv) : ∃ n x,
      run step s (List.replicate n (.step i env)) =
        some (s.update i x (.reload (.returned (s.shared.manager.reload env.toReloadEnv).result))) ∧
      x.manager = (s.shared.manager.reload env.toReloadEnv).manager ∧ x.file = s.shared.file := by
  obtain ⟨y, hy, hm, hf⟩ := ends_taking s.shared env
  obtain ⟨n, hn⟩ := run_of_alone hy rfl hcall
  exact ⟨n, y, hn, hm, hf⟩

/-- **A save alone** does what `RuntimeManager.saveConfig` says. -/
theorem save_alone {s : ManagerCalls} {i : ℕ} {appConfig : AppConfigFile}
    (hcall : s.calls[i]? = some (.save (.validating appConfig))) (env : CallEnv) : ∃ n,
      run step s (List.replicate n (.step i env)) =
        some (s.update i
          { s.shared with
            manager := (s.shared.manager.saveConfig env appConfig s.shared.file).2.1
            file := (s.shared.manager.saveConfig env appConfig s.shared.file).2.2 }
          (.save (.returned (s.shared.manager.saveConfig env appConfig s.shared.file).1))) := by
  refine run_of_alone ?_ rfl hcall
  obtain ⟨⟨manager, file, started, given⟩, calls⟩ := s
  unfold RuntimeManager.saveConfig
  dsimp only
  cases hvalid : appConfig.toRuntimeConfig env.fs with
  | error err =>
    have hstep (x : ManagerShared) : ManagerCall.step env x (.save (.validating appConfig)) =
        some (x, .save (.returned (.error err))) := by
      simp only [ManagerCall.step, SaveStage.step, hvalid]
      rfl
    exact .step (hstep _) .refl
  | ok runtime =>
    have hstep (x : ManagerShared) : ManagerCall.step env x (.save (.validating appConfig)) =
        some (x, .save (.comparing appConfig)) := by
      simp only [ManagerCall.step, SaveStage.step, hvalid]
      rfl
    refine .step (hstep _) (.step rfl ?_)
    dsimp only
    rcases hw : appConfig.writeJson env.write manager.configPath file with ⟨err | ⟨⟨⟩⟩, file'⟩
    · have hwrite (m : Bool) : ManagerCall.step env ⟨manager, file, started, given⟩
          (.save (.writing appConfig m)) =
            some (⟨manager, file', started, given⟩, .save (.returned (.error err))) := by
        simp only [ManagerCall.step, SaveStage.step, hw]
        rfl
      exact .step (hwrite _) .refl
    · have hwrite (m : Bool) : ManagerCall.step env ⟨manager, file, started, given⟩
          (.save (.writing appConfig m)) =
            some (⟨manager, file', started, given⟩, .save (.written appConfig m)) := by
        simp only [ManagerCall.step, SaveStage.step, hw]
        rfl
      exact .step (hwrite _) (.step rfl (.step rfl .refl))

end Alone

end ManagerCalls

/-! ### Sample calls -/

/-- The default settings, for a frontend domain. -/
def sampleApp (frontendDomain : String) : AppConfigFile :=
  ⟨{ RuntimeSettingsFile.default with frontendDomain }, []⟩

/-- How `serde_json` prints them. -/
def sampleSaved (frontendDomain : String) : String :=
  "\x7b\n  \"runtime\": \x7b\n    \"listen_addr\": \"127.0.0.1:8443\",\n    \"frontend_domain\": \"" ++
    (frontendDomain ++
      ("\",\n    \"backend_url\": \"https://backend.example\",\n" ++
        "    \"tls_cert_path\": \"./certs/fullchain.pem\",\n" ++
        "    \"tls_key_path\": \"./certs/privkey.pem\",\n" ++
        "    \"sqlite_path\": \"./data/kidproxy.sqlite\",\n    \"ca_bundle_path\": null,\n" ++
        "    \"upstream_sni_override\": null,\n    \"http_mode\": \"auto\",\n" ++
        "    \"flush_rows\": 5000,\n    \"flush_interval_ms\": 2000,\n" ++
        "    \"max_inflight_events\": 10000,\n    \"body_max_bytes\": 65536,\n" ++
        "    \"connect_timeout_ms\": 5000,\n    \"request_timeout_ms\": 180000,\n" ++
        "    \"idle_pool_timeout_ms\": 90000,\n    \"graceful_shutdown_timeout_ms\": 10000,\n" ++
        "    \"trust_proxy_headers\": false,\n    \"emit_keylog\": false,\n" ++
        "    \"header_allowlist\": [],\n    \"header_denylist\": []\n  \x7d,\n" ++
        "  \"transforms\": []\n\x7d"))

@[reducible] def sampleText : ConfigText where
  parse text :=
    if text = sampleSaved "example.test" then .ok (sampleApp "example.test")
    else if text = sampleSaved "other.test" then .ok (sampleApp "other.test")
    else .error "expected value at line 1 column 1"
  print appConfig :=
    if appConfig = sampleApp "example.test" then .ok (sampleSaved "example.test")
    else if appConfig = sampleApp "other.test" then .ok (sampleSaved "other.test")
    else .error "not a sample"

/-- Every step succeeds, and the config file holds `file`. -/
def sampleCallEnv (file : String) : CallEnv where
  toReloadEnv := sampleReloadEnv { sampleFs with readToString := fun _ => .ok file }
    (sampleStartEnv (.ok ()) (.ok ()))
  write := .written

end KidProxy
