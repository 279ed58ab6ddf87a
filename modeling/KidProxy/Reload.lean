import KidProxy.RuntimeManager

/-!
# Reload — what a failed reload leaves behind

Three steps of a reload return early, after the active runtime was taken out of the controller and
before the branch that starts it again, and a panic of the new start passes that branch by
(`failedReload_iff`).  That branch in turn is entered only where
the start itself fails, which it does not do for an address that cannot be bound (`startIsReal_iff`).
-/

namespace KidProxy

/-! ### The exits of a reload -/

/-- The steps up to the start of the new runtime succeed. -/
structure ReachesStart [Net] [Glob] [ConfigJson] (env : ReloadEnv) (m : RuntimeManager)
    (savedConfig : AppConfigFile) (newRuntime : RuntimeConfig) : Prop where
  load : AppConfigFile.loadJson env.fs m.configPath = .ok savedConfig
  valid : savedConfig.toRuntimeConfig env.fs = .ok newRuntime
  released : ∃ i ≤ env.tries, env.release i = .ok ()

theorem ReachesStart.unique [Net] [Glob] [ConfigJson] {env : ReloadEnv} {m : RuntimeManager}
    {savedConfig savedConfig' : AppConfigFile} {newRuntime newRuntime' : RuntimeConfig}
    (h : ReachesStart env m savedConfig newRuntime)
    (h' : ReachesStart env m savedConfig' newRuntime') :
    savedConfig = savedConfig' ∧ newRuntime = newRuntime' := by
  obtain rfl := Except.ok.inj (h.load.symm.trans h'.load)
  exact ⟨rfl, Except.ok.inj (h.valid.symm.trans h'.valid)⟩

theorem waitForListenerRelease_eq_ok [Net] {addr : SocketAddr} {bind : ℕ → Except String Unit}
    {tries : ℕ} : waitForListenerRelease addr bind tries = .ok () ↔ ∃ i ≤ tries, bind i = .ok () := by
  unfold waitForListenerRelease
  rw [waitForRelease_eq_ok]
  constructor
  · rintro ⟨i, -, hi, hb⟩
    exact ⟨i, by omega, hb⟩
  · rintro ⟨i, hi, hb⟩
    exact ⟨i, Nat.zero_le i, by omega, hb⟩

/-- From the start of the new runtime on. -/
theorem reload_of_reachesStart [Net] [Glob] [ConfigJson] {m : RuntimeManager} {env : ReloadEnv}
    {previous : ActiveRuntime} {savedConfig : AppConfigFile} {newRuntime : RuntimeConfig}
    (h : m.active = some previous) (hr : ReachesStart env m savedConfig newRuntime) :
    m.reload env =
      m.startNew env previous savedConfig newRuntime (shutdownActiveRuntime env.stop previous) := by
  have hw : waitForListenerRelease previous.runtime.listenAddr env.release env.tries = .ok () :=
    waitForListenerRelease_eq_ok.mpr hr.released
  unfold RuntimeManager.reload
  simp only [h, hr.load, hr.valid, hw]

/-- The early exits: no runtime is left, none is started again, and the snapshot is as before. -/
theorem reload_of_not_reachesStart [Net] [Glob] [ConfigJson] {m : RuntimeManager} {env : ReloadEnv}
    {previous : ActiveRuntime} (h : m.active = some previous)
    (hn : ¬ ∃ savedConfig newRuntime, ReachesStart env m savedConfig newRuntime) :
    ∃ err stopped, m.reload env = ⟨.error err, { m with active := none }, stopped, none⟩ := by
  unfold RuntimeManager.reload
  simp only [h]
  cases hload : AppConfigFile.loadJson env.fs m.configPath with
  | error err => exact ⟨err, none, rfl⟩
  | ok savedConfig =>
    dsimp only
    cases hvalid : savedConfig.toRuntimeConfig env.fs with
    | error err => exact ⟨err, none, rfl⟩
    | ok newRuntime =>
      dsimp only
      cases hw : waitForListenerRelease previous.runtime.listenAddr env.release env.tries with
      | error err => exact ⟨err, _, rfl⟩
      | ok u =>
        exact absurd ⟨savedConfig, newRuntime, hload, hvalid, waitForListenerRelease_eq_ok.mp hw⟩ hn

/-- The fallback branch ends with the previous runtime, or its restart failed.  It does not panic: the
previous runtime has a writer, whose channel could be made. -/
theorem restartPrevious_cases [Net] (m : RuntimeManager) (env : ReloadEnv) (previous : ActiveRuntime)
    (err : AnyError) (stopped : Except AnyError Unit) :
    (∃ hp : Prepared env.restart previous.runtime,
      m.restartPrevious env previous err stopped =
        ⟨.error err,
          { m with
            active := some (hp.active previous.appConfig)
            snapshot := { m.snapshot with lastReloadError := some err.message, pendingReload := true } },
          some stopped, some (.ok (hp.active previous.appConfig))⟩) ∨
    ¬ Prepared env.restart previous.runtime ∧ ∃ restartErr message,
      m.restartPrevious env previous err stopped =
        ⟨.error (.msg message),
          { m with
            active := none
            snapshot := { m.snapshot with lastReloadError := some message } },
          some stopped, some (.error restartErr)⟩ := by
  unfold RuntimeManager.restartPrevious
  rcases startActiveRuntime_cases env.restart previous.appConfig previous.runtime with
    ⟨hp, hs⟩ | ⟨hpanics, -⟩ | ⟨hn, -, restartErr, hs⟩
  · rw [hs]
    exact .inl ⟨hp, rfl⟩
  · exact absurd previous.writer.capacity hpanics.capacity
  · rw [hs]
    exact .inr ⟨hn, .error restartErr, _, rfl⟩

theorem reload_of_inactive [Net] [Glob] [ConfigJson] {m : RuntimeManager} (h : m.active = none)
    (env : ReloadEnv) : m.reload env =
      ⟨.error (.msg "runtime manager missing active runtime during reload"), m, none, none⟩ := by
  unfold RuntimeManager.reload
  simp only [h]

/-! ### A failed reload keeps the proxy -/

/-- What a reload that failed with an error keeps: the previous configuration runs, or its restart was
tried and failed; and the snapshot shows the error. -/
structure Kept (previous : ActiveRuntime) (outcome : ReloadOutcome) (err : AnyError) : Prop where
  running : (∃ active, outcome.manager.active = some active ∧
      active.appConfig = previous.appConfig ∧ active.runtime = previous.runtime) ∨
    ∃ restartErr, outcome.restarted = some (.error restartErr)
  shown : outcome.manager.snapshot.lastReloadError = some err.message

def FailureKeeps (previous : ActiveRuntime) (outcome : ReloadOutcome) : Prop :=
  ∀ err, outcome.result = .error err → Kept previous outcome err

theorem not_kept_of_inactive {previous : ActiveRuntime} {outcome : ReloadOutcome} {err : AnyError}
    (hactive : outcome.manager.active = none) (hrestarted : outcome.restarted = none) :
    ¬ Kept previous outcome err := by
  intro hkept
  rcases hkept.running with ⟨active, ha, -⟩ | ⟨restartErr, hr⟩
  · rw [hactive] at ha
    cases ha
  · rw [hrestarted] at hr
    cases hr

theorem failureKeeps_restartPrevious [Net] (m : RuntimeManager) (env : ReloadEnv)
    (previous : ActiveRuntime) (startErr : AnyError) (stopped : Except AnyError Unit) :
    FailureKeeps previous (m.restartPrevious env previous startErr stopped) := by
  intro err herr
  rcases restartPrevious_cases m env previous startErr stopped with
    ⟨hp, hm⟩ | ⟨-, restartErr, message, hm⟩
  · rw [hm] at herr ⊢
    obtain rfl := Except.error.inj herr
    exact ⟨.inl ⟨_, rfl, rfl, rfl⟩, rfl⟩
  · rw [hm] at herr ⊢
    obtain rfl := Except.error.inj herr
    exact ⟨.inr ⟨restartErr, rfl⟩, rfl⟩

/-- From the start of the new runtime on, only a panic is not covered by the fallback branch. -/
theorem failureKeeps_startNew [Net] {m : RuntimeManager} {env : ReloadEnv} {previous : ActiveRuntime}
    {savedConfig : AppConfigFile} {newRuntime : RuntimeConfig} {stopped : Except AnyError Unit} :
    FailureKeeps previous (m.startNew env previous savedConfig newRuntime stopped) ↔
      ¬ StartPanics env.start newRuntime := by
  unfold RuntimeManager.startNew
  rcases startActiveRuntime_cases env.start savedConfig newRuntime with
    ⟨hp, hs⟩ | ⟨hpanics, text, hs⟩ | ⟨-, hn, err, hs⟩
  · rw [hs]
    refine ⟨fun _ hpanics => hpanics.capacity hp.capacity, fun _ err herr => ?_⟩
    cases herr
  · rw [hs]
    refine ⟨fun hkeeps => ?_, fun hn => absurd hpanics hn⟩
    exact absurd (hkeeps _ rfl) (not_kept_of_inactive rfl rfl)
  · rw [hs]
    exact ⟨fun _ => hn, fun _ => failureKeeps_restartPrevious m env previous err stopped⟩

/-- **Failed reloads**: a reload keeps what a failure must keep exactly when the config file loads and
is valid, the old listener is released in time, and the new start does not panic. -/
theorem failedReload_iff [Net] [Glob] [ConfigJson] {m : RuntimeManager} {previous : ActiveRuntime}
    (env : ReloadEnv) (h : m.active = some previous) :
    FailureKeeps previous (m.reload env) ↔
      ∃ savedConfig newRuntime, ReachesStart env m savedConfig newRuntime ∧
        ¬ StartPanics env.start newRuntime := by
  by_cases hreaches : ∃ savedConfig newRuntime, ReachesStart env m savedConfig newRuntime
  · obtain ⟨savedConfig, newRuntime, hr⟩ := hreaches
    rw [reload_of_reachesStart h hr, failureKeeps_startNew]
    constructor
    · intro hn
      exact ⟨savedConfig, newRuntime, hr, hn⟩
    · rintro ⟨savedConfig', newRuntime', hr', hn⟩
      obtain ⟨rfl, rfl⟩ := hr.unique hr'
      exact hn
  · -- none of the early exits keeps anything
    obtain ⟨err, stopped, hm⟩ := reload_of_not_reachesStart h hreaches
    rw [hm]
    constructor
    · intro hkeeps
      exact absurd (hkeeps err rfl) (not_kept_of_inactive rfl rfl)
    · rintro ⟨savedConfig, newRuntime, hr, -⟩
      exact absurd ⟨savedConfig, newRuntime, hr⟩ hreaches

/-- `reload` of the sample controller. -/
def sampleReload (fs : Fs) (start : StartEnv) : ReloadOutcome :=
  letI := sampleNet; letI := sampleGlob; letI := sampleJson
  sampleManager.reload (sampleReloadEnv fs start)

/-- A config file that cannot be read leaves no runtime, although none was stopped for it, and no trace
in the snapshot. -/
theorem unreadable_config_stops : sampleManager.active = some samplePrevious ∧
    ∃ err, (sampleReload sampleFs (sampleStartEnv (.ok ()) (.ok ()))).result = .error err ∧
      (sampleReload sampleFs (sampleStartEnv (.ok ()) (.ok ()))).manager.active = none ∧
      (sampleReload sampleFs (sampleStartEnv (.ok ()) (.ok ()))).manager.snapshot.lastReloadError = none ∧
      ¬ FailureKeeps samplePrevious (sampleReload sampleFs (sampleStartEnv (.ok ()) (.ok ()))) := by
  refine ⟨rfl, _, rfl, rfl, rfl, fun hkeeps => ?_⟩
  exact not_kept_of_inactive rfl rfl (hkeeps _ rfl)

theorem reachesStart_sample (start : StartEnv) : @ReachesStart sampleNet sampleGlob sampleJson
    (sampleReloadEnv sampleFsConfig start) sampleManager ⟨.default, []⟩ sampleConfig :=
  @ReachesStart.mk sampleNet sampleGlob sampleJson _ _ _ _ loadJson_sample toRuntimeConfig_sample
    ⟨0, Nat.zero_le _, rfl⟩

theorem sampleReload_eq (start : StartEnv) : sampleReload sampleFsConfig start =
    @RuntimeManager.startNew sampleNet sampleManager (sampleReloadEnv sampleFsConfig start)
      samplePrevious ⟨.default, []⟩ sampleConfig (.ok ()) :=
  @reload_of_reachesStart sampleNet sampleGlob sampleJson _ _ _ _ _ rfl (reachesStart_sample start)

/-- An environment in which the key of the frontend is missing. -/
def sampleNoKey (bind : Except String Unit) : StartEnv :=
  sampleStartEnv (.error (.msg "no private key found in ./certs/privkey.pem")) bind

theorem failedReload_iff_sample : ∃ err,
    (sampleReload sampleFsConfig (sampleNoKey (.ok ()))).result = .error err ∧
      Kept samplePrevious (sampleReload sampleFsConfig (sampleNoKey (.ok ()))) err := by
  have hkeeps : FailureKeeps samplePrevious (sampleReload sampleFsConfig (sampleNoKey (.ok ()))) :=
    (@failedReload_iff sampleNet sampleGlob sampleJson sampleManager samplePrevious
      (sampleReloadEnv sampleFsConfig (sampleNoKey (.ok ()))) rfl).mpr
      ⟨_, _, reachesStart_sample _, fun hpanics => hpanics.capacity (by decide)⟩
  rw [sampleReload_eq] at hkeeps ⊢
  exact ⟨_, rfl, hkeeps _ rfl⟩

/-! ### A reported start is a real start -/

/-- A start that returns `Ok` has bound its listener. -/
def StartIsReal (env : StartEnv) (appConfig : AppConfigFile) (runtime : RuntimeConfig) : Prop :=
  ∀ active, startActiveRuntime env appConfig runtime = .ok active →
    active.handle.task = .serving runtime.listenAddr

theorem spawnedTask_serving {env : StartEnv} {cfg : RuntimeConfig} :
    spawnedTask env cfg = .serving cfg.listenAddr ↔ env.bind cfg.listenAddr = .ok () := by
  unfold spawnedTask
  cases env.bind cfg.listenAddr <;> simp

/-- A start reports what it did exactly when the bind succeeds or an earlier step fails. -/
theorem startIsReal_iff {env : StartEnv} {appConfig : AppConfigFile} {runtime : RuntimeConfig} :
    StartIsReal env appConfig runtime ↔
      (Prepared env runtime → env.bind runtime.listenAddr = .ok ()) := by
  constructor
  · intro hreal hp
    exact spawnedTask_serving.mp (hreal _ (startActiveRuntime_eq_ok.mpr ⟨hp, rfl⟩))
  · intro hbind active hs
    obtain ⟨hp, rfl⟩ := startActiveRuntime_eq_ok.mp hs
    exact spawnedTask_serving.mpr (hbind hp)

/-- What a reload must come to when the new address cannot be bound. -/
structure FallsBack [Net] (previous : ActiveRuntime) (savedConfig : AppConfigFile)
    (newRuntime : RuntimeConfig) (outcome : ReloadOutcome) : Prop where
  failed : ∃ err, outcome.result = .error err
  restarted : ∃ active, outcome.manager.active = some active ∧
    active.appConfig = previous.appConfig ∧ active.runtime = previous.runtime ∧
    active.handle.task = .serving previous.runtime.listenAddr
  snapshot : ¬ (outcome.manager.snapshot.pendingReload = false ∧ ∃ active : ActiveRuntime,
    active.appConfig = savedConfig ∧ active.runtime = newRuntime ∧
      outcome.manager.snapshot.activeRuntime = runtimeSummary active)

/-- A start ends with an error. -/
def StartFails (env : StartEnv) (runtime : RuntimeConfig) : Prop :=
  ¬ Prepared env runtime ∧ ¬ StartPanics env runtime

theorem not_fallsBack_of_inactive [Net] {previous : ActiveRuntime} {savedConfig : AppConfigFile}
    {newRuntime : RuntimeConfig} {outcome : ReloadOutcome} (h : outcome.manager.active = none) :
    ¬ FallsBack previous savedConfig newRuntime outcome := by
  intro hf
  obtain ⟨active, ha, -⟩ := hf.restarted
  rw [h] at ha
  cases ha

theorem not_fallsBack_of_ok [Net] {previous : ActiveRuntime} {savedConfig : AppConfigFile}
    {newRuntime : RuntimeConfig} {outcome : ReloadOutcome} {snapshot : RuntimeManagerState}
    (h : outcome.result = .ok snapshot) : ¬ FallsBack previous savedConfig newRuntime outcome := by
  intro hf
  obtain ⟨err, herr⟩ := hf.failed
  rw [h] at herr
  cases herr

theorem fallsBack_restartPrevious [Net] {m : RuntimeManager} {env : ReloadEnv} {previous : ActiveRuntime}
    {savedConfig : AppConfigFile} {newRuntime : RuntimeConfig} {startErr : AnyError}
    {stopped : Except AnyError Unit} :
    FallsBack previous savedConfig newRuntime (m.restartPrevious env previous startErr stopped) ↔
      Prepared env.restart previous.runtime ∧
        env.restart.bind previous.runtime.listenAddr = .ok () := by
  rcases restartPrevious_cases m env previous startErr stopped with
    ⟨hp, hm⟩ | ⟨hn, restartErr, message, hm⟩
  · rw [hm]
    constructor
    · intro hf
      obtain ⟨active, ha, -, -, htask⟩ := hf.restarted
      obtain rfl := Option.some.inj ha
      exact ⟨hp, spawnedTask_serving.mp htask⟩
    · rintro ⟨-, hbind⟩
      exact ⟨⟨startErr, rfl⟩, ⟨_, rfl, rfl, rfl, spawnedTask_serving.mpr hbind⟩,
        fun hc => Bool.noConfusion hc.1⟩
  · rw [hm]
    exact ⟨fun hf => absurd hf (not_fallsBack_of_inactive rfl), fun ⟨hp, _⟩ => absurd hp hn⟩

/-- A reload falls back exactly when the old listener is released, the new start ends with an error,
and the restart succeeds and binds. -/
theorem fallsBack_iff [Net] [Glob] [ConfigJson] {m : RuntimeManager} {env : ReloadEnv}
    {previous : ActiveRuntime} {savedConfig : AppConfigFile} {newRuntime : RuntimeConfig}
    (h : m.active = some previous)
    (hload : AppConfigFile.loadJson env.fs m.configPath = .ok savedConfig)
    (hvalid : savedConfig.toRuntimeConfig env.fs = .ok newRuntime) :
    FallsBack previous savedConfig newRuntime (m.reload env) ↔
      (∃ i ≤ env.tries, env.release i = .ok ()) ∧ StartFails env.start newRuntime ∧
        Prepared env.restart previous.runtime ∧
        env.restart.bind previous.runtime.listenAddr = .ok () := by
  by_cases hreleased : ∃ i ≤ env.tries, env.release i = .ok ()
  · rw [reload_of_reachesStart h ⟨hload, hvalid, hreleased⟩]
    unfold RuntimeManager.startNew
    rcases startActiveRuntime_cases env.start savedConfig newRuntime with
      ⟨hp, hs⟩ | ⟨hpanics, text, hs⟩ | ⟨hn, hnp, err, hs⟩
    · -- the start is reported, whatever its bind comes to
      rw [hs]
      exact ⟨fun hf => absurd hf (not_fallsBack_of_ok rfl),
        fun ⟨_, hfails, _⟩ => absurd hp hfails.1⟩
    · rw [hs]
      exact ⟨fun hf => absurd hf (not_fallsBack_of_inactive rfl),
        fun ⟨_, hfails, _⟩ => absurd hpanics hfails.2⟩
    · rw [hs]
      exact fallsBack_restartPrevious.trans
        ⟨fun hr => ⟨hreleased, ⟨hn, hnp⟩, hr⟩, fun hr => hr.2.2⟩
  · have hearly : ¬ ∃ savedConfig newRuntime, ReachesStart env m savedConfig newRuntime :=
      fun ⟨_, _, hr⟩ => hreleased hr.released
    obtain ⟨err, stopped, hm⟩ := reload_of_not_reachesStart h hearly
    rw [hm]
    exact ⟨fun hf => absurd hf (not_fallsBack_of_inactive rfl), fun ⟨hr, _⟩ => absurd hr hreleased⟩

/-- The address of a runtime cannot be bound. -/
def Unbindable (env : StartEnv) (runtime : RuntimeConfig) : Prop :=
  ∃ err, env.bind runtime.listenAddr = .error err

/-- **Real starts**: a start is real exactly when its bind succeeds or an earlier step fails; and a
reload whose new address cannot be bound falls back exactly when the old listener is released, the new
start ends with an error before it comes to the bind, and the restart succeeds and binds. -/
theorem startIsReal_and_fallsBack_iff [Net] [Glob] [ConfigJson] (startEnv : StartEnv)
    (appConfig : AppConfigFile) (runtime : RuntimeConfig) {m : RuntimeManager} {env : ReloadEnv}
    {previous : ActiveRuntime} {savedConfig : AppConfigFile} {newRuntime : RuntimeConfig}
    (h : m.active = some previous)
    (hload : AppConfigFile.loadJson env.fs m.configPath = .ok savedConfig)
    (hvalid : savedConfig.toRuntimeConfig env.fs = .ok newRuntime) :
    (StartIsReal startEnv appConfig runtime ↔
      (Prepared startEnv runtime → startEnv.bind runtime.listenAddr = .ok ())) ∧
    ((Unbindable env.start newRuntime →
        FallsBack previous savedConfig newRuntime (m.reload env)) ↔
      (Unbindable env.start newRuntime →
        (∃ i ≤ env.tries, env.release i = .ok ()) ∧ StartFails env.start newRuntime ∧
          Prepared env.restart previous.runtime ∧
          env.restart.bind previous.runtime.listenAddr = .ok ())) :=
  ⟨startIsReal_iff, imp_congr_right fun _ => fallsBack_iff h hload hvalid⟩

/-- An environment in which every step but the bind succeeds. -/
def sampleUnbindable : StartEnv :=
  sampleStartEnv (.ok ()) (.error "Address already in use (os error 98)")

/-- A start whose bind fails is reported, and a reload to that address ends with `Ok` and with the new
configuration in the snapshot. -/
theorem unbindable_start_reported :
    (∃ active, startActiveRuntime sampleUnbindable ⟨.default, []⟩ sampleConfig = .ok active ∧
      active.handle.task =
        .failed (.msg "bind frontend TCP listener: Address already in use (os error 98)") ∧
      ¬ StartIsReal sampleUnbindable ⟨.default, []⟩ sampleConfig) ∧
    Unbindable sampleUnbindable sampleConfig ∧
    ∃ active snapshot, (sampleReload sampleFsConfig sampleUnbindable).result = .ok snapshot ∧
      (sampleReload sampleFsConfig sampleUnbindable).manager = ⟨"kidproxy.json", some active, snapshot⟩ ∧
      active.runtime = sampleConfig ∧ snapshot.pendingReload = false ∧
      snapshot.activeRuntime = @runtimeSummary sampleNet active ∧
      ¬ @FallsBack sampleNet samplePrevious ⟨.default, []⟩ sampleConfig
        (sampleReload sampleFsConfig sampleUnbindable) := by
  refine ⟨⟨_, rfl, rfl, fun hreal => ?_⟩, ⟨_, rfl⟩, ?_⟩
  · exact ProxyTask.noConfusion (hreal _ rfl)
  · rw [sampleReload_eq]
    exact ⟨_, _, rfl, rfl, rfl, rfl, rfl, @not_fallsBack_of_ok sampleNet _ _ _ _ _ rfl⟩

theorem startIsReal_and_fallsBack_iff_sample :
    StartIsReal (sampleStartEnv (.ok ()) (.ok ())) ⟨.default, []⟩ sampleConfig ∧
    @FallsBack sampleNet samplePrevious ⟨.default, []⟩ sampleConfig
      (sampleReload sampleFsConfig (sampleNoKey (.error "Address already in use (os error 98)"))) := by
  obtain ⟨hreal, hfalls⟩ := @startIsReal_and_fallsBack_iff sampleNet sampleGlob sampleJson
    (sampleStartEnv (.ok ()) (.ok ())) ⟨.default, []⟩ sampleConfig sampleManager
    (sampleReloadEnv sampleFsConfig (sampleNoKey (.error "Address already in use (os error 98)")))
    samplePrevious ⟨.default, []⟩ sampleConfig rfl loadJson_sample toRuntimeConfig_sample
  refine ⟨hreal.mpr fun _ => rfl, hfalls.mpr (fun _ => ⟨⟨0, Nat.zero_le _, rfl⟩, ?_, ?_, rfl⟩) ⟨_, rfl⟩⟩
  · refine ⟨fun hp => ?_, fun hpanics => hpanics.capacity (by decide)⟩
    cases hp.frontendTls
  · exact ⟨⟨rfl, rfl, rfl⟩, by decide, rfl, rfl⟩

end KidProxy
