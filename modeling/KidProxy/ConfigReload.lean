import KidProxy.ConfigFile
import KidProxy.Reload
import KidProxy.SaveConfig

/-!
# ConfigReload — a saved config comes to run

The config goes to disk as JSON, and every reload reads it back from there.  `Applying` holds after the
save and is kept by each reload, however it ends; so the snapshot shows the saved config through any
number of attempts, and the one that succeeds runs it.  A reload that ends before the start takes the
runtime away and leaves the snapshot alone, so that nothing may run while no reload is pending
(`LosesRuntime`).
-/

namespace KidProxy

/-- The runtime was started from this config. -/
def ActiveRuntime.Runs (active : ActiveRuntime) (appConfig : AppConfigFile) (runtime : RuntimeConfig) :
    Prop :=
  active.appConfig = appConfig ∧ active.runtime = runtime

/-- The file system at a reload: the config file as the save left it, the other files as the save saw
them. -/
structure Fs.SeesSaved (fs saved : Fs) (path contents : String) : Prop where
  contents : fs.readToString path = .ok contents
  opened : fs.openFile = saved.openFile
  created : fs.createDirAll = saved.createDirAll

/-- The check of a config does not read the config file. -/
theorem toRuntimeConfig_congr [Net] [Glob] {fs saved : Fs} (hopened : fs.openFile = saved.openFile)
    (hcreated : fs.createDirAll = saved.createDirAll) (appConfig : AppConfigFile) :
    appConfig.toRuntimeConfig fs = appConfig.toRuntimeConfig saved := by
  obtain ⟨read, opened, created⟩ := fs
  obtain ⟨read', opened', created'⟩ := saved
  obtain rfl : opened = opened' := hopened
  obtain rfl : created = created' := hcreated
  rfl

namespace RuntimeManager

/-- `m` after a save of `draft` to the manager `start` and some reloads. -/
structure Applying (start : RuntimeManager) (draft : AppConfigFile) (runtime : RuntimeConfig)
    (m : RuntimeManager) : Prop where
  path : m.configPath = start.configPath
  /-- The snapshot shows the saved config, whatever became of the reloads. -/
  saved : m.snapshot.savedConfig = draft
  /-- What runs is the saved config, or what ran before. -/
  running : ∀ active, m.active = some active → active.Runs draft runtime ∨
    ∃ previous, start.active = some previous ∧ active.Runs previous.appConfig previous.runtime
  /-- Where no reload is pending, what runs is the saved config. -/
  settled : ∀ active, m.active = some active → m.snapshot.pendingReload = false →
    active.appConfig.Same draft

section Steps

variable {start m : RuntimeManager} {draft : AppConfigFile} {runtime : RuntimeConfig}

theorem Applying.withoutRuntime (h : Applying start draft runtime m) :
    Applying start draft runtime { m with active := none } where
  path := h.path
  saved := h.saved
  running := by
    intro active hactive
    cases hactive
  settled := by
    intro active hactive
    cases hactive

variable [Net]

theorem Applying.installNew (h : Applying start draft runtime m) (stopped : Except AnyError Unit)
    {active : ActiveRuntime} (hruns : active.Runs draft runtime) :
    Applying start draft runtime (m.installNew draft active stopped).manager where
  path := h.path
  saved := rfl
  running := by
    intro other hother
    obtain rfl : active = other := Option.some.inj hother
    exact .inl hruns
  settled := by
    intro other hother _
    obtain rfl : active = other := Option.some.inj hother
    rw [hruns.1]

/-- The fallback branch runs what ran before, and leaves the reload pending. -/
theorem Applying.restartPrevious (h : Applying start draft runtime m) {previous : ActiveRuntime}
    (hactive : m.active = some previous) (env : ReloadEnv) (err : AnyError)
    (stopped : Except AnyError Unit) :
    Applying start draft runtime (m.restartPrevious env previous err stopped).manager := by
  rcases restartPrevious_cases m env previous err stopped with ⟨hp, hm⟩ | ⟨-, restartErr, message, hm⟩
  · rw [hm]
    refine ⟨h.path, h.saved, ?_, ?_⟩
    · intro active hsome
      obtain rfl : hp.active previous.appConfig = active := Option.some.inj hsome
      exact h.running previous hactive
    · intro active _ hpending
      cases hpending
  · rw [hm]
    refine ⟨h.path, h.saved, ?_, ?_⟩
    · intro active hsome
      cases hsome
    · intro active hsome
      cases hsome

theorem Applying.startNew (h : Applying start draft runtime m) {previous : ActiveRuntime}
    (hactive : m.active = some previous) (env : ReloadEnv) (stopped : Except AnyError Unit) :
    Applying start draft runtime (m.startNew env previous draft runtime stopped).manager := by
  unfold RuntimeManager.startNew
  rcases startActiveRuntime_cases env.start draft runtime with
    ⟨hp, hs⟩ | ⟨-, text, hs⟩ | ⟨-, -, err, hs⟩
  · rw [hs]
    exact h.installNew stopped ⟨rfl, rfl⟩
  · rw [hs]
    exact h.withoutRuntime
  · rw [hs]
    exact h.restartPrevious hactive env err stopped

variable [Glob] [ConfigJson] {saved : Fs} {contents : String} {env : ReloadEnv}

/-- Only the release of the old listener stands between a reload and the start of the saved config. -/
theorem reachesStart_of_seesSaved (hpath : m.configPath = start.configPath)
    (hvalid : draft.toRuntimeConfig saved = .ok runtime) (hparse : ConfigJson.parse contents = .ok draft)
    (hfs : env.fs.SeesSaved saved start.configPath contents)
    (hreleased : ∃ i ≤ env.tries, env.release i = .ok ()) : ReachesStart env m draft runtime where
  load := by
    rw [hpath, AppConfigFile.loadJson_of_contents hfs.contents, hparse]
    rfl
  valid := by rw [toRuntimeConfig_congr hfs.opened hfs.created, hvalid]
  released := hreleased

/-- **One reload**, whichever way it ends. -/
theorem Applying.reload (h : Applying start draft runtime m)
    (hvalid : draft.toRuntimeConfig saved = .ok runtime) (hparse : ConfigJson.parse contents = .ok draft)
    (hfs : env.fs.SeesSaved saved start.configPath contents) :
    Applying start draft runtime (m.reload env).manager := by
  rcases hactive : m.active with _ | previous
  · rw [reload_of_inactive hactive]
    exact h
  · by_cases hreaches : ∃ savedConfig newRuntime, ReachesStart env m savedConfig newRuntime
    · obtain ⟨savedConfig, newRuntime, hr⟩ := hreaches
      obtain ⟨rfl, rfl⟩ := hr.unique (reachesStart_of_seesSaved h.path hvalid hparse hfs hr.released)
      rw [reload_of_reachesStart hactive hr]
      exact h.startNew hactive env _
    · obtain ⟨err, stopped, hm⟩ := reload_of_not_reachesStart hactive hreaches
      rw [hm]
      exact h.withoutRuntime

end Steps

end RuntimeManager

end KidProxy
