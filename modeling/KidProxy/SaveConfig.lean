import KidProxy.Agreement

/-!
# SaveConfig — what one `save_config` leaves on disk and in the snapshot

The config is validated first and the snapshot is written last, so the file is the only place where a
failing call can leave something behind: `fs::write` truncates the config file and then writes into it.
`saveConfig_all_or_nothing_iff` says that this is the only way.
-/

namespace KidProxy

namespace RuntimeManager

/-- A failed save leaves file and manager as they were; a successful one leaves the config in the file
and in the snapshot, where a reload is pending unless the config is the active one. -/
structure SavesAllOrNothing [Net] [Glob] [ConfigText] (m : RuntimeManager) (env : CallEnv)
    (appConfig : AppConfigFile) (file : String) : Prop where
  kept : ∀ err m' file', m.saveConfig env appConfig file = (.error err, m', file') →
    file' = file ∧ m' = m
  saved : ∀ state m' file', m.saveConfig env appConfig file = (.ok state, m', file') →
    ConfigJson.parse file' = .ok appConfig ∧ state = m'.snapshot ∧ state.savedConfig = appConfig ∧
      m'.active = m.active ∧ (state.pendingReload = true ↔
        ¬ ∃ active, m.active = some active ∧ active.appConfig.Same appConfig)

/-- The file was opened for a valid config, and the write failed after it had changed the contents. -/
def Torn [Net] [Glob] [ConfigText] (env : CallEnv) (appConfig : AppConfigFile) (file : String) : Prop :=
  (∃ runtime, appConfig.toRuntimeConfig env.fs = .ok runtime) ∧
    (∃ contents, ConfigText.print appConfig = .ok contents) ∧
    ∃ err left, env.write = .failed err left ∧ left ≠ file

theorem pendingReload_iff (m : RuntimeManager) (appConfig : AppConfigFile) :
    (m.publishSaved appConfig (m.activeMatches appConfig)).snapshot.pendingReload = true ↔
      ¬ ∃ active, m.active = some active ∧ active.appConfig.Same appConfig := by
  rw [← activeMatches_eq_true]
  show (!m.activeMatches appConfig) = true ↔ _
  rw [Bool.not_eq_true', Bool.not_eq_true]

/-- What `write_json` does, by what the printer and the write come to. -/
theorem writeJson_cases [ConfigText] (outcome : WriteOutcome) (appConfig : AppConfigFile)
    (path file : String) :
    (∃ err, appConfig.writeJson outcome path file = (.error err, file) ∧
      ∀ contents, ConfigText.print appConfig ≠ .ok contents) ∨
    (∃ contents, ConfigText.print appConfig = .ok contents ∧ outcome = .written ∧
      appConfig.writeJson outcome path file = (.ok (), contents)) ∨
    ∃ contents err left err', ConfigText.print appConfig = .ok contents ∧ outcome = .failed err left ∧
      appConfig.writeJson outcome path file = (.error err', left) := by
  unfold AppConfigFile.writeJson
  cases hprint : ConfigText.print appConfig with
  | error err =>
    refine .inl ⟨_, rfl, fun contents hc => ?_⟩
    cases hc
  | ok contents =>
    cases outcome with
    | written => exact .inr (.inl ⟨contents, rfl, rfl, rfl⟩)
    | failed err left => exact .inr (.inr ⟨contents, err, left, _, rfl, rfl, rfl⟩)

section Outcome

variable [Net] [Glob] [ConfigText] {m : RuntimeManager} {env : CallEnv} {appConfig : AppConfigFile}
  {file : String}

/-- A save of a valid config is decided by the write of the file. -/
theorem saveConfig_of_not_written {runtime : RuntimeConfig} {err : AnyError} {left : String}
    (hvalid : appConfig.toRuntimeConfig env.fs = .ok runtime)
    (hw : appConfig.writeJson env.write m.configPath file = (.error err, left)) :
    m.saveConfig env appConfig file = (.error err, m, left) := by
  unfold saveConfig
  rw [hvalid]
  dsimp only
  rw [hw]

theorem saveConfig_of_written {runtime : RuntimeConfig} {contents : String}
    (hvalid : appConfig.toRuntimeConfig env.fs = .ok runtime)
    (hw : appConfig.writeJson env.write m.configPath file = (.ok (), contents)) :
    m.saveConfig env appConfig file =
      (.ok (m.publishSaved appConfig (m.activeMatches appConfig)).snapshot,
        m.publishSaved appConfig (m.activeMatches appConfig), contents) := by
  unfold saveConfig
  rw [hvalid]
  dsimp only
  rw [hw]

/-- A failed save is right when it has not touched the file. -/
theorem savesAllOrNothing_of_error {err : AnyError} {left : String}
    (hsave : m.saveConfig env appConfig file = (.error err, m, left)) :
    m.SavesAllOrNothing env appConfig file ↔ left = file := by
  constructor
  · intro hall
    exact (hall.kept err m left hsave).1
  · rintro rfl
    refine ⟨fun e m' file' h => ?_, fun s m' file' h => ?_⟩
    · rw [hsave] at h
      cases h
      exact ⟨rfl, rfl⟩
    · rw [hsave] at h
      cases h

/-- A save whose write goes through is right when the printed config reads back. -/
theorem savesAllOrNothing_of_ok {contents : String}
    (hsave : m.saveConfig env appConfig file =
      (.ok (m.publishSaved appConfig (m.activeMatches appConfig)).snapshot,
        m.publishSaved appConfig (m.activeMatches appConfig), contents))
    (hparse : ConfigJson.parse contents = .ok appConfig) : m.SavesAllOrNothing env appConfig file := by
  refine ⟨fun e m' file' h => ?_, fun s m' file' h => ?_⟩
  · rw [hsave] at h
    cases h
  · rw [hsave] at h
    cases h
    exact ⟨hparse, rfl, rfl, rfl, m.pendingReload_iff appConfig⟩

end Outcome

/-- **A save is all or nothing** exactly when no write of it fails part-way: for every config, manager,
file and failure, where a printed config reads back. -/
theorem saveConfig_all_or_nothing_iff [Net] [Glob] [ConfigText] (hround : ManagerCalls.RoundTrips)
    (m : RuntimeManager) (env : CallEnv) (appConfig : AppConfigFile) (file : String) :
    m.SavesAllOrNothing env appConfig file ↔ ¬ Torn env appConfig file := by
  cases hvalid : appConfig.toRuntimeConfig env.fs with
  | error err =>
    have hsave : m.saveConfig env appConfig file = (.error err, m, file) := by
      unfold saveConfig
      rw [hvalid]
    refine ⟨?_, fun _ => (savesAllOrNothing_of_error hsave).mpr rfl⟩
    rintro - ⟨⟨runtime, hruntime⟩, -⟩
    rw [hvalid] at hruntime
    cases hruntime
  | ok runtime =>
    rcases writeJson_cases env.write appConfig m.configPath file with
      ⟨err, hw, hprint⟩ | ⟨contents, hprint, hwritten, hw⟩ | ⟨contents, err, left, err', hprint, hfailed, hw⟩
    · -- the printer failed before the file was touched
      have hsave := saveConfig_of_not_written hvalid hw
      refine ⟨?_, fun _ => (savesAllOrNothing_of_error hsave).mpr rfl⟩
      rintro - ⟨-, ⟨contents, hcontents⟩, -⟩
      exact hprint contents hcontents
    · have hsave := saveConfig_of_written hvalid hw
      refine ⟨?_, fun _ => savesAllOrNothing_of_ok hsave (hround appConfig contents hprint)⟩
      rintro - ⟨-, -, err, left, hfailed, -⟩
      rw [hwritten] at hfailed
      cases hfailed
    · rw [savesAllOrNothing_of_error (saveConfig_of_not_written hvalid hw)]
      constructor
      · rintro rfl ⟨-, -, err₂, left₂, hfailed₂, hne⟩
        rw [hfailed] at hfailed₂
        cases hfailed₂
        exact hne rfl
      · intro hwhole
        by_contra hne
        exact hwhole ⟨⟨runtime, hvalid⟩, ⟨contents, hprint⟩, err, left, hfailed, hne⟩

end RuntimeManager

/-- The disk is full once the config file is truncated. -/
def sampleTornEnv : CallEnv :=
  { sampleOk with write := .failed "No space left on device (os error 28)" "" }

/-- The failed save leaves an empty config file, which the next reload refuses. -/
theorem torn_save_keeps_nothing :
    letI := sampleNet; letI := sampleGlob; letI := sampleText
    (∃ err, sampleStarted.saveConfig sampleTornEnv (sampleApp "other.test") (sampleSaved "example.test") =
      (.error err, sampleStarted, "")) ∧ sampleSaved "example.test" ≠ "" ∧
      ConfigJson.parse "" = .error "expected value at line 1 column 1" := by
  refine ⟨⟨_, rfl⟩, by decide, rfl⟩

theorem saveConfig_sample_all_or_nothing :
    letI := sampleNet; letI := sampleGlob; letI := sampleText
    sampleStarted.SavesAllOrNothing sampleOk (sampleApp "other.test") (sampleSaved "example.test") := by
  let _ := sampleNet; let _ := sampleGlob; let _ := sampleText
  refine (RuntimeManager.saveConfig_all_or_nothing_iff roundTrips_sample _ _ _ _).mpr ?_
  rintro ⟨-, -, err, left, hfailed, -⟩
  cases hfailed

end KidProxy
