import KidProxy.Agreement
import KidProxy.Reload

/-!
# Recovery — when a runtime can come back

Without an active runtime only a reload that took the last one can bring one back.  A reload is `Viable`
from the step that takes the runtime to the one that installs the new or the previous one, unless the config
it has read is one that no file system makes valid; from there some answers of the environment lead to a
runtime (`restores_of_viable`).  It is viable no more once the runtime that it has installed is the
controller's, once neither of the two starts, and once it has returned.  Where no reload is viable, there is
never a runtime again (`dead_step`).
-/

namespace KidProxy

open Transition

/-- A reload that has no runtime installed, and can still install one. -/
def ReloadStage.Viable [Net] [Glob] : ReloadStage → Prop
  | .loaded _ savedConfig => ∃ fs runtime, savedConfig.toRuntimeConfig fs = .ok runtime
  | .taken _ | .planned _ _ | .stopping _ _ | .stopped _ | .released _ | .started _ _ | .fallingBack _ _
  | .restarted _ _ => True
  | .taking | .installed _ | .summarized _ _ | .reinstalled _ | .restartFailed _ | .returned _ => False

/-- What a reload goes by once the config was found valid. -/
def ReloadStage.plan : ReloadStage → Option ReloadPlan
  | .planned _ plan | .stopping _ plan | .stopped plan | .released plan | .fallingBack plan _ => some plan
  | .taking | .taken _ | .loaded _ _ | .started _ _ | .installed _ | .summarized _ _ | .restarted _ _
  | .reinstalled _ | .restartFailed _ | .returned _ => none

/-- The previous runtime of a reload had a writer, so the channel for another one can be made. -/
def ManagerCall.Restartable : ManagerCall → Prop
  | .reload stage => ∀ plan ∈ stage.plan, MpscCapacity plan.previousRuntime.maxInflightEvents
  | .save _ | .shutdown _ => True

namespace ManagerCalls

/-- No runtime, and no reload that can install one. -/
structure Dead [Net] [Glob] (s : ManagerCalls) : Prop where
  active : s.shared.manager.active = none
  calls : ∀ (i : ℕ) (stage : ReloadStage), s.calls[i]? = some (.reload stage) → ¬ stage.Viable

/-- What every run keeps. -/
structure Steadfast (path : String) (s : ManagerCalls) : Prop where
  path : s.shared.manager.configPath = path
  calls : ∀ (i : ℕ) (call : ManagerCall), s.calls[i]? = some call → call.Restartable

end ManagerCalls

section Effect

variable [Net] [Glob] [ConfigText] {env : CallEnv} {x y : ManagerShared} {call call' : ManagerCall}
  {path : String}

theorem CallEffect.configPath (h : CallEffect env x call y call') :
    y.manager.configPath = x.manager.configPath := by
  cases h with
  | save h => cases h <;> rfl
  | reload h => cases h <;> rfl
  | shutdown h => cases h <;> rfl

theorem CallEffect.restartable (h : CallEffect env x call y call') (hcall : call.Restartable) :
    call'.Restartable := by
  cases h with
  | save h => trivial
  | shutdown h => trivial
  | reload h =>
    cases h with
    | @planned previous savedConfig newRuntime hvalid =>
      intro plan hplan
      obtain rfl := Option.some.inj hplan
      exact previous.writer.capacity
    | gave | stopped | released | startFailed => exact hcall
    | _ =>
      intro plan hplan
      cases hplan

/-- A step that finds no runtime, of a call that is no viable reload, starts nothing and installs nothing. -/
theorem CallEffect.dead (h : CallEffect env x call y call') (hactive : x.manager.active = none)
    (hcall : ∀ stage, call = .reload stage → ¬ stage.Viable) :
    y.manager.active = none ∧ y.started = x.started ∧
      ∀ stage, call' = .reload stage → ¬ stage.Viable := by
  cases h with
  | save h =>
    have hcall' : ∀ {stage' : SaveStage} (stage : ReloadStage),
        ManagerCall.save stage' = .reload stage → ¬ stage.Viable := fun _ heq => nomatch heq
    cases h <;> exact ⟨hactive, rfl, hcall'⟩
  | shutdown h =>
    have hcall' : ∀ {stage' : ManagerStop} (stage : ReloadStage),
        ManagerCall.shutdown stage' = .reload stage → ¬ stage.Viable := fun _ heq => nomatch heq
    cases h with
    | took ha => exact absurd (hactive.symm.trans ha) (Option.some_ne_none _).symm
    | missing ha => exact ⟨hactive, rfl, hcall'⟩
    | gave => exact ⟨hactive, rfl, hcall'⟩
    | stopped => exact ⟨hactive, rfl, hcall'⟩
  | @reload stage y stage' h =>
    have hdead := hcall stage rfl
    have hreturned : ∀ {result : Except AnyError RuntimeManagerState} (stage : ReloadStage),
        ManagerCall.reload (.returned result) = .reload stage → ¬ stage.Viable := by
      intro result stage heq
      obtain rfl := ManagerCall.reload.inj heq
      exact not_false
    cases h with
    | took ha => exact absurd (hactive.symm.trans ha) (Option.some_ne_none _).symm
    | summarized ha => exact absurd (hactive.symm.trans ha) (Option.some_ne_none _).symm
    | planned hvalid => exact absurd ⟨_, _, hvalid⟩ hdead
    | missing | invalid | vanished | published | publishedError | publishedFailure =>
      exact ⟨hactive, rfl, hreturned⟩
    | _ => exact absurd trivial hdead

end Effect

/-! ### A way back -/

/-- A file system on which every file can be opened and every directory made. -/
def openFs : Fs where
  readToString _ := .error "No such file or directory (os error 2)"
  openFile _ := .ok ()
  createDirAll _ := .ok ()

/-- Every step of a start succeeds, if the database can be opened. -/
def startWith (connected : Except String Unit) : StartEnv where
  fs := openFs
  probe _ := .ok true
  connect _ := connected
  migrate _ := .ok ()
  stored _ := []
  buildFrontendTls _ _ := .ok ()
  buildUpstreamClient _ _ := .ok ()
  bind _ := .ok ()

/-- The new runtime does not start, and the previous one does. -/
def revivingEnv (fs : Fs) : CallEnv where
  fs := fs
  stop := ⟨some (.returned (.ok ())), .cancelled⟩
  release _ := .ok ()
  tries := 0
  start := startWith (.error "unable to open database file")
  restart := startWith (.ok ())
  joinError message := s!"task panicked with message \"{message}\""
  write := .written

theorem startWith_ok (appConfig : AppConfigFile) {runtime : RuntimeConfig}
    (hcapacity : MpscCapacity runtime.maxInflightEvents) :
    ∃ active, startActiveRuntime (startWith (.ok ())) appConfig runtime = .ok active := by
  have hparent : ensureSqliteParentDir openFs runtime.sqlitePath = .ok () := by
    unfold ensureSqliteParentDir
    split_ifs
    · rfl
    · cases pathParent runtime.sqlitePath <;> rfl
  have hp : Prepared (startWith (.ok ())) runtime := ⟨⟨hparent, rfl, rfl⟩, hcapacity, rfl, rfl⟩
  exact ⟨_, startActiveRuntime_eq_ok.mpr ⟨hp, rfl⟩⟩

theorem startWith_error (err : String) (appConfig : AppConfigFile) (runtime : RuntimeConfig) :
    ∃ err', startActiveRuntime (startWith (.error err)) appConfig runtime = .error (.error err') := by
  rcases startActiveRuntime_cases (startWith (.error err)) appConfig runtime with
    ⟨hp, -⟩ | ⟨hpanics, -⟩ | ⟨-, -, err', hs⟩
  · cases hp.connect
  · cases hpanics.connect
  · exact ⟨err', hs⟩

namespace ManagerCalls

section Restores

variable [Net] [Glob] [ConfigText] {env : CallEnv} {x y : ManagerShared} {stage stage' : ReloadStage}
  {plan : ReloadPlan} {fs : Fs}

/-- A reload that takes its steps from `x` alone comes to install a runtime. -/
def Restores (env : CallEnv) (x : ManagerShared) (stage : ReloadStage) : Prop :=
  ∃ y stage', Alone env x (.reload stage) y (.reload stage') ∧ y.manager.active ≠ none

theorem Restores.step (h : stage.step env x = some (y, stage')) (rest : Restores env y stage') :
    Restores env x stage := by
  obtain ⟨z, last, hz, hactive⟩ := rest
  have hcall : ManagerCall.step env x (.reload stage) = some (y, .reload stage') := by
    simp only [ManagerCall.step, h]
    rfl
  exact ⟨z, last, .step hcall hz, hactive⟩

theorem restores_started (env : CallEnv) (x : ManagerShared) (active : ActiveRuntime)
    (savedConfig : AppConfigFile) : Restores env x (.started active savedConfig) :=
  .step rfl ⟨_, _, .refl, Option.some_ne_none active⟩

theorem restores_restarted (env : CallEnv) (x : ManagerShared) (active : ActiveRuntime) (err : AnyError) :
    Restores env x (.restarted active err) :=
  .step rfl ⟨_, _, .refl, Option.some_ne_none active⟩

theorem restores_fallingBack (fs : Fs) (x : ManagerShared) (err : AnyError)
    (hcapacity : MpscCapacity plan.previousRuntime.maxInflightEvents) :
    Restores (revivingEnv fs) x (.fallingBack plan err) := by
  obtain ⟨active, hs⟩ := startWith_ok plan.previousConfig hcapacity
  have hstep : ReloadStage.step (revivingEnv fs) x (.fallingBack plan err) =
      some (x.addStarted active, .restarted active err) := by
    simp only [ReloadStage.step, revivingEnv, hs]
  exact .step hstep (restores_restarted _ _ active err)

theorem restores_released (fs : Fs) (x : ManagerShared)
    (hcapacity : MpscCapacity plan.previousRuntime.maxInflightEvents) :
    Restores (revivingEnv fs) x (.released plan) := by
  obtain ⟨err, hs⟩ := startWith_error "unable to open database file" plan.savedConfig plan.newRuntime
  have hstep : ReloadStage.step (revivingEnv fs) x (.released plan) = some (x, .fallingBack plan err) := by
    simp only [ReloadStage.step, revivingEnv, hs]
  exact .step hstep (restores_fallingBack fs x err hcapacity)

theorem restores_stopped (fs : Fs) (x : ManagerShared)
    (hcapacity : MpscCapacity plan.previousRuntime.maxInflightEvents) :
    Restores (revivingEnv fs) x (.stopped plan) := by
  have hw : waitForListenerRelease plan.previousRuntime.listenAddr (revivingEnv fs).release
      (revivingEnv fs).tries = .ok () := waitForListenerRelease_eq_ok.mpr ⟨0, Nat.le_refl 0, rfl⟩
  have hstep : ReloadStage.step (revivingEnv fs) x (.stopped plan) = some (x, .released plan) := by
    simp only [ReloadStage.step, hw]
  exact .step hstep (restores_released fs x hcapacity)

theorem restores_planned (fs : Fs) (x : ManagerShared) (previous : ActiveRuntime)
    (hcapacity : MpscCapacity plan.previousRuntime.maxInflightEvents) :
    Restores (revivingEnv fs) x (.planned previous plan) :=
  .step rfl (.step rfl (restores_stopped fs _ hcapacity))

theorem restores_loaded (x : ManagerShared) (previous : ActiveRuntime) {savedConfig : AppConfigFile}
    {runtime : RuntimeConfig} (hvalid : savedConfig.toRuntimeConfig fs = .ok runtime) :
    Restores (revivingEnv fs) x (.loaded previous savedConfig) := by
  have hstep : ReloadStage.step (revivingEnv fs) x (.loaded previous savedConfig) =
      some (x, .planned previous ⟨savedConfig, runtime, previous.appConfig, previous.runtime⟩) := by
    simp only [ReloadStage.step, revivingEnv, hvalid]
  exact .step hstep (restores_planned fs x previous previous.writer.capacity)

theorem restores_taken (x : ManagerShared) (previous : ActiveRuntime) {savedConfig : AppConfigFile}
    {runtime : RuntimeConfig} (hload : AppConfigFile.loadJson fs x.manager.configPath = .ok savedConfig)
    (hvalid : savedConfig.toRuntimeConfig fs = .ok runtime) :
    Restores (revivingEnv fs) x (.taken previous) := by
  have hstep : ReloadStage.step (revivingEnv fs) x (.taken previous) =
      some (x, .loaded previous savedConfig) := by
    simp only [ReloadStage.step, revivingEnv, hload]
  exact .step hstep (restores_loaded x previous hvalid)

/-- **A viable reload** leads to a runtime in some environment, where some config can be read. -/
theorem restores_of_viable (hviable : stage.Viable) (hcall : (ManagerCall.reload stage).Restartable)
    {savedConfig : AppConfigFile} {runtime : RuntimeConfig}
    (hload : AppConfigFile.loadJson fs x.manager.configPath = .ok savedConfig)
    (hvalid : savedConfig.toRuntimeConfig fs = .ok runtime) : ∃ env, Restores env x stage := by
  cases stage with
  | taken previous => exact ⟨_, restores_taken x previous hload hvalid⟩
  | loaded previous config =>
    obtain ⟨fs', runtime', hvalid'⟩ := hviable
    exact ⟨_, restores_loaded x previous hvalid'⟩
  | planned previous plan => exact ⟨_, restores_planned openFs x previous (hcall plan rfl)⟩
  | stopping previous plan => exact ⟨_, .step rfl (restores_stopped openFs x (hcall plan rfl))⟩
  | stopped plan => exact ⟨_, restores_stopped openFs x (hcall plan rfl)⟩
  | released plan => exact ⟨_, restores_released openFs x (hcall plan rfl)⟩
  | started active savedConfig => exact ⟨_, restores_started (revivingEnv openFs) x active savedConfig⟩
  | fallingBack plan err => exact ⟨_, restores_fallingBack openFs x err (hcall plan rfl)⟩
  | restarted active err => exact ⟨_, restores_restarted (revivingEnv openFs) x active err⟩
  | taking | installed | summarized | reinstalled | restartFailed | returned => exact hviable.elim

end Restores

section Run

variable [Net] [Glob] [ConfigText] {s t : ManagerCalls} {path : String} {a : ManagerAction}

theorem steadfast_step (h : Steadfast path s) (hs : s.step a = some t) : Steadfast path t := by
  have henter : ∀ {call : ManagerCall}, call.Restartable → Steadfast path (s.enter call) := by
    intro call hcall
    refine ⟨h.path, fun j d hd => ?_⟩
    rcases Pool.enter_calls hd with hd | ⟨-, rfl⟩
    · exact h.calls j d hd
    · exact hcall
  cases step_effect hs with
  | save => exact henter trivial
  | reload => exact henter fun plan hplan => nomatch hplan
  | shutdown => exact henter trivial
  | @step i env call x call' hcall heff =>
    refine ⟨heff.configPath.trans h.path, fun j d hd => ?_⟩
    rcases Pool.update_calls hd with ⟨-, rfl⟩ | ⟨-, hd⟩
    · exact heff.restartable (h.calls i call hcall)
    · exact h.calls j d hd

/-- **No way back**: without a viable reload every step leaves the proxy without one, and starts nothing. -/
theorem dead_step (h : Dead s) (hs : s.step a = some t) : Dead t ∧ t.shared.started = s.shared.started := by
  have henter : ∀ {call : ManagerCall}, (∀ stage, call = .reload stage → ¬ stage.Viable) →
      Dead (s.enter call) := by
    intro call hcall
    refine ⟨h.active, fun j stage hstage => ?_⟩
    rcases Pool.enter_calls hstage with hstage | ⟨-, heq⟩
    · exact h.calls j stage hstage
    · exact hcall stage heq.symm
  cases step_effect hs with
  | save => exact ⟨henter fun _ heq => (nomatch heq), rfl⟩
  | reload =>
    refine ⟨henter fun stage heq => ?_, rfl⟩
    obtain rfl := ManagerCall.reload.inj heq
    exact not_false
  | shutdown => exact ⟨henter fun _ heq => (nomatch heq), rfl⟩
  | @step i env call x call' hcall heff =>
    obtain ⟨hactive, hstarted, hcall'⟩ :=
      heff.dead h.active fun stage heq => h.calls i stage (heq ▸ hcall)
    refine ⟨⟨hactive, fun j stage hstage => ?_⟩, hstarted⟩
    rcases Pool.update_calls hstage with ⟨-, heq⟩ | ⟨-, hstage⟩
    · exact hcall' stage heq.symm
    · exact h.calls j stage hstage

theorem dead_run (h : Dead s) {as : List ManagerAction} (hrun : run step s as = some t) :
    Dead t ∧ t.shared.started = s.shared.started := by
  refine run_invariant (P := fun t => Dead t ∧ t.shared.started = s.shared.started) ?_ ⟨h, rfl⟩ hrun
  rintro u a v ⟨hu, hstarted⟩ hs
  obtain ⟨hv, hsame⟩ := dead_step hu hs
  exact ⟨hv, hsame.trans hstarted⟩

end Run

end ManagerCalls

section

open ManagerCalls

variable [Net] [Glob] [ConfigText]

/-- **When a runtime comes back**: from any state that calls on a started manager come to, some run leads to
an active runtime exactly where one is active or a reload is viable; where not, no run starts one. -/
theorem runtime_comes_back_iff {fs : Fs} {env : StartEnv} {path file : String} {manager : RuntimeManager}
    {as : List ManagerAction} {s : ManagerCalls}
    (hstart : RuntimeManager.start fs env path = .ok manager)
    (hrun : run step (init manager file) as = some s) :
    ((∃ bs t, run step s bs = some t ∧ t.shared.manager.active ≠ none) ↔
      s.shared.manager.active ≠ none ∨
        ∃ (i : ℕ) (stage : ReloadStage), s.calls[i]? = some (.reload stage) ∧ stage.Viable) ∧
    (¬ (s.shared.manager.active ≠ none ∨
        ∃ (i : ℕ) (stage : ReloadStage), s.calls[i]? = some (.reload stage) ∧ stage.Viable) →
      ∀ bs t, run step s bs = some t →
        t.shared.manager.active = none ∧ t.shared.started = s.shared.started) := by
  obtain ⟨appConfig, hload, hrest⟩ := bind_eq_ok.mp hstart
  obtain ⟨runtime, hvalid, hrest⟩ := bind_eq_ok.mp hrest
  obtain ⟨active, -, hrest⟩ := bind_eq_ok.mp hrest
  have hpath : manager.configPath = path := by
    obtain rfl := Except.ok.inj hrest
    rfl
  have hsteadfast : Steadfast path s := by
    refine run_invariant (fun _ _ _ => steadfast_step) ⟨hpath, fun j call hcall => ?_⟩ hrun
    cases hcall
  have hdead : ¬ (s.shared.manager.active ≠ none ∨
      ∃ (i : ℕ) (stage : ReloadStage), s.calls[i]? = some (.reload stage) ∧ stage.Viable) →
      ∀ bs t, run step s bs = some t →
        t.shared.manager.active = none ∧ t.shared.started = s.shared.started := by
    intro hno bs t ht
    have hs : Dead s := by
      refine ⟨not_not.mp fun hactive => hno (.inl hactive), fun i stage hcall hviable => ?_⟩
      exact hno (.inr ⟨i, stage, hcall, hviable⟩)
    exact ⟨(dead_run hs ht).1.active, (dead_run hs ht).2⟩
  refine ⟨⟨?_, ?_⟩, hdead⟩
  · rintro ⟨bs, t, ht, hactive⟩
    by_contra hno
    exact hactive (hdead hno bs t ht).1
  · rintro (hactive | ⟨i, stage, hcall, hviable⟩)
    · exact ⟨[], s, rfl, hactive⟩
    · have hload' : AppConfigFile.loadJson fs s.shared.manager.configPath = .ok appConfig := by
        rw [hsteadfast.path]
        exact returning_eq_ok.mp hload
      obtain ⟨env', y, stage', hy, hactive⟩ := restores_of_viable hviable (hsteadfast.calls i _ hcall)
        hload' (returning_eq_ok.mp hvalid)
      obtain ⟨n, hn⟩ := run_of_alone hy rfl hcall
      exact ⟨_, _, hn, hactive⟩

end

/-- A reload that has taken the runtime can bring one back; once it finds no config file, no run does. -/
theorem runtime_comes_back_iff_sample :
    let _ := sampleNet; let _ := sampleGlob; let _ := sampleText
    (∃ s, startedCalls [.reload, .step 0 sampleOk] = some s ∧ s.shared.manager.active = none ∧
      ∃ bs t, run ManagerCalls.step s bs = some t ∧ t.shared.manager.active ≠ none) ∧
    ∃ s, startedCalls [.reload, .step 0 sampleOk, .step 0 (revivingEnv openFs)] = some s ∧
      ∀ bs t, run ManagerCalls.step s bs = some t → t.shared.manager.active = none := by
  intro net glob text
  constructor
  · obtain ⟨s, hrun, hnone, hcall⟩ : ∃ s, startedCalls [.reload, .step 0 sampleOk] = some s ∧
        s.shared.manager.active = none ∧ s.calls[0]? = some (.reload (.taken sampleActive)) :=
      ⟨_, rfl, rfl, rfl⟩
    have hiff := (@runtime_comes_back_iff sampleNet sampleGlob sampleText _ _ _ _ _ _ _
      start_sample hrun).1
    exact ⟨s, hrun, hnone, hiff.mpr (.inr ⟨0, _, hcall, trivial⟩)⟩
  · obtain ⟨s, err, hrun, hnone, hcalls⟩ : ∃ s err,
        startedCalls [.reload, .step 0 sampleOk, .step 0 (revivingEnv openFs)] = some s ∧
        s.shared.manager.active = none ∧ s.calls = [.reload (.returned (.error err))] :=
      ⟨_, _, rfl, rfl, rfl⟩
    refine ⟨s, hrun, fun bs t ht => ?_⟩
    refine ((@runtime_comes_back_iff sampleNet sampleGlob sampleText _ _ _ _ _ _ _
      start_sample hrun).2 ?_ bs t ht).1
    rintro (hactive | ⟨i, stage, hcall, hviable⟩)
    · exact hactive hnone
    · rw [hcalls] at hcall
      obtain heq := List.mem_singleton.mp (List.mem_of_getElem? hcall)
      obtain rfl := ManagerCall.reload.inj heq
      exact hviable

end KidProxy
