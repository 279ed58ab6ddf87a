import KidProxy.SingleRuntime

/-!
# Agreement — snapshot, config file and running proxy

A call that has written or read the config file and not yet updated the snapshot holds an unpublished
config.  While two such calls hold different configs, the one that updates the snapshot last need not be
the one that wrote the file last (`saves_disagree`).  Where this does not happen, and no reload reads
another config than the one a save is about to write as the active one, snapshot, file and proxy agree
whenever no call is in progress (`agreement_of_orderly`).
-/

namespace KidProxy

open Transition

theorem RuntimeManager.activeMatches_eq_true {m : RuntimeManager} {appConfig : AppConfigFile} :
    m.activeMatches appConfig = true ↔
      ∃ active, m.active = some active ∧ active.appConfig.Same appConfig := by
  unfold activeMatches
  cases m.active with
  | none => simp
  | some active => simp

/-! ### Configs on their way -/

/-- The config that a call has written or read and not yet put in the snapshot. -/
def SaveStage.unpublished : SaveStage → Option AppConfigFile
  | .written appConfig _ => some appConfig
  | .validating _ | .comparing _ | .writing _ _ | .reading | .returned _ => none

def ReloadStage.unpublished : ReloadStage → Option AppConfigFile
  | .loaded _ savedConfig | .started _ savedConfig | .installed savedConfig
  | .summarized savedConfig _ => some savedConfig
  | .planned _ plan | .stopping _ plan | .stopped plan | .released plan => some plan.savedConfig
  | .taking | .taken _ | .fallingBack _ _ | .restarted _ _ | .reinstalled _ | .restartFailed _
  | .returned _ => none

namespace ManagerCall

def unpublished : ManagerCall → Option AppConfigFile
  | .save stage => stage.unpublished
  | .reload stage => stage.unpublished
  | .shutdown _ => none

/-- The config that a call takes for the active one: a save that found it so, a reload that installed
it. -/
def believed : ManagerCall → Option AppConfigFile
  | .save (.writing appConfig true) | .save (.written appConfig true)
  | .reload (.installed appConfig) | .reload (.summarized appConfig _) => some appConfig
  | _ => none

inductive Returned : ManagerCall → Prop
  | save (result : Except AnyError RuntimeManagerState) : Returned (.save (.returned result))
  | reload (result : Except AnyError RuntimeManagerState) : Returned (.reload (.returned result))
  | shutdown (result : Except AnyError Unit) : Returned (.shutdown (.returned result))

/-- The call will update the snapshot, or is a reload that will install a runtime. -/
def Busy (call : ManagerCall) : Prop := call.unpublished.isSome = true ∨ call.token = 1

/-- What a call never is while all goes well. -/
def Regular : ManagerCall → Prop
  | .save _ => True
  | .reload (.started active savedConfig) => active.appConfig = savedConfig
  | .reload (.fallingBack _ _) | .reload (.restarted _ _) | .reload (.reinstalled _)
  | .reload (.restartFailed _) | .shutdown _ => False
  | .reload _ => True

end ManagerCall

namespace ManagerCalls

/-- No call is in progress. -/
def Idle (s : ManagerCalls) : Prop :=
  ∀ (i : ℕ) (call : ManagerCall), s.calls[i]? = some call → call.Returned

/-- Snapshot, file and proxy agree. -/
structure Agrees [ConfigJson] (s : ManagerCalls) : Prop where
  saved : ∃ disk, ConfigJson.parse s.shared.file = .ok disk ∧
    s.shared.manager.snapshot.savedConfig.Same disk
  active : s.shared.manager.snapshot.pendingReload = false →
    ∃ active, s.shared.manager.active = some active ∧
      active.appConfig.Same s.shared.manager.snapshot.savedConfig

/-- No call holds another unpublished config. -/
def OnlyUnpublished (s : ManagerCalls) (appConfig : AppConfigFile) : Prop :=
  ∀ (j : ℕ) (call : ManagerCall) (other : AppConfigFile), s.calls[j]? = some call →
    call.unpublished = some other → other.Same appConfig

/-- The config file holds what each save is about to write that has found its config active. -/
def HoldsBelieved [ConfigJson] (s : ManagerCalls) : Prop :=
  ∀ (j : ℕ) (appConfig disk : AppConfigFile), s.calls[j]? = some (.save (.writing appConfig true)) →
    ConfigJson.parse s.shared.file = .ok disk → disk.Same appConfig

section Conditions

variable [Net] [Glob] [ConfigText]

/-- What is taken for granted of the next step of a call: validations and starts succeed, and nobody else
writes the config file. -/
def Assumed (s : ManagerCalls) (env : CallEnv) : ManagerCall → Prop
  | .save (.validating appConfig) => ∃ runtime, appConfig.toRuntimeConfig env.fs = .ok runtime
  | .reload (.taken _) =>
    ∀ text, env.fs.readToString s.shared.manager.configPath = .ok text → text = s.shared.file
  | .reload (.loaded _ savedConfig) => ∃ runtime, savedConfig.toRuntimeConfig env.fs = .ok runtime
  | .reload (.released plan) =>
    ∃ active, startActiveRuntime env.start plan.savedConfig plan.newRuntime = .ok active
  | _ => True

/-- Saves and reloads are called, and no shutdown. -/
def Succeeds (s : ManagerCalls) : ManagerAction → Prop
  | .save _ | .reload => True
  | .shutdown => False
  | .step i env => ∀ call, s.calls[i]? = some call → s.Assumed env call

/-- A save writes the config file where no call holds another unpublished config, or fails and leaves it;
a reload can read it, and it holds what is about to be written as active; and the old listener is
released. -/
def OrderlyCall (s : ManagerCalls) (env : CallEnv) : ManagerCall → Prop
  | .save (.writing appConfig _) =>
    (∃ err, appConfig.writeJson env.write s.shared.manager.configPath s.shared.file =
      (.error err, s.shared.file)) ∨
    (∃ file, appConfig.writeJson env.write s.shared.manager.configPath s.shared.file =
      (.ok (), file)) ∧ s.OnlyUnpublished appConfig
  | .reload (.taken _) =>
    (∃ text, env.fs.readToString s.shared.manager.configPath = .ok text) ∧ s.HoldsBelieved
  | .reload (.stopped plan) =>
    waitForListenerRelease plan.previousRuntime.listenAddr env.release env.tries = .ok ()
  | _ => True

def Orderly (s : ManagerCalls) : ManagerAction → Prop
  | .save _ | .reload | .shutdown => True
  | .step i env => ∀ call, s.calls[i]? = some call → s.OrderlyCall env call

end Conditions

/-- The active runtime satisfies `P`, or that of the reload in progress will: it has not read the config
file yet, or a config of `P`. -/
def Leads (s : ManagerCalls) (P : AppConfigFile → Prop) : Prop :=
  (∃ active, s.shared.manager.active = some active ∧ P active.appConfig) ∨
    ∃ (i : ℕ) (call : ManagerCall), s.calls[i]? = some call ∧ call.token = 1 ∧
      ∀ appConfig, call.unpublished = some appConfig → P appConfig

def Busy (s : ManagerCalls) : Prop :=
  ∃ (i : ℕ) (call : ManagerCall), s.calls[i]? = some call ∧ call.Busy

/-- What holds between the calls while the config file holds `disk`. -/
structure Coherent [ConfigJson] (s : ManagerCalls) (disk : AppConfigFile) : Prop where
  single : Single s
  parses : ConfigJson.parse s.shared.file = .ok disk
  regular : ∀ (i : ℕ) (call : ManagerCall), s.calls[i]? = some call → call.Regular
  unpublished : s.OnlyUnpublished disk
  believed : ∀ (i : ℕ) (call : ManagerCall) (appConfig : AppConfigFile), s.calls[i]? = some call →
    call.believed = some appConfig → s.Leads (·.Same appConfig)
  owned : s.Leads fun _ => True
  saved : s.shared.manager.snapshot.savedConfig.Same disk ∨ s.Busy
  active : s.shared.manager.snapshot.pendingReload = false →
    (∃ active, s.shared.manager.active = some active ∧ active.appConfig.Same disk) ∨ s.Busy

/-! ### Steps that go well -/

/-- What a step does where all goes well, as far as snapshot, file and proxy are concerned. -/
inductive Smooth [ConfigJson] (s : ManagerCalls) : ManagerCall → ManagerShared → ManagerCall → Prop
  | quiet {call x call'} (hm : x.manager = s.shared.manager) (hf : x.file = s.shared.file)
      (hr : call'.Regular) (hu : call'.unpublished = call.unpublished)
      (ht : call'.token = call.token) (hb : call'.believed = none ∨ call'.believed = call.believed) :
      Smooth s call x call'
  | compared {appConfig} : Smooth s (.save (.comparing appConfig)) s.shared
      (.save (.writing appConfig (s.shared.manager.activeMatches appConfig)))
  | wrote {appConfig activeMatches file} (hp : ConfigJson.parse file = .ok appConfig)
      (ho : s.OnlyUnpublished appConfig) :
      Smooth s (.save (.writing appConfig activeMatches)) { s.shared with file }
        (.save (.written appConfig activeMatches))
  | published {appConfig activeMatches} : Smooth s (.save (.written appConfig activeMatches))
      { s.shared with manager := s.shared.manager.publishSaved appConfig activeMatches }
      (.save .reading)
  | took {previous} (ha : s.shared.manager.active = some previous) :
      Smooth s (.reload .taking) (s.shared.setActive none) (.reload (.taken previous))
  | loaded {previous savedConfig} (hp : ConfigJson.parse s.shared.file = .ok savedConfig)
      (hb : s.HoldsBelieved) :
      Smooth s (.reload (.taken previous)) s.shared (.reload (.loaded previous savedConfig))
  | installed {active : ActiveRuntime} :
      Smooth s (.reload (.started active active.appConfig)) (s.shared.setActive (some active))
        (.reload (.installed active.appConfig))
  | vanished {savedConfig err} (ha : s.shared.manager.active = none) :
      Smooth s (.reload (.installed savedConfig)) s.shared (.reload (.returned (.error err)))
  | renewed {savedConfig activeRuntime} {snapshot : RuntimeManagerState}
      (hs : snapshot.savedConfig = savedConfig) (hp : snapshot.pendingReload = false) :
      Smooth s (.reload (.summarized savedConfig activeRuntime)) (s.shared.setSnapshot snapshot)
        (.reload (.returned (.ok snapshot)))

/-- The parser reads what the printer wrote. -/
def RoundTrips [ConfigText] : Prop :=
  ∀ appConfig text, ConfigText.print appConfig = .ok text → ConfigJson.parse text = .ok appConfig

section Effect

variable [Net] [Glob] [ConfigText] {s : ManagerCalls} {env : CallEnv} {x : ManagerShared}
  {call call' : ManagerCall}

omit [Net] [Glob] in
theorem loadJson_eq_ok {fs : Fs} {path text : String} {savedConfig : AppConfigFile}
    (hr : fs.readToString path = .ok text) :
    AppConfigFile.loadJson fs path = .ok savedConfig ↔ ConfigJson.parse text = .ok savedConfig := by
  constructor
  · intro h
    obtain ⟨contents, hc, hp⟩ := bind_eq_ok.mp h
    obtain rfl : text = contents := Except.ok.inj (hr.symm.trans (external_eq_ok.mp hc))
    exact external_eq_ok.mp hp
  · exact fun hp => bind_eq_ok.mpr ⟨text, external_eq_ok.mpr hr, external_eq_ok.mpr hp⟩

theorem smooth_save {stage stage' : SaveStage} (h : SaveEffect env s.shared stage x stage')
    (hround : RoundTrips) (hassumed : s.Assumed env (.save stage))
    (horderly : s.OrderlyCall env (.save stage)) : Smooth s (.save stage) x (.save stage') := by
  cases h with
  | invalid hv =>
    obtain ⟨runtime, hruntime⟩ := hassumed
    rw [hv] at hruntime
    cases hruntime
  | validated hv => exact .quiet rfl rfl trivial rfl rfl (.inl rfl)
  | compared => exact .compared
  | notWritten hw =>
    rcases horderly with ⟨err, hfailed⟩ | ⟨⟨file, hwrote⟩, -⟩
    · rw [hw] at hfailed
      obtain ⟨-, rfl⟩ := Prod.mk.inj hfailed
      exact .quiet rfl rfl trivial rfl rfl (.inl rfl)
    · rw [hw] at hwrote
      cases hwrote
  | wrote hw =>
    rcases horderly with ⟨err, hfailed⟩ | ⟨-, honly⟩
    · rw [hw] at hfailed
      cases hfailed
    · exact .wrote (hround _ _ (print_of_writeJson hw)) honly
  | published => exact .published
  | answered => exact .quiet rfl rfl trivial rfl rfl (.inl rfl)

theorem smooth_reload {stage stage' : ReloadStage} (h : ReloadEffect env s.shared stage x stage')
    {disk : AppConfigFile} (hparses : ConfigJson.parse s.shared.file = .ok disk)
    (hregular : (ManagerCall.reload stage).Regular) (hassumed : s.Assumed env (.reload stage))
    (horderly : s.OrderlyCall env (.reload stage)) : Smooth s (.reload stage) x (.reload stage') := by
  cases h with
  | missing ha => exact .quiet rfl rfl trivial rfl rfl (.inl rfl)
  | took ha => exact .took ha
  | unloaded hl =>
    obtain ⟨⟨text, htext⟩, -⟩ := horderly
    obtain rfl := hassumed text htext
    rw [(loadJson_eq_ok htext).mpr hparses] at hl
    cases hl
  | loaded hl =>
    obtain ⟨⟨text, htext⟩, hbelieved⟩ := horderly
    obtain rfl := hassumed text htext
    exact .loaded ((loadJson_eq_ok htext).mp hl) hbelieved
  | invalid hv =>
    obtain ⟨runtime, hruntime⟩ := hassumed
    rw [hv] at hruntime
    cases hruntime
  | planned hv => exact .quiet rfl rfl trivial rfl rfl (.inl rfl)
  | gave => exact .quiet rfl rfl trivial rfl rfl (.inl rfl)
  | stopped => exact .quiet rfl rfl trivial rfl rfl (.inl rfl)
  | unreleased hw =>
    have hok : waitForListenerRelease _ _ _ = .ok () := horderly
    rw [hw] at hok
    cases hok
  | released hw => exact .quiet rfl rfl trivial rfl rfl (.inl rfl)
  | started hs =>
    obtain ⟨hp, rfl⟩ := startActiveRuntime_eq_ok.mp hs
    exact .quiet rfl rfl rfl rfl rfl (.inl rfl)
  | startFailed hs =>
    obtain ⟨active, hactive⟩ := hassumed
    rw [hs] at hactive
    cases hactive
  | startPanicked hs =>
    obtain ⟨active, hactive⟩ := hassumed
    rw [hs] at hactive
    cases hactive
  | @installed active savedConfig =>
    obtain rfl : active.appConfig = savedConfig := hregular
    exact .installed
  | vanished ha => exact .vanished ha
  | summarized ha => exact .quiet rfl rfl trivial rfl rfl (.inr rfl)
  | published hsnapshot =>
    subst hsnapshot
    exact .renewed rfl rfl
  | restarted hs => exact hregular.elim
  | restartFailed => exact hregular.elim
  | restartPanicked => exact hregular.elim
  | reinstalled => exact hregular.elim
  | publishedError => exact hregular.elim
  | publishedFailure => exact hregular.elim

theorem smooth_of_effect (h : CallEffect env s.shared call x call') (hround : RoundTrips)
    {disk : AppConfigFile} (hparses : ConfigJson.parse s.shared.file = .ok disk)
    (hregular : call.Regular) (hassumed : s.Assumed env call) (horderly : s.OrderlyCall env call) :
    Smooth s call x call' := by
  cases h with
  | save h => exact smooth_save h hround hassumed horderly
  | reload h => exact smooth_reload h hparses hregular hassumed horderly
  | shutdown h => exact hregular.elim

end Effect

/-! ### What such a step keeps -/

section Keeps

variable [ConfigJson] {s : ManagerCalls} {i : ℕ} {x : ManagerShared} {call call' : ManagerCall}
  {P : AppConfigFile → Prop}

theorem Smooth.regular (h : Smooth s call x call') : call'.Regular := by
  cases h with
  | quiet hm hf hr hu ht hb => exact hr
  | compared | wrote | published | took | loaded | installed | vanished | renewed => trivial

omit [ConfigJson] in
theorem Leads.keep (h : s.Leads P) (hcall : s.calls[i]? = some call)
    (hactive : x.manager.active = s.shared.manager.active)
    (hkeep : call.token = 1 → call'.token = 1 ∧
      ∀ appConfig, call'.unpublished = some appConfig →
        call.unpublished = some appConfig ∨ P appConfig) :
    Leads (s.update i x call') P := by
  rcases h with ⟨active, ha, hp⟩ | ⟨j, d, hd, htoken, hu⟩
  · exact .inl ⟨active, hactive.trans ha, hp⟩
  · by_cases hji : j = i
    · subst hji
      obtain rfl := Option.some.inj (hcall.symm.trans hd)
      obtain ⟨htoken', hu'⟩ := hkeep htoken
      exact .inr ⟨j, call', Pool.update_get hcall, htoken', fun c hc => (hu' c hc).elim (hu c) id⟩
    · exact .inr ⟨j, d, Pool.update_get_ne hd hji, htoken, hu⟩

/-- A step of a call leaves the lead, if the reload in progress reads a config of `P` where it reads one. -/
theorem leads_update (h : s.Leads P) (hsingle : Single s) (hcall : s.calls[i]? = some call)
    (hsmooth : Smooth s call x call')
    (hreads : s.HoldsBelieved → ∀ disk, ConfigJson.parse s.shared.file = .ok disk → P disk) :
    Leads (s.update i x call') P := by
  cases hsmooth with
  | quiet hm hf hr hu ht hb =>
    exact h.keep hcall (congrArg _ hm) fun htoken => ⟨ht.trans htoken, fun c hc => .inl (hu ▸ hc)⟩
  | compared => exact h.keep hcall rfl fun htoken => nomatch htoken
  | wrote hp ho => exact h.keep hcall rfl fun htoken => nomatch htoken
  | published => exact h.keep hcall rfl fun htoken => nomatch htoken
  | @took previous ha =>
    exact .inr ⟨i, _, Pool.update_get hcall, rfl, fun c hc => nomatch hc⟩
  | @loaded previous savedConfig hp hb =>
    refine h.keep hcall rfl fun _ => ⟨rfl, fun c hc => .inr ?_⟩
    obtain rfl : savedConfig = c := Option.some.inj hc
    exact hreads hb _ hp
  | @installed active =>
    refine .inl ⟨active, rfl, ?_⟩
    rcases h with ⟨active', ha, -⟩ | ⟨j, d, hd, htoken, hu⟩
    · rw [hsingle.active_none hcall rfl] at ha
      cases ha
    · by_cases hji : j = i
      · subst hji
        obtain rfl := Option.some.inj (hcall.symm.trans hd)
        exact hu _ rfl
      · rw [hsingle.token_eq_zero hcall rfl hd hji] at htoken
        cases htoken
  | vanished ha => exact h.keep hcall rfl fun htoken => nomatch htoken
  | renewed hs hp => exact h.keep hcall rfl fun htoken => nomatch htoken

omit [ConfigJson] in
theorem Busy.keep (h : s.Busy) (hcall : s.calls[i]? = some call) (hkeep : call.Busy → call'.Busy) :
    Busy (s.update i x call') := by
  obtain ⟨j, d, hd, hbusy⟩ := h
  by_cases hji : j = i
  · subst hji
    obtain rfl := Option.some.inj (hcall.symm.trans hd)
    exact ⟨j, call', Pool.update_get hcall, hkeep hbusy⟩
  · exact ⟨j, d, Pool.update_get_ne hd hji, hbusy⟩

omit [ConfigJson] in
/-- Where a call that does not hold the token moves on, the config that it believed in is active, or a
reload is in progress. -/
theorem Leads.active_or_busy (h : s.Leads P) (hcall : s.calls[i]? = some call) (htoken : call.token = 0)
    (hactive : x.manager.active = s.shared.manager.active) :
    (∃ active, x.manager.active = some active ∧ P active.appConfig) ∨
      Busy (s.update i x call') := by
  rcases h with ⟨active, ha, hp⟩ | ⟨j, d, hd, htoken', -⟩
  · exact .inl ⟨active, hactive.trans ha, hp⟩
  · refine .inr ⟨j, d, Pool.update_get_ne hd fun hji => ?_, .inr htoken'⟩
    subst hji
    obtain rfl := Option.some.inj (hcall.symm.trans hd)
    omega

variable {disk : AppConfigFile}

/-- What a reload reads is what every call believes to be active. -/
theorem Coherent.reads (h : Coherent s disk) {j : ℕ} {d : ManagerCall} {appConfig : AppConfigFile}
    (hd : s.calls[j]? = some d) (hbelieved : d.believed = some appConfig) (hholds : s.HoldsBelieved)
    (disk' : AppConfigFile) (hdisk' : ConfigJson.parse s.shared.file = .ok disk') :
    disk'.Same appConfig := by
  obtain rfl : disk' = disk := Except.ok.inj (hdisk'.symm.trans h.parses)
  rcases d with stage | stage | stage
  · cases stage with
    | writing c m =>
      cases m with
      | true =>
        obtain rfl : c = appConfig := Option.some.inj hbelieved
        exact hholds j c _ hd hdisk'
      | false => cases hbelieved
    | written c m =>
      cases m with
      | true => exact (h.unpublished j _ appConfig hd hbelieved).symm
      | false => cases hbelieved
    | _ => cases hbelieved
  · cases stage with
    | installed c => exact (h.unpublished j _ appConfig hd hbelieved).symm
    | summarized c activeRuntime => exact (h.unpublished j _ appConfig hd hbelieved).symm
    | _ => cases hbelieved
  · cases hbelieved

/-- The beliefs of all calls after a step. -/
theorem Coherent.believed_update (h : Coherent s disk) (hcall : s.calls[i]? = some call)
    (hsmooth : Smooth s call x call') {j : ℕ} {d : ManagerCall} {appConfig : AppConfigFile}
    (hd : (s.update i x call').calls[j]? = some d) (hbelieved : d.believed = some appConfig) :
    Leads (s.update i x call') (·.Same appConfig) := by
  have hold (k : ℕ) (c : ManagerCall) (hc : s.calls[k]? = some c) (hb : c.believed = some appConfig) :
      Leads (s.update i x call') (·.Same appConfig) :=
    leads_update (h.believed k c appConfig hc hb) h.single hcall hsmooth (h.reads hc hb)
  rcases Pool.update_calls hd with ⟨-, rfl⟩ | ⟨hne, hd⟩
  · cases hsmooth with
    | quiet hm hf hr hu ht hb =>
      rcases hb with hb | hb
      · rw [hb] at hbelieved
        cases hbelieved
      · exact hold i call hcall (hb ▸ hbelieved)
    | @compared c =>
      cases hm : s.shared.manager.activeMatches c with
      | true =>
        rw [hm] at hbelieved
        obtain rfl : c = appConfig := Option.some.inj hbelieved
        exact .inl (RuntimeManager.activeMatches_eq_true.mp hm)
      | false =>
        rw [hm] at hbelieved
        cases hbelieved
    | @wrote c m file hp ho =>
      cases m with
      | true => exact hold i _ hcall hbelieved
      | false => cases hbelieved
    | @installed active =>
      obtain rfl : active.appConfig = appConfig := Option.some.inj hbelieved
      exact .inl ⟨active, rfl, .refl _⟩
    | published | took | loaded | vanished | renewed => cases hbelieved
  · exact hold j d hd hbelieved

/-- The unpublished configs after a step. -/
theorem Coherent.unpublished_update (h : Coherent s disk) (hcall : s.calls[i]? = some call)
    (hsmooth : Smooth s call x call') : ∃ disk', ConfigJson.parse x.file = .ok disk' ∧
      OnlyUnpublished (s.update i x call') disk' := by
  have hkeep (hnew : ∀ other, call'.unpublished = some other → other.Same disk) :
      OnlyUnpublished (s.update i x call') disk := by
    intro j d other hd hother
    rcases Pool.update_calls hd with ⟨-, rfl⟩ | ⟨-, hd⟩
    · exact hnew other hother
    · exact h.unpublished j d other hd hother
  cases hsmooth with
  | quiet hm hf hr hu ht hb =>
    exact ⟨disk, hf ▸ h.parses, hkeep fun c hc => h.unpublished i call c hcall (hu ▸ hc)⟩
  | @wrote c m file hp ho =>
    refine ⟨c, hp, fun j d other hd hother => ?_⟩
    rcases Pool.update_calls hd with ⟨-, rfl⟩ | ⟨-, hd⟩
    · obtain rfl : c = other := Option.some.inj hother
      exact .refl c
    · exact ho j d other hd hother
  | @loaded previous savedConfig hp hb =>
    obtain rfl : savedConfig = disk := Except.ok.inj (hp.symm.trans h.parses)
    refine ⟨savedConfig, hp, hkeep fun c hc => ?_⟩
    obtain rfl : savedConfig = c := Option.some.inj hc
    exact .refl savedConfig
  | installed => exact ⟨disk, h.parses, hkeep fun c hc => h.unpublished i _ c hcall hc⟩
  | compared | published | took | vanished | renewed =>
    exact ⟨disk, h.parses, hkeep fun c hc => nomatch hc⟩

/-- What the snapshot says after a step, or else will say. -/
structure Shown (s : ManagerCalls) (disk : AppConfigFile) : Prop where
  saved : s.shared.manager.snapshot.savedConfig.Same disk ∨ s.Busy
  active : s.shared.manager.snapshot.pendingReload = false →
    (∃ active, s.shared.manager.active = some active ∧ active.appConfig.Same disk) ∨ s.Busy

omit [ConfigJson] in
theorem shown_of_busy (h : s.Busy) : Shown s disk := ⟨.inr h, fun _ => .inr h⟩

/-- A call that updates the snapshot shows what the others will not change. -/
theorem Coherent.shown_published (h : Coherent s disk) {appConfig : AppConfigFile}
    (hcall : s.calls[i]? = some call) (hunpublished : call.unpublished = some appConfig)
    (htoken : call.token = 0) (hactive : x.manager.active = s.shared.manager.active)
    (hsaved : x.manager.snapshot.savedConfig = appConfig)
    (hpending : x.manager.snapshot.pendingReload = false → call.believed = some appConfig) :
    Shown (s.update i x call') disk := by
  have hsame := h.unpublished i call appConfig hcall hunpublished
  refine ⟨.inl (hsaved ▸ hsame), fun hp => ?_⟩
  have hleads := h.believed i call appConfig hcall (hpending hp)
  have hor : _ ∨ Busy (s.update i x call') := hleads.active_or_busy hcall htoken hactive
  rcases hor with ⟨active, ha, hs⟩ | hbusy
  · exact .inl ⟨active, ha, hs.trans hsame⟩
  · exact .inr hbusy

theorem Coherent.shown_update (h : Coherent s disk) (hcall : s.calls[i]? = some call)
    (hsmooth : Smooth s call x call') {disk' : AppConfigFile}
    (hparses : ConfigJson.parse x.file = .ok disk') : Shown (s.update i x call') disk' := by
  -- a step that changes nothing of this
  have hkeep (hm : x.manager = s.shared.manager) (hf : x.file = s.shared.file)
      (hbusy : call.Busy → call'.Busy) : Shown (s.update i x call') disk' := by
    obtain rfl : disk' = disk := Except.ok.inj (hparses.symm.trans (hf ▸ h.parses))
    refine ⟨?_, fun hp => ?_⟩
    · rw [Pool.update_shared, hm]
      exact h.saved.imp_right fun hb => hb.keep hcall hbusy
    · rw [Pool.update_shared, hm] at hp ⊢
      exact (h.active hp).imp_right fun hb => hb.keep hcall hbusy
  cases hsmooth with
  | quiet hm hf hr hu ht hb =>
    refine hkeep hm hf fun hbusy => ?_
    unfold ManagerCall.Busy at hbusy ⊢
    rw [hu, ht]
    exact hbusy
  | compared => exact hkeep rfl rfl fun hbusy => by rcases hbusy with hb | hb <;> cases hb
  | wrote hp ho => exact shown_of_busy ⟨i, _, Pool.update_get hcall, .inl rfl⟩
  | took ha => exact shown_of_busy ⟨i, _, Pool.update_get hcall, .inr rfl⟩
  | loaded hp hb => exact shown_of_busy ⟨i, _, Pool.update_get hcall, .inl rfl⟩
  | installed => exact shown_of_busy ⟨i, _, Pool.update_get hcall, .inl rfl⟩
  | @published c m =>
    obtain rfl : disk' = disk := Except.ok.inj (hparses.symm.trans h.parses)
    refine h.shown_published hcall rfl rfl rfl rfl fun hp => ?_
    cases m with
    | true => rfl
    | false => cases hp
  | vanished ha =>
    rcases h.owned.active_or_busy hcall rfl rfl with ⟨active, hactive, -⟩ | hbusy
    · rw [ha] at hactive
      cases hactive
    · exact shown_of_busy hbusy
  | renewed hs hp =>
    obtain rfl : disk' = disk := Except.ok.inj (hparses.symm.trans h.parses)
    exact h.shown_published hcall rfl rfl rfl hs fun _ => rfl

/-- **Step lemma** for the calls. -/
theorem Coherent.update (h : Coherent s disk) (hcall : s.calls[i]? = some call)
    (hsmooth : Smooth s call x call') (hsingle : Single (s.update i x call')) :
    ∃ disk', Coherent (s.update i x call') disk' := by
  obtain ⟨disk', hparses, hunpublished⟩ := h.unpublished_update hcall hsmooth
  obtain ⟨hsaved, hactive⟩ := h.shown_update hcall hsmooth hparses
  refine ⟨disk', hsingle, hparses, fun j d hd => ?_, hunpublished,
    fun j d c hd hb => h.believed_update hcall hsmooth hd hb, ?_, hsaved, hactive⟩
  · rcases Pool.update_calls hd with ⟨-, rfl⟩ | ⟨-, hd⟩
    · exact hsmooth.regular
    · exact h.regular j d hd
  · exact leads_update h.owned h.single hcall hsmooth fun _ _ _ => trivial

/-- A call that has not begun. -/
structure Fresh (call : ManagerCall) : Prop where
  regular : call.Regular
  token : call.token = 0
  unpublished : call.unpublished = none
  believed : call.believed = none

omit [ConfigJson] in
theorem leads_enter (h : s.Leads P) (call : ManagerCall) : Leads (s.enter call) P := by
  rcases h with ⟨active, ha, hp⟩ | ⟨j, d, hd, htoken, hu⟩
  · exact .inl ⟨active, ha, hp⟩
  · exact .inr ⟨j, d, Pool.enter_get hd, htoken, hu⟩

omit [ConfigJson] in
theorem busy_enter (h : s.Busy) (call : ManagerCall) : Busy (s.enter call) := by
  obtain ⟨j, d, hd, hbusy⟩ := h
  exact ⟨j, d, Pool.enter_get hd, hbusy⟩

theorem Coherent.enter (h : Coherent s disk) (hfresh : Fresh call) : Coherent (s.enter call) disk where
  single := single_enter h.single hfresh.token
  parses := h.parses
  regular j d hd := by
    rcases Pool.enter_calls hd with hd | ⟨-, rfl⟩
    · exact h.regular j d hd
    · exact hfresh.regular
  unpublished j d other hd hother := by
    rcases Pool.enter_calls hd with hd | ⟨-, rfl⟩
    · exact h.unpublished j d other hd hother
    · rw [hfresh.unpublished] at hother
      cases hother
  believed j d appConfig hd hb := by
    rcases Pool.enter_calls hd with hd | ⟨-, rfl⟩
    · exact leads_enter (h.believed j d appConfig hd hb) call
    · rw [hfresh.believed] at hb
      cases hb
  owned := leads_enter h.owned call
  saved := h.saved.imp_right fun hb => busy_enter hb call
  active hp := (h.active hp).imp_right fun hb => busy_enter hb call

/-- Calls that have returned are not busy. -/
theorem Coherent.agrees (h : Coherent s disk) (hidle : s.Idle) : s.Agrees := by
  have hquiet : ¬ s.Busy := by
    rintro ⟨i, call, hcall, hbusy⟩
    have hregular := h.regular i call hcall
    cases hidle i call hcall with
    | save result => rcases hbusy with hb | hb <;> cases hb
    | reload result => rcases hbusy with hb | hb <;> cases hb
    | shutdown result => exact hregular
  have hsaved := h.saved.resolve_right hquiet
  refine ⟨⟨disk, h.parses, hsaved⟩, fun hp => ?_⟩
  obtain ⟨active, ha, hs⟩ := (h.active hp).resolve_right hquiet
  exact ⟨active, ha, hs.trans hsaved.symm⟩

end Keeps

section Run

variable [Net] [Glob] [ConfigText] {s t : ManagerCalls} {disk : AppConfigFile}

/-- **Step lemma**. -/
theorem coherent_step (hround : RoundTrips) {a : ManagerAction} (hsucceeds : s.Succeeds a)
    (horderly : s.Orderly a) (h : Coherent s disk) (hs : s.step a = some t) :
    ∃ disk', Coherent t disk' := by
  have hsingle : Single t := single_step h.single hs
  cases step_effect hs with
  | save => exact ⟨disk, h.enter ⟨trivial, rfl, rfl, rfl⟩⟩
  | reload => exact ⟨disk, h.enter ⟨trivial, rfl, rfl, rfl⟩⟩
  | shutdown => exact hsucceeds.elim
  | step hcall heff =>
    exact h.update hcall (smooth_of_effect heff hround h.parses (h.regular _ _ hcall)
      (hsucceeds _ hcall) (horderly _ hcall)) hsingle

theorem start_eq_ok {fs : Fs} {env : StartEnv} {path : String} {manager : RuntimeManager}
    (h : RuntimeManager.start fs env path = .ok manager) :
    AppConfigFile.loadJson fs path = .ok manager.snapshot.savedConfig ∧
      ∃ active, manager.active = some active ∧ active.appConfig = manager.snapshot.savedConfig := by
  obtain ⟨appConfig, hload, h⟩ := bind_eq_ok.mp h
  obtain ⟨runtime, hvalid, h⟩ := bind_eq_ok.mp h
  obtain ⟨active, hs, h⟩ := bind_eq_ok.mp h
  obtain rfl := Except.ok.inj h
  obtain ⟨hp, rfl⟩ := startActiveRuntime_eq_ok.mp hs
  exact ⟨returning_eq_ok.mp hload, _, rfl, rfl⟩

theorem coherent_init {fs : Fs} {env : StartEnv} {path file : String} {manager : RuntimeManager}
    (hstart : RuntimeManager.start fs env path = .ok manager) (hfile : fs.readToString path = .ok file) :
    Coherent (init manager file) manager.snapshot.savedConfig := by
  obtain ⟨hload, active, ha, hc⟩ := start_eq_ok hstart
  refine ⟨single_init manager file, (loadJson_eq_ok hfile).mp hload, ?_, ?_, ?_,
    .inl ⟨active, ha, trivial⟩, .inl (.refl _), fun _ => .inl ⟨active, ha, hc ▸ .refl _⟩⟩
  · exact fun i call hcall => nomatch hcall
  · exact fun i call other hcall => nomatch hcall
  · exact fun i call appConfig hcall => nomatch hcall

/-- **Agreement**: from the start on, in a run of saves and reloads in which every validation and start
succeeds and nobody else writes the config file, snapshot, file and proxy agree whenever no call is in
progress, if every step is orderly. -/
theorem agreement_of_orderly (hround : RoundTrips) {fs : Fs} {env : StartEnv} {path file : String}
    {manager : RuntimeManager} {as : List ManagerAction}
    (hstart : RuntimeManager.start fs env path = .ok manager)
    (hfile : fs.readToString path = .ok file)
    (hsucceeds : Along step Succeeds (init manager file) as)
    (horderly : Along step Orderly (init manager file) as) :
    Always step (fun s => s.Idle → s.Agrees) (init manager file) as := by
  refine always_of_along (I := fun s => ∃ disk, Coherent s disk) ?_ ?_
    ⟨_, coherent_init hstart hfile⟩ (along_and hsucceeds horderly)
  · rintro s ⟨disk, h⟩ hidle
    exact h.agrees hidle
  · rintro s a t ⟨hs, ho⟩ ⟨disk, h⟩ hst
    exact coherent_step hround hs ho h hst

omit [ConfigText] in
theorem succeeds_step {i : ℕ} {env : CallEnv} {call : ManagerCall} (hcall : s.calls[i]? = some call)
    (h : s.Assumed env call) : s.Succeeds (.step i env) :=
  fun _ hcall' => Option.some.inj (hcall.symm.trans hcall') ▸ h

omit [Glob] in
theorem orderly_step {i : ℕ} {env : CallEnv} {call : ManagerCall} (hcall : s.calls[i]? = some call)
    (h : s.OrderlyCall env call) : s.Orderly (.step i env) :=
  fun _ hcall' => Option.some.inj (hcall.symm.trans hcall') ▸ h

end Run

end ManagerCalls

/-! ### Runs from a start -/

def sampleActive : ActiveRuntime where
  appConfig := sampleApp "example.test"
  runtime := sampleConfig
  writer := ⟨.spawn sampleConfig [], by decide⟩
  handle := ⟨.serving sampleConfig.listenAddr⟩

/-- The controller that a start on the sample file comes to. -/
def sampleStarted : RuntimeManager where
  configPath := "kidproxy.json"
  active := some sampleActive
  snapshot := {
    configPath := "kidproxy.json"
    savedConfig := sampleApp "example.test"
    activeRuntime := @runtimeSummary sampleNet sampleActive
    pendingReload := false
    lastReloadError := none }

def sampleOk : CallEnv := sampleCallEnv (sampleSaved "example.test")

theorem loadJson_saved : @AppConfigFile.loadJson sampleText.toConfigJson sampleOk.fs "kidproxy.json" =
    .ok (sampleApp "example.test") :=
  (@ManagerCalls.loadJson_eq_ok sampleText _ _ _ _ rfl).mpr (if_pos rfl)

theorem start_sample : @RuntimeManager.start sampleNet sampleGlob sampleText.toConfigJson sampleOk.fs
    sampleOk.start "kidproxy.json" = .ok sampleStarted :=
  bind_eq_ok.mpr ⟨_, returning_eq_ok.mpr loadJson_saved, rfl⟩

theorem roundTrips_sample : @ManagerCalls.RoundTrips sampleText := by
  intro appConfig text h
  have hne : sampleSaved "other.test" ≠ sampleSaved "example.test" := by decide
  have hprint : (if appConfig = sampleApp "example.test" then
        (.ok (sampleSaved "example.test") : Except String String)
      else if appConfig = sampleApp "other.test" then .ok (sampleSaved "other.test")
      else .error "not a sample") = .ok text := h
  split_ifs at hprint with hexample hother
  · rw [← Except.ok.inj hprint, hexample]
    exact if_pos rfl
  · rw [← Except.ok.inj hprint, hother]
    exact (if_neg hne).trans (if_pos rfl)

/-- The state of the calls after the actions `as`. -/
def startedCalls (as : List ManagerAction) : Option ManagerCalls :=
  letI := sampleNet; letI := sampleGlob; letI := sampleText
  run ManagerCalls.step (.init sampleStarted (sampleSaved "example.test")) as

/-- A save of the active config and a reload, which overlap. -/
def overlapping : List ManagerAction :=
  [.save (sampleApp "example.test"), .reload, .step 0 sampleOk, .step 0 sampleOk, .step 1 sampleOk,
    .step 0 sampleOk, .step 1 sampleOk, .step 0 sampleOk, .step 1 sampleOk, .step 1 sampleOk,
    .step 1 sampleOk, .step 1 sampleOk, .step 1 sampleOk, .step 1 sampleOk, .step 1 sampleOk,
    .step 1 sampleOk, .step 0 sampleOk]

/-- Two saves: the second one writes the file last, the first one updates the snapshot last. -/
def crossing : List ManagerAction :=
  [.save (sampleApp "example.test"), .save (sampleApp "other.test"), .step 0 sampleOk, .step 1 sampleOk,
    .step 0 sampleOk, .step 1 sampleOk, .step 0 sampleOk, .step 1 sampleOk, .step 1 sampleOk,
    .step 0 sampleOk, .step 0 sampleOk, .step 1 sampleOk]

section Samples

open ManagerCalls

set_option maxRecDepth 4000 in
theorem overlapping_succeeds : @Along _ _ (@ManagerCalls.step sampleNet sampleGlob sampleText)
    (@ManagerCalls.Succeeds sampleNet sampleGlob) (.init sampleStarted (sampleSaved "example.test"))
    overlapping := by
  let _ := sampleNet; let _ := sampleGlob; let _ := sampleText
  refine along_cons trivial rfl (along_cons trivial rfl ?_)
  refine along_cons (succeeds_step rfl ⟨sampleConfig, rfl⟩) rfl ?_
  refine along_cons (succeeds_step rfl trivial) rfl (along_cons (succeeds_step rfl trivial) rfl ?_)
  refine along_cons (succeeds_step rfl trivial) rfl ?_
  refine along_cons (succeeds_step rfl fun text h => (Except.ok.inj h).symm) rfl ?_
  refine along_cons (succeeds_step rfl trivial) rfl ?_
  refine along_cons (succeeds_step rfl ⟨sampleConfig, rfl⟩) rfl ?_
  refine along_cons (succeeds_step rfl trivial) rfl (along_cons (succeeds_step rfl trivial) rfl ?_)
  refine along_cons (succeeds_step rfl trivial) rfl ?_
  refine along_cons (succeeds_step rfl ⟨sampleActive, rfl⟩) rfl ?_
  refine along_cons (succeeds_step rfl trivial) rfl (along_cons (succeeds_step rfl trivial) rfl ?_)
  exact along_cons (succeeds_step rfl trivial) rfl (along_cons (succeeds_step rfl trivial) rfl trivial)

set_option maxRecDepth 4000 in
theorem overlapping_orderly : @Along _ _ (@ManagerCalls.step sampleNet sampleGlob sampleText)
    (@ManagerCalls.Orderly sampleNet sampleText) (.init sampleStarted (sampleSaved "example.test"))
    overlapping := by
  let _ := sampleNet; let _ := sampleGlob; let _ := sampleText
  refine along_cons trivial rfl (along_cons trivial rfl ?_)
  refine along_cons (orderly_step rfl trivial) rfl (along_cons (orderly_step rfl trivial) rfl ?_)
  refine along_cons (orderly_step rfl trivial) rfl ?_
  refine along_cons (orderly_step rfl (.inr ⟨⟨_, rfl⟩, ?_⟩)) rfl ?_
  · intro j call other hd hother
    rcases j with _ | _ | j <;> cases hd <;> cases hother
  refine along_cons (orderly_step rfl ⟨⟨_, rfl⟩, ?_⟩) rfl ?_
  · intro j appConfig disk hd
    rcases j with _ | _ | j <;> cases hd
  refine along_cons (orderly_step rfl trivial) rfl (along_cons (orderly_step rfl trivial) rfl ?_)
  refine along_cons (orderly_step rfl trivial) rfl (along_cons (orderly_step rfl trivial) rfl ?_)
  refine along_cons (orderly_step rfl rfl) rfl (along_cons (orderly_step rfl trivial) rfl ?_)
  refine along_cons (orderly_step rfl trivial) rfl (along_cons (orderly_step rfl trivial) rfl ?_)
  exact along_cons (orderly_step rfl trivial) rfl (along_cons (orderly_step rfl trivial) rfl trivial)

set_option maxRecDepth 4000 in
theorem agreement_of_orderly_sample : ∃ s, startedCalls overlapping = some s ∧ s.Idle ∧
    s.shared.manager.snapshot.pendingReload = false ∧
    @Agrees sampleText.toConfigJson s := by
  obtain ⟨s, hrun, hcalls, hpending⟩ : ∃ s, startedCalls overlapping = some s ∧
      (∃ a b, s.calls = [.save (.returned a), .reload (.returned b)]) ∧
      s.shared.manager.snapshot.pendingReload = false := ⟨_, rfl, ⟨_, _, rfl⟩, rfl⟩
  have hidle : s.Idle := by
    obtain ⟨a, b, hcalls⟩ := hcalls
    intro i call hcall
    rw [hcalls] at hcall
    rcases i with _ | _ | i <;> cases hcall
    · exact .save a
    · exact .reload b
  have hall := @agreement_of_orderly sampleNet sampleGlob sampleText roundTrips_sample _ _ _ _ _
    overlapping start_sample rfl overlapping_succeeds overlapping_orderly
  exact ⟨s, hrun, hidle, hpending,
    always_iff_prefix.mp hall overlapping [] s (List.append_nil _).symm hrun hidle⟩

theorem crossing_succeeds : @Along _ _ (@ManagerCalls.step sampleNet sampleGlob sampleText)
    (@ManagerCalls.Succeeds sampleNet sampleGlob) (.init sampleStarted (sampleSaved "example.test"))
    crossing := by
  let _ := sampleNet; let _ := sampleGlob; let _ := sampleText
  refine along_cons trivial rfl (along_cons trivial rfl ?_)
  refine along_cons (succeeds_step rfl ⟨sampleConfig, rfl⟩) rfl ?_
  refine along_cons (succeeds_step rfl ⟨{ sampleConfig with frontendDomain := "other.test" }, rfl⟩) rfl ?_
  refine along_cons (succeeds_step rfl trivial) rfl (along_cons (succeeds_step rfl trivial) rfl ?_)
  refine along_cons (succeeds_step rfl trivial) rfl (along_cons (succeeds_step rfl trivial) rfl ?_)
  refine along_cons (succeeds_step rfl trivial) rfl (along_cons (succeeds_step rfl trivial) rfl ?_)
  exact along_cons (succeeds_step rfl trivial) rfl (along_cons (succeeds_step rfl trivial) rfl trivial)

/-- Two saves from a start on, in which nothing fails, leave one config in the snapshot and the other one
in the file. -/
theorem saves_disagree : @RuntimeManager.start sampleNet sampleGlob sampleText.toConfigJson sampleOk.fs
      sampleOk.start "kidproxy.json" = .ok sampleStarted ∧
    @Along _ _ (@ManagerCalls.step sampleNet sampleGlob sampleText)
      (@ManagerCalls.Succeeds sampleNet sampleGlob) (.init sampleStarted (sampleSaved "example.test"))
      crossing ∧
    ∃ s, startedCalls crossing = some s ∧ s.Idle ∧
      s.shared.manager.snapshot.savedConfig = sampleApp "example.test" ∧
      s.shared.file = sampleSaved "other.test" ∧ ¬ @Agrees sampleText.toConfigJson s := by
  refine ⟨start_sample, crossing_succeeds, ?_⟩
  obtain ⟨s, hrun, ⟨a, b, hcalls⟩, hsaved, hfile⟩ : ∃ s, startedCalls crossing = some s ∧
      (∃ a b, s.calls = [.save (.returned a), .save (.returned b)]) ∧
      s.shared.manager.snapshot.savedConfig = sampleApp "example.test" ∧
      s.shared.file = sampleSaved "other.test" := ⟨_, rfl, ⟨_, _, rfl⟩, rfl, rfl⟩
  refine ⟨s, hrun, fun i call hcall => ?_, hsaved, hfile, fun hagrees => ?_⟩
  · rw [hcalls] at hcall
    rcases i with _ | _ | i <;> cases hcall
    · exact .save a
    · exact .save b
  · obtain ⟨⟨disk, hparse, hsame⟩, -⟩ := hagrees
    have hother := @roundTrips_sample (sampleApp "other.test") (sampleSaved "other.test") rfl
    rw [hfile, hother] at hparse
    rw [hsaved, ← Except.ok.inj hparse] at hsame
    exact absurd (congrArg (fun c => c.rest.frontendDomain) hsame.1) (by decide)

end Samples

end KidProxy
