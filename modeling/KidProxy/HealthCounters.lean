import KidProxy.Agreement
import KidProxy.WriterBound

/-!
# HealthCounters — the counters that the snapshot reports

`runtime_summary` copies the two counters of the writer when a runtime is started, and the snapshot keeps
that copy until the next reload.  The writers go on counting between any two steps of the manager, so what
`state` reports is real as long as there is nothing to count (`health_counters_iff`).
-/

namespace KidProxy

open Transition

/-! ### Writers that go on while calls are made -/

/-- `SqliteWriterHandle::dropped_events` and `write_failures`. -/
def Writer.counters (w : Writer) : ℕ × ℕ := (w.droppedEvents, w.writeFailures)

def RuntimeSummary.counters (summary : RuntimeSummary) : ℕ × ℕ :=
  (summary.droppedEvents, summary.writeFailures)

namespace ActiveRuntime

def counters (active : ActiveRuntime) : ℕ × ℕ := active.writer.writer.counters

/-- One step of its writer, or of a handle of it. -/
def stepWriter (active : ActiveRuntime) (a : Action) : Option ActiveRuntime :=
  (active.writer.writer.step a).map fun w => { active with writer := ⟨w, active.writer.capacity⟩ }

end ActiveRuntime

/-- `RuntimeManager::state`. -/
def RuntimeManager.state (m : RuntimeManager) : RuntimeManagerState := m.snapshot

/-- Changes the runtime that a reload holds: the previous one before it has stopped, or the one that
was started and is not installed yet. -/
def ReloadStage.mapHeld (f : ActiveRuntime → Option ActiveRuntime) : ReloadStage → Option ReloadStage
  | .taken previous => (f previous).map .taken
  | .loaded previous savedConfig => (f previous).map (.loaded · savedConfig)
  | .planned previous plan => (f previous).map (.planned · plan)
  | .stopping previous plan => (f previous).map (.stopping · plan)
  | .started active savedConfig => (f active).map (.started · savedConfig)
  | .restarted active err => (f active).map (.restarted · err)
  | .taking | .stopped _ | .released _ | .installed _ | .summarized _ _ | .fallingBack _ _
  | .reinstalled _ | .restartFailed _ | .returned _ => none

def ManagerStop.mapHeld (f : ActiveRuntime → Option ActiveRuntime) : ManagerStop → Option ManagerStop
  | .taken active => (f active).map .taken
  | .stopping active => (f active).map .stopping
  | .taking | .returned _ => none

def ManagerCall.mapHeld (f : ActiveRuntime → Option ActiveRuntime) : ManagerCall → Option ManagerCall
  | .save _ => none
  | .reload stage => (stage.mapHeld f).map .reload
  | .shutdown stage => (stage.mapHeld f).map .shutdown

/-- A step of the manager's calls, of the writer of the active runtime, or of the writer of the runtime
that call `i` holds. -/
inductive HealthAction
  | call (a : ManagerAction)
  | activeWriter (a : Action)
  | heldWriter (i : ℕ) (a : Action)

namespace ManagerCalls

def healthStep [Net] [Glob] [ConfigText] (s : ManagerCalls) : HealthAction → Option ManagerCalls
  | .call a => s.step a
  | .activeWriter a =>
    match s.shared.manager.active with
    | none => none
    | some active =>
      (active.stepWriter a).map fun active => { s with shared := s.shared.setActive (some active) }
  | .heldWriter i a =>
    match s.calls[i]? with
    | none => none
    | some call => (call.mapHeld (·.stepWriter a)).map fun call => s.update i s.shared call

/-- What `state` reports are the counters of the active writer. -/
def Reported (s : ManagerCalls) : Prop := ∀ active, s.shared.manager.active = some active →
  s.shared.manager.state.activeRuntime.droppedEvents = active.writer.writer.droppedEvents ∧
    s.shared.manager.state.activeRuntime.writeFailures = active.writer.writer.writeFailures

end ManagerCalls

/-! ### Steps that count nothing -/

/-- The channel takes the event; the flush goes through. -/
def Writer.Clean (w : Writer) : Action → Prop
  | .trySend event => ∃ rx, w.rx.trySend (.event event) = .ok rx
  | .flush tx => ∃ w', w.flush tx = .ok w'
  | .sendShutdown _ | .cloneHandle | .dropHandle | .recv | .tick | .drain | .timeout
  | .dropReceiver => True

/-- The runtime that the next step of a call installs. -/
def ManagerCall.installs : ManagerCall → Option ActiveRuntime
  | .reload (.started active _) | .reload (.restarted active _) => some active
  | _ => none

/-- The active writer counts nothing, and a runtime that is installed has counted nothing before. -/
def ManagerCalls.Clean (s : ManagerCalls) : HealthAction → Prop
  | .activeWriter a =>
    ∀ active, s.shared.manager.active = some active → active.writer.writer.Clean a
  | .call (.step i _) =>
    ∀ call active, s.calls[i]? = some call → call.installs = some active → active.counters = (0, 0)
  | .call _ | .heldWriter _ _ => True

theorem Writer.afterFlush_counters (w : Writer) (next : AfterFlush) :
    (w.afterFlush next).counters = w.counters := by
  rcases next with _ | _ | _ <;> rfl

/-- A step of a writer leaves the counters alone exactly when it drops nothing and fails no flush. -/
theorem Writer.counters_step {w w' : Writer} {a : Action} (h : w.step a = some w') :
    w'.counters = w.counters ↔ w.Clean a := by
  cases step_effect h with
  | accept hs => exact ⟨fun _ => ⟨_, hs⟩, fun _ => rfl⟩
  | refuse hs =>
    refine ⟨fun heq => ?_, fun ⟨rx, hok⟩ => ?_⟩
    · have hcount : w.droppedEvents + 1 = w.droppedEvents := congrArg Prod.fst heq
      omega
    · rw [hs] at hok
      cases hok
  | @flush tx next hc =>
    rw [afterFlush_counters]
    rcases w.tryFlush_cases tx with ⟨w', hok, ht⟩ | ⟨err, herr, ht⟩
    · refine ⟨fun _ => ⟨w', hok⟩, fun _ => ?_⟩
      obtain ⟨models, -, rfl⟩ := flush_eq_ok hok
      rw [ht]
      rfl
    · refine ⟨fun heq => ?_, fun ⟨w', hok⟩ => ?_⟩
      · rw [ht] at heq
        have hcount : w.writeFailures + 1 = w.writeFailures := congrArg Prod.snd heq
        omega
      · rw [herr] at hok
        cases hok
  | acceptShutdown hs => exact ⟨fun _ => trivial, fun _ => rfl⟩
  | refuseShutdown hs => exact ⟨fun _ => trivial, fun _ => rfl⟩
  | clone hh => exact ⟨fun _ => trivial, fun _ => rfl⟩
  | drop hh => exact ⟨fun _ => trivial, fun _ => rfl⟩
  | recvEvent hc hr hn => exact ⟨fun _ => trivial, fun _ => rfl⟩
  | recvShutdown hc hr => exact ⟨fun _ => trivial, fun _ => rfl⟩
  | recvNone hc hr hh => exact ⟨fun _ => trivial, fun _ => rfl⟩
  | tick hc => exact ⟨fun _ => trivial, fun _ => rfl⟩
  | drainEvent hc hr => exact ⟨fun _ => trivial, fun _ => rfl⟩
  | drainShutdown hc hr => exact ⟨fun _ => trivial, fun _ => rfl⟩
  | drainEmpty hc hr => exact ⟨fun _ => trivial, fun _ => rfl⟩
  | drainClosed hc hr hh => exact ⟨fun _ => trivial, fun _ => rfl⟩
  | timeout hc => exact ⟨fun _ => trivial, fun _ => rfl⟩
  | dropReceiver hc => exact ⟨fun _ => trivial, fun _ => rfl⟩

theorem ActiveRuntime.counters_stepWriter {active active' : ActiveRuntime} {a : Action}
    (h : active.stepWriter a = some active') :
    active'.counters = active.counters ↔ active.writer.writer.Clean a := by
  obtain ⟨w', hw, rfl⟩ := Option.map_eq_some_iff.mp h
  exact Writer.counters_step hw

/-! ### What the steps of a call do to the reported counters -/

section Call

variable [Net] [Glob] [ConfigText] {env : CallEnv} {x y : ManagerShared} {call call' : ManagerCall}

/-- Only the last step of a reload changes the summary in the snapshot. -/
theorem ManagerCall.reported_step (h : call.step env x = some (y, call')) :
    y.manager.snapshot.activeRuntime = x.manager.snapshot.activeRuntime ∨
      ∃ savedConfig, call = .reload (.summarized savedConfig y.manager.snapshot.activeRuntime) := by
  cases ManagerCall.step_effect h with
  | save heff => cases heff <;> exact .inl rfl
  | shutdown heff => cases heff <;> exact .inl rfl
  | reload heff =>
    cases heff with
    | published hsnapshot =>
      rw [hsnapshot]
      exact .inr ⟨_, rfl⟩
    | publishedError => cases h; exact .inl rfl
    | publishedFailure => cases h; exact .inl rfl
    | _ => exact .inl rfl

/-- A call takes the active runtime out, or leaves it, unless it installs one. -/
theorem ManagerCall.active_step (h : call.step env x = some (y, call')) :
    (∃ active, call.installs = some active ∧ y.manager.active = some active) ∨
      call.installs = none ∧ (y.manager.active = none ∨ y.manager.active = x.manager.active) := by
  cases ManagerCall.step_effect h with
  | save heff => cases heff <;> exact .inr ⟨rfl, .inr rfl⟩
  | shutdown heff =>
    cases heff with
    | took _ => exact .inr ⟨rfl, .inl rfl⟩
    | _ => exact .inr ⟨rfl, .inr rfl⟩
  | reload heff =>
    cases heff with
    | took _ => exact .inr ⟨rfl, .inl rfl⟩
    | installed => exact .inl ⟨_, rfl, rfl⟩
    | reinstalled => exact .inl ⟨_, rfl, rfl⟩
    | _ => exact .inr ⟨rfl, .inr rfl⟩

/-- The summary that a reload publishes was copied from the active runtime. -/
theorem ManagerCall.summarized_step {savedConfig : AppConfigFile} {summary : RuntimeSummary}
    (h : call.step env x = some (y, .reload (.summarized savedConfig summary))) :
    ∃ active, x.manager.active = some active ∧ summary = runtimeSummary active := by
  cases ManagerCall.step_effect h with
  | reload heff =>
    cases heff with
    | summarized hactive => exact ⟨_, hactive, rfl⟩

end Call

/-! ### Runs -/

namespace ManagerCalls

/-- Nothing was counted by the active runtime, and nothing is or will be reported. -/
structure Quiet (s : ManagerCalls) : Prop where
  reported : s.shared.manager.snapshot.activeRuntime.counters = (0, 0)
  active : ∀ active, s.shared.manager.active = some active → active.counters = (0, 0)
  summarized : ∀ (i : ℕ) (savedConfig : AppConfigFile) (summary : RuntimeSummary),
    s.calls[i]? = some (ManagerCall.reload (.summarized savedConfig summary)) →
      summary.counters = (0, 0)

variable {s t : ManagerCalls}

theorem Quiet.isReported (h : Quiet s) : s.Reported := by
  intro active hactive
  have heq := h.reported.trans (h.active active hactive).symm
  exact ⟨congrArg Prod.fst heq, congrArg Prod.snd heq⟩

/-- Where zeros are reported, the counters must be zero. -/
theorem counters_of_reported {active : ActiveRuntime}
    (hzero : s.shared.manager.snapshot.activeRuntime.counters = (0, 0))
    (hactive : s.shared.manager.active = some active) (h : s.Reported) : active.counters = (0, 0) := by
  obtain ⟨hdropped, hfailures⟩ := h active hactive
  rw [← hzero]
  exact Prod.ext hdropped.symm hfailures.symm

/-- A writer never makes a call one that is about to publish. -/
theorem mapHeld_ne_summarized {call : ManagerCall} {f : ActiveRuntime → Option ActiveRuntime}
    {savedConfig : AppConfigFile} {summary : RuntimeSummary} :
    call.mapHeld f ≠ some (.reload (.summarized savedConfig summary)) := by
  intro h
  cases call with
  | save stage => cases h
  | shutdown stage =>
    obtain ⟨stage', -, heq⟩ := Option.map_eq_some_iff.mp h
    cases heq
  | reload stage =>
    obtain ⟨stage', hstage, heq⟩ := Option.map_eq_some_iff.mp h
    cases heq
    unfold ReloadStage.mapHeld at hstage
    split at hstage
    all_goals first
      | cases hstage
      | (obtain ⟨_, _, heq⟩ := Option.map_eq_some_iff.mp hstage; cases heq)

theorem Quiet.enter (h : Quiet s) {call : ManagerCall}
    (hfresh : ∀ savedConfig summary, call ≠ .reload (.summarized savedConfig summary)) :
    Quiet (s.enter call) where
  reported := h.reported
  active := h.active
  summarized i savedConfig summary hcall := by
    rcases Pool.enter_calls hcall with hold | ⟨-, hnew⟩
    · exact h.summarized i savedConfig summary hold
    · exact absurd hnew.symm (hfresh savedConfig summary)

variable [Net] [Glob] [ConfigText]

/-- The step of a call from a quiet state, where a runtime it installs has counted nothing. -/
theorem Quiet.step_call (h : Quiet s) {i : ℕ} {env : CallEnv} (hstep : s.step (.step i env) = some t)
    (hclean : s.Clean (.call (.step i env))) : Quiet t := by
  obtain ⟨call, x, call', hcall, hcs, rfl⟩ := step_call_inv hstep
  refine ⟨?_, fun active hactive => ?_, fun j savedConfig summary hj => ?_⟩
  · show x.manager.snapshot.activeRuntime.counters = (0, 0)
    rcases ManagerCall.reported_step hcs with hsame | ⟨savedConfig, rfl⟩
    · rw [hsame]
      exact h.reported
    · exact h.summarized i savedConfig _ hcall
  · have hactive : x.manager.active = some active := hactive
    rcases ManagerCall.active_step hcs with ⟨r, hinstalls, hr⟩ | ⟨-, hnone | hsame⟩
    · obtain rfl : r = active := Option.some.inj (hr.symm.trans hactive)
      exact hclean call r hcall hinstalls
    · rw [hnone] at hactive
      cases hactive
    · exact h.active active (hsame.symm.trans hactive)
  · rcases Pool.update_calls hj with ⟨-, hnew⟩ | ⟨-, hold⟩
    · subst hnew
      obtain ⟨active, hactive, rfl⟩ := ManagerCall.summarized_step hcs
      exact h.active active hactive
    · exact h.summarized j savedConfig summary hold

/-- **Step lemma**: a step that counts nothing keeps the quiet. -/
theorem Quiet.step (h : Quiet s) {a : HealthAction} (hclean : s.Clean a)
    (hs : s.healthStep a = some t) : Quiet t := by
  cases a with
  | call a =>
    cases a with
    | save appConfig => cases hs; exact h.enter fun _ _ heq => by cases heq
    | reload => cases hs; exact h.enter fun _ _ heq => by cases heq
    | shutdown => cases hs; exact h.enter fun _ _ heq => by cases heq
    | step i env => exact h.step_call hs hclean
  | activeWriter a =>
    simp only [healthStep] at hs
    split at hs
    · cases hs
    · rename_i active hactive
      obtain ⟨active', hstep, rfl⟩ := Option.map_eq_some_iff.mp hs
      refine ⟨h.reported, fun r hr => ?_, h.summarized⟩
      obtain rfl : active' = r := Option.some.inj hr
      exact ((ActiveRuntime.counters_stepWriter hstep).mpr (hclean active hactive)).trans
        (h.active active hactive)
  | heldWriter i a =>
    simp only [healthStep] at hs
    split at hs
    · cases hs
    · obtain ⟨call', hmap, rfl⟩ := Option.map_eq_some_iff.mp hs
      refine ⟨h.reported, h.active, fun j savedConfig summary hj => ?_⟩
      rcases Pool.update_calls hj with ⟨-, hnew⟩ | ⟨-, hold⟩
      · exact absurd (hnew ▸ hmap) mapHeld_ne_summarized
      · exact h.summarized j savedConfig summary hold

/-- A step that counts something makes the report wrong. -/
theorem not_reported_of_not_clean (h : Quiet s) {a : HealthAction} (hcounts : ¬ s.Clean a)
    (hs : s.healthStep a = some t) : ¬ t.Reported := by
  intro hreported
  refine hcounts ?_
  cases a with
  | call a =>
    cases a with
    | save appConfig => trivial
    | reload => trivial
    | shutdown => trivial
    | step i env =>
      intro call active hcall hinstalls
      obtain ⟨call₂, x, call', hcall₂, hcs, rfl⟩ := step_call_inv hs
      obtain rfl : call = call₂ := Option.some.inj (hcall.symm.trans hcall₂)
      rcases ManagerCall.active_step hcs with ⟨r, hr, hactive⟩ | ⟨hnone, -⟩
      · obtain rfl : r = active := Option.some.inj (hr.symm.trans hinstalls)
        refine counters_of_reported ?_ hactive hreported
        show x.manager.snapshot.activeRuntime.counters = (0, 0)
        rcases ManagerCall.reported_step hcs with hsame | ⟨savedConfig, rfl⟩
        · rw [hsame]
          exact h.reported
        · cases hinstalls
      · rw [hinstalls] at hnone
        cases hnone
  | activeWriter a =>
    intro active hactive
    simp only [healthStep, hactive] at hs
    obtain ⟨active', hstep, rfl⟩ := Option.map_eq_some_iff.mp hs
    obtain ⟨hdropped, hfailures⟩ := hreported active' rfl
    have hzero : active'.counters = (0, 0) :=
      (Prod.ext hdropped hfailures : _ = active'.counters).symm.trans h.reported
    exact (ActiveRuntime.counters_stepWriter hstep).mp (hzero.trans (h.active active hactive).symm)
  | heldWriter i a => trivial

omit [ConfigText] in
/-- A start reports what its new writer has counted, which is nothing. -/
theorem quiet_of_start [ConfigJson] {fs : Fs} {env : StartEnv} {path file : String}
    {manager : RuntimeManager} (hstart : RuntimeManager.start fs env path = .ok manager) :
    Quiet (.init manager file) := by
  obtain ⟨appConfig, -, hstart⟩ := bind_eq_ok.mp hstart
  obtain ⟨runtime, -, hstart⟩ := bind_eq_ok.mp hstart
  obtain ⟨active, hactive, hstart⟩ := bind_eq_ok.mp hstart
  obtain ⟨hp, rfl⟩ := startActiveRuntime_eq_ok.mp hactive
  obtain rfl := Except.ok.inj hstart
  refine ⟨rfl, fun active hr => ?_, fun i savedConfig summary hcall => by cases hcall⟩
  obtain rfl := Option.some.inj hr
  rfl

/-- **The reported health counters are the real ones** in every state of a run exactly when no step of it
counts: no event is dropped and no flush fails while the runtime is active, and no runtime is installed
that had dropped an event or failed a flush before. -/
theorem health_counters_iff {fs : Fs} {env : StartEnv} {path file : String} {manager : RuntimeManager}
    (hstart : RuntimeManager.start fs env path = .ok manager) {as : List HealthAction}
    (hrun : run healthStep (.init manager file) as = some s) :
    Always healthStep Reported (.init manager file) as ↔ Along healthStep Clean (.init manager file) as :=
  always_iff_along_of_strong (fun _ h => h.isReported) (fun _ _ _ h hclean hs => h.step hclean hs)
    (fun _ _ _ h hcounts hs => not_reported_of_not_clean h hcounts hs) (quiet_of_start hstart) hrun

end ManagerCalls

/-- A run from the sample start. -/
def countingCalls (as : List HealthAction) : Option ManagerCalls :=
  letI := sampleNet; letI := sampleGlob; letI := sampleText
  run ManagerCalls.healthStep (.init sampleStarted (sampleSaved "example.test")) as

/-- One flush fails, and `state` goes on reporting none. -/
theorem failed_flush_not_reported :
    (∃ env, @RuntimeManager.start sampleNet sampleGlob sampleText.toConfigJson sampleOk.fs env
      "kidproxy.json" = .ok sampleStarted) ∧
    ∃ s active, countingCalls [.activeWriter (.trySend sampleEvent), .activeWriter .recv,
        .activeWriter .tick, .activeWriter (.flush sampleLocked)] = some s ∧
      s.shared.manager.active = some active ∧
      s.shared.manager.state.activeRuntime.writeFailures = 0 ∧
      active.writer.writer.writeFailures = 1 := by
  refine ⟨⟨_, start_sample⟩, _, _, rfl, rfl, ?_, ?_⟩
  · decide
  · decide

/-- An event that the queue takes is counted nowhere. -/
theorem health_counters_sample :
    letI := sampleNet; letI := sampleGlob; letI := sampleText
    Always ManagerCalls.healthStep ManagerCalls.Reported
      (.init sampleStarted (sampleSaved "example.test"))
      [.activeWriter (.trySend sampleEvent), .activeWriter .recv] := by
  let _ := sampleNet; let _ := sampleGlob; let _ := sampleText
  obtain ⟨s, hrun⟩ : ∃ s, countingCalls
      [.activeWriter (.trySend sampleEvent), .activeWriter .recv] = some s := ⟨_, rfl⟩
  refine (ManagerCalls.health_counters_iff start_sample hrun).mpr ?_
  refine along_cons (fun active hactive => ?_) rfl (along_cons (fun _ _ => trivial) rfl trivial)
  obtain rfl : sampleActive = active := Option.some.inj hactive
  exact ⟨_, rfl⟩

end KidProxy
