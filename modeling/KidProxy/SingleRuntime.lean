import KidProxy.ManagerCalls

/-!
# SingleRuntime — at most one runtime

There is one token.  It lies with the controller while a runtime is active, passes to the reload or the
shutdown that takes the runtime, and comes back with the runtime that a reload installs.  Every other exit
destroys it.  Who holds it knows which runtimes were started and not yet given to
`shutdown_active_runtime`: the one it owns, or none.
-/

namespace KidProxy

open Transition

/-! ### Owners -/

/-- The runtime that a call owns. -/
def ReloadStage.held : ReloadStage → Option ActiveRuntime
  | .taken r | .loaded r _ | .planned r _ | .stopping r _ | .started r _ | .restarted r _ => some r
  | .taking | .stopped _ | .released _ | .installed _ | .summarized _ _ | .fallingBack _ _
  | .reinstalled _ | .restartFailed _ | .returned _ => none

def ManagerStop.held : ManagerStop → Option ActiveRuntime
  | .taken r | .stopping r => some r
  | .taking | .returned _ => none

def ManagerCall.held : ManagerCall → Option ActiveRuntime
  | .save _ => none
  | .reload stage => stage.held
  | .shutdown stage => stage.held

/-- All runtimes there are: the active one, and those that calls own. -/
def ManagerCalls.runtimes (s : ManagerCalls) : List ActiveRuntime :=
  s.shared.manager.active.toList ++ s.calls.flatMap fun call => call.held.toList

/-- The call is about to start a runtime. -/
inductive ManagerCall.Starts : ManagerCall → Prop
  | new (plan : ReloadPlan) : Starts (.reload (.released plan))
  | previous (plan : ReloadPlan) (err : AnyError) : Starts (.reload (.fallingBack plan err))

/-- The call is about to look for the active runtime: to take it, or, in a reload that has installed the new
one, to summarize it. -/
inductive ManagerCall.Looks : ManagerCall → Prop
  | reload : Looks (.reload .taking)
  | installed (savedConfig : AppConfigFile) : Looks (.reload (.installed savedConfig))
  | shutdown : Looks (.shutdown .taking)

/-- The call has returned an error. -/
inductive ManagerCall.Failed : ManagerCall → Prop
  | reload (err : AnyError) : Failed (.reload (.returned (.error err)))
  | shutdown (err : AnyError) : Failed (.shutdown (.returned (.error err)))

/-! ### The token -/

/-- What a call holds of the token. -/
def ReloadStage.token : ReloadStage → ℕ
  | .taken _ | .loaded _ _ | .planned _ _ | .stopping _ _ | .stopped _ | .released _ | .started _ _
  | .fallingBack _ _ | .restarted _ _ => 1
  | .taking | .installed _ | .summarized _ _ | .reinstalled _ | .restartFailed _ | .returned _ => 0

/-- A shutdown that returned `Ok` keeps the token for good. -/
def ManagerStop.token : ManagerStop → ℕ
  | .taken _ | .stopping _ | .returned (.ok _) => 1
  | .taking | .returned (.error _) => 0

def ManagerCall.token : ManagerCall → ℕ
  | .save _ => 0
  | .reload stage => stage.token
  | .shutdown stage => stage.token

def ManagerShared.token (x : ManagerShared) : ℕ := x.manager.active.toList.length

/-- What the holder of the token knows of the runtimes. -/
def ReloadStage.Knows (x : ManagerShared) : ReloadStage → Prop
  | .taken r | .loaded r _ | .planned r _ | .started r _ | .restarted r _ =>
    x.started = x.given ++ [r]
  | .stopping _ _ | .stopped _ | .released _ | .fallingBack _ _ => x.given = x.started
  | .taking | .installed _ | .summarized _ _ | .reinstalled _ | .restartFailed _ | .returned _ => True

def ManagerStop.Knows (x : ManagerShared) : ManagerStop → Prop
  | .taken r => x.started = x.given ++ [r]
  | .taking | .stopping _ | .returned _ => True

def ManagerCall.Knows (x : ManagerShared) : ManagerCall → Prop
  | .save _ => True
  | .reload stage => stage.Knows x
  | .shutdown stage => stage.Knows x

def ManagerShared.Knows (x : ManagerShared) : Prop :=
  ∀ r, x.manager.active = some r → x.started = x.given ++ [r]

namespace ManagerCall

variable {x y : ManagerShared} {call : ManagerCall}

theorem held_le_token (call : ManagerCall) : call.held.toList.length ≤ call.token := by
  rcases call with stage | stage | stage
  · exact Nat.le_refl 0
  · cases stage <;> simp [held, token, ReloadStage.held, ReloadStage.token]
  · cases stage <;> simp [held, token, ManagerStop.held, ManagerStop.token]

/-- Without the token there is nothing to know. -/
theorem knows_of_token (h : call.token = 0) : call.Knows x := by
  rcases call with stage | stage | stage
  · trivial
  · cases stage <;> trivial
  · rcases stage with _ | _ | _ | _ <;> trivial

theorem Knows.congr (h : call.Knows x) (hstarted : y.started = x.started)
    (hgiven : y.given = x.given) : call.Knows y := by
  rcases call with stage | stage | stage
  · trivial
  · cases stage <;> simp_all only [Knows, ReloadStage.Knows]
  · cases stage <;> simp_all only [Knows, ManagerStop.Knows]

end ManagerCall

section Effect

variable [Net] [Glob] [ConfigText] {env : CallEnv} {x y : ManagerShared} {call call' : ManagerCall}

/-- A step passes the token on or destroys it. -/
theorem CallEffect.token_le (h : CallEffect env x call y call') :
    y.token + call'.token ≤ x.token + call.token := by
  cases h with
  | save h => cases h <;> exact Nat.le_refl _
  | reload h =>
    cases h with
    | took ha => simp [ManagerShared.token, ManagerCall.token, ReloadStage.token, ha]
    | installed | reinstalled => simp [ManagerShared.token, ManagerCall.token, ReloadStage.token]
    | _ => simp [ManagerShared.token, ManagerCall.token, ReloadStage.token, joinFailure]
  | shutdown h =>
    cases h with
    | took ha => simp [ManagerShared.token, ManagerCall.token, ManagerStop.token, ha]
    | stopped =>
      simp only [ManagerShared.token, ManagerCall.token, Nat.add_le_add_iff_left]
      unfold ManagerStop.token
      split <;> simp
    | _ => simp [ManagerShared.token, ManagerCall.token, ManagerStop.token]

/-- Only the holder of the token starts a runtime or gives one away. -/
theorem CallEffect.ledger (h : CallEffect env x call y call') (htoken : call.token = 0) :
    y.started = x.started ∧ y.given = x.given := by
  cases h with
  | save h => cases h <;> exact ⟨rfl, rfl⟩
  | reload h => cases h <;> first | exact ⟨rfl, rfl⟩ | cases htoken
  | shutdown h => cases h <;> first | exact ⟨rfl, rfl⟩ | cases htoken

/-- Who takes the token knows what the one before knew, and what it did itself. -/
theorem CallEffect.knows (h : CallEffect env x call y call') (hx : x.Knows) (hcall : call.Knows x)
    (hactive : call.token = 1 → x.manager.active = none) : y.Knows ∧ call'.Knows y := by
  cases h with
  | save h => cases h <;> exact ⟨hx, trivial⟩
  | reload h =>
    cases h with
    | took ha => exact ⟨fun r hr => (nomatch hr), hx _ ha⟩
    | gave =>
      refine ⟨fun r hr => ?_, ?_⟩
      · rw [ManagerShared.addGiven_manager, hactive rfl] at hr
        cases hr
      · exact hcall.symm
    | started hs =>
      refine ⟨fun r hr => ?_, ?_⟩
      · rw [ManagerShared.addStarted_manager, hactive rfl] at hr
        cases hr
      · exact congrArg (· ++ [_]) hcall.symm
    | restarted hs =>
      refine ⟨fun r hr => ?_, ?_⟩
      · rw [ManagerShared.addStarted_manager, hactive rfl] at hr
        cases hr
      · exact congrArg (· ++ [_]) hcall.symm
    | installed | reinstalled =>
      refine ⟨fun r hr => ?_, trivial⟩
      obtain rfl := Option.some.inj hr
      exact hcall
    | published | publishedError | publishedFailure => exact ⟨fun r hr => hx r hr, trivial⟩
    | missing | unloaded | invalid | unreleased | startPanicked | vanished | summarized
    | restartFailed | restartPanicked => exact ⟨hx, trivial⟩
    | loaded | planned | stopped | released | startFailed => exact ⟨hx, hcall⟩
  | shutdown h =>
    cases h with
    | missing | stopped => exact ⟨hx, trivial⟩
    | took ha => exact ⟨fun r hr => (nomatch hr), hx _ ha⟩
    | gave =>
      refine ⟨fun r hr => ?_, trivial⟩
      rw [ManagerShared.addGiven_manager, hactive rfl] at hr
      cases hr

end Effect

/-! ### The invariant -/

namespace ManagerCalls

/-- The token, in all hands together. -/
def tokens (s : ManagerCalls) : ℕ := s.total ManagerShared.token ManagerCall.token

/-- There is at most one token, and its holder knows the runtimes. -/
structure Single (s : ManagerCalls) : Prop where
  tokens_le : s.tokens ≤ 1
  active : s.shared.Knows
  calls : ∀ (i : ℕ) (call : ManagerCall), s.calls[i]? = some call → call.Knows s.shared

theorem single_init (manager : RuntimeManager) (file : String) : Single (init manager file) where
  tokens_le := by
    show manager.active.toList.length + 0 ≤ 1
    cases manager.active <;> simp
  active r hr := by
    have hr : manager.active = some r := hr
    show manager.active.toList = [] ++ [r]
    rw [hr]
    rfl
  calls i call hcall := by cases hcall

theorem single_enter {s : ManagerCalls} {call : ManagerCall} (h : Single s) (htoken : call.token = 0) :
    Single (s.enter call) where
  tokens_le := by
    unfold tokens
    rw [Pool.total_enter, htoken]
    exact h.tokens_le
  active := h.active
  calls j d hd := by
    rcases Pool.enter_calls hd with hd | ⟨-, rfl⟩
    · exact h.calls j d hd
    · exact ManagerCall.knows_of_token htoken

variable {s t : ManagerCalls} {i : ℕ} {call : ManagerCall}

/-- Where a call holds the token, the controller does not. -/
theorem Single.active_none (h : Single s) (hcall : s.calls[i]? = some call) (htoken : call.token = 1) :
    s.shared.manager.active = none := by
  have hle := Nat.le_trans (Pool.shared_add_le_total ManagerShared.token _ hcall) h.tokens_le
  rw [htoken] at hle
  have hzero : s.shared.token = 0 := by omega
  exact Option.toList_eq_nil_iff.mp (List.length_eq_zero_iff.mp hzero)

/-- Nor does another call. -/
theorem Single.token_eq_zero (h : Single s) (hcall : s.calls[i]? = some call) (htoken : call.token = 1)
    {j : ℕ} {d : ManagerCall} (hd : s.calls[j]? = some d) (hne : j ≠ i) : d.token = 0 := by
  have hle := Nat.le_trans (Pool.add_le_total ManagerShared.token ManagerCall.token hd hcall hne)
    h.tokens_le
  omega

variable [Net] [Glob] [ConfigText]

/-- **Step lemma**. -/
theorem single_step {a : ManagerAction} (h : Single s) (hs : s.step a = some t) : Single t := by
  cases step_effect hs with
  | save => exact single_enter h rfl
  | reload => exact single_enter h rfl
  | shutdown => exact single_enter h rfl
  | @step i env call x call' hcall heff =>
    obtain ⟨hactive, hcall'⟩ := heff.knows h.active (h.calls i call hcall) (h.active_none hcall)
    refine ⟨Nat.le_trans (Pool.total_update_le _ _ hcall heff.token_le) h.tokens_le, hactive, ?_⟩
    intro j d hd
    rcases Pool.update_calls hd with ⟨-, rfl⟩ | ⟨hne, hd⟩
    · exact hcall'
    · by_cases htoken : call.token = 0
      · obtain ⟨hstarted, hgiven⟩ := heff.ledger htoken
        exact (h.calls j d hd).congr hstarted hgiven
      · -- the other calls hold nothing while this one holds the token
        have hle := Nat.le_trans (Pool.shared_add_le_total ManagerShared.token _ hcall) h.tokens_le
        exact ManagerCall.knows_of_token (h.token_eq_zero hcall (by omega) hd hne)

theorem single_run {manager : RuntimeManager} {file : String} {as : List ManagerAction}
    (hrun : run step (init manager file) as = some s) : Single s :=
  run_invariant (fun _ _ _ => single_step) (single_init manager file) hrun

omit [Net] [Glob] [ConfigText] in
theorem length_runtimes_le (s : ManagerCalls) : s.runtimes.length ≤ s.tokens := by
  unfold runtimes tokens Pool.total
  rw [List.length_append, List.length_flatMap]
  refine Nat.add_le_add_left ?_ _
  exact List.sum_le_sum fun call _ => call.held_le_token

variable {manager : RuntimeManager} {file : String} {as : List ManagerAction}

omit [Net] [Glob] [ConfigText] in
/-- While a call holds the token and no runtime, there is none. -/
theorem Single.runtimes_eq_nil (h : Single s) (hcall : s.calls[i]? = some call)
    (htoken : call.token = 1) (hheld : call.held = none) : s.runtimes = [] := by
  unfold runtimes
  rw [h.active_none hcall htoken, Option.toList_none, List.nil_append, List.flatMap_eq_nil_iff]
  intro d hd
  obtain ⟨j, hj⟩ := List.getElem?_of_mem hd
  by_cases hji : j = i
  · subst hji
    obtain rfl : call = d := Option.some.inj (hcall.symm.trans hj)
    rw [hheld]
    rfl
  · have hle := d.held_le_token
    rw [h.token_eq_zero hcall htoken hj hji] at hle
    exact List.length_eq_zero_iff.mp (Nat.le_zero.mp hle)

/-- A call that has returned takes no step. -/
theorem stays_returned {a : ManagerAction} {result : Except AnyError Unit}
    (hcall : s.calls[i]? = some (.shutdown (.returned result))) (hs : s.step a = some t) :
    t.calls[i]? = some (.shutdown (.returned result)) := by
  cases step_effect hs with
  | save | reload | shutdown => exact Pool.enter_get hcall
  | @step j env call x call' hj heff =>
    refine Pool.update_get_ne hcall fun hij => ?_
    subst hij
    obtain rfl := Option.some.inj (hcall.symm.trans hj)
    cases heff with
    | shutdown h => cases h

/-- A call that finds no active runtime returns an error and changes nothing else. -/
theorem looks_inactive (hnone : s.shared.manager.active = none) (hcall : s.calls[i]? = some call)
    (hlooks : call.Looks) (env : CallEnv) :
    ∃ call' : ManagerCall, call'.Failed ∧ s.step (.step i env) = some (s.update i s.shared call') := by
  cases hlooks with
  | reload =>
    have hstep : ManagerCall.step env s.shared (.reload .taking) = some (s.shared,
        .reload (.returned (.error (.msg "runtime manager missing active runtime during reload")))) := by
      simp only [ManagerCall.step, ReloadStage.step, hnone]
      rfl
    exact ⟨_, .reload _, step_call hcall hstep⟩
  | installed savedConfig =>
    have hstep : ManagerCall.step env s.shared (.reload (.installed savedConfig)) = some (s.shared,
        .reload (.returned (.error (.msg "runtime manager missing active runtime after reload")))) := by
      simp only [ManagerCall.step, ReloadStage.step, hnone]
      rfl
    exact ⟨_, .reload _, step_call hcall hstep⟩
  | shutdown =>
    have hstep : ManagerCall.step env s.shared (.shutdown .taking) = some (s.shared,
        .shutdown (.returned
          (.error (.msg "runtime manager missing active runtime during shutdown")))) := by
      simp only [ManagerCall.step, ManagerStop.step, hnone]
      rfl
    exact ⟨_, .shutdown _, step_call hcall hstep⟩

end ManagerCalls

section Ownership

open ManagerCalls

variable [Net] [Glob] [ConfigText] {manager : RuntimeManager} {file : String} {as : List ManagerAction}
  {s : ManagerCalls}

/-- **At most one runtime**, in every state that calls come to from a manager that was started: a reload
starts one only while there is none and all others were given to `shutdown_active_runtime`; a call that
finds none returns an error and changes nothing, and so does, from there on, a reload that finds none after
it has installed the new one; and after a shutdown that returned `Ok` there is none. -/
theorem single_runtime (hrun : run step (init manager file) as = some s) :
    s.runtimes.length ≤ 1 ∧
      (∀ (i : ℕ) (call : ManagerCall), s.calls[i]? = some call → call.Starts →
        s.runtimes = [] ∧ s.shared.given = s.shared.started) ∧
      (s.shared.manager.active = none → ∀ (i : ℕ) (call : ManagerCall) (env : CallEnv),
        s.calls[i]? = some call → call.Looks →
        ∃ call' : ManagerCall, call'.Failed ∧
          s.step (.step i env) = some (s.update i s.shared call')) ∧
      ∀ i : ℕ, s.calls[i]? = some (.shutdown (.returned (.ok ()))) →
        ∀ bs t, run step s bs = some t → t.shared.manager.active = none ∧ t.runtimes = [] := by
  have h := single_run hrun
  refine ⟨Nat.le_trans s.length_runtimes_le h.tokens_le, ?_, ?_, ?_⟩
  · intro i call hcall hstarts
    have hknows := h.calls i call hcall
    cases hstarts with
    | new plan => exact ⟨h.runtimes_eq_nil hcall rfl rfl, hknows⟩
    | previous plan err => exact ⟨h.runtimes_eq_nil hcall rfl rfl, hknows⟩
  · exact fun hnone i call env hcall hlooks => looks_inactive hnone hcall hlooks env
  · intro i hcall bs t ht
    have hsingle : Single t := run_invariant (fun _ _ _ => single_step) h ht
    have hreturned := run_invariant
      (P := fun s : ManagerCalls => s.calls[i]? = some (.shutdown (.returned (.ok ()))))
      (fun _ _ _ => stays_returned) hcall ht
    exact ⟨hsingle.active_none hreturned rfl, hsingle.runtimes_eq_nil hreturned rfl rfl⟩

end Ownership

/-- A run of calls on the sample controller. -/
def sampleCalls (as : List ManagerAction) : Option ManagerCalls :=
  letI := sampleNet; letI := sampleGlob; letI := sampleText
  run ManagerCalls.step (.init sampleManager (sampleSaved "example.test")) as

/-- After a shutdown, a reload finds no runtime. -/
theorem single_runtime_sample : ∃ s t,
    sampleCalls [.shutdown, .step 0 (sampleCallEnv ""), .step 0 (sampleCallEnv ""),
      .step 0 (sampleCallEnv "")] = some s ∧
    sampleCalls [.shutdown, .step 0 (sampleCallEnv ""), .step 0 (sampleCallEnv ""),
      .step 0 (sampleCallEnv ""), .reload, .step 1 (sampleCallEnv "")] = some t ∧
    s.calls[0]? = some (.shutdown (.returned (.ok ()))) ∧ t.runtimes = [] := by
  obtain ⟨s, t, hs, ht, hst, hcall⟩ : ∃ s t,
      sampleCalls [.shutdown, .step 0 (sampleCallEnv ""), .step 0 (sampleCallEnv ""),
        .step 0 (sampleCallEnv "")] = some s ∧
      sampleCalls [.shutdown, .step 0 (sampleCallEnv ""), .step 0 (sampleCallEnv ""),
        .step 0 (sampleCallEnv ""), .reload, .step 1 (sampleCallEnv "")] = some t ∧
      @run _ _ (@ManagerCalls.step sampleNet sampleGlob sampleText) s
        [.reload, .step 1 (sampleCallEnv "")] = some t ∧
      s.calls[0]? = some (.shutdown (.returned (.ok ()))) := ⟨_, _, rfl, rfl, rfl, rfl⟩
  have hall := @single_runtime sampleNet sampleGlob sampleText _ _ _ _ hs
  exact ⟨s, t, hs, ht, hcall, (hall.2.2.2 0 hcall _ _ hst).2⟩

end KidProxy
