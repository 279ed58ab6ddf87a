import KidProxy.Runtime
import KidProxy.WriterShutdown

/-!
# RuntimeStop — whether stopping a runtime flushes its log

`shutdown_active_runtime` stops the proxy task and then the writer, which other handles may still feed.
It is the only caller of the writer's `shutdown()`.  The `?` after the first step skips the second one,
so that the log is flushed exactly when the proxy task stops cleanly.
-/

namespace KidProxy

open Transition Writer

/-! ### The one shutdown message of a writer -/

def WriterMessage.shutdown? : WriterMessage → Option ℕ
  | .event _ => none
  | .shutdown done => some done

namespace Writer

/-- The shutdown messages in the queue. -/
def pending (w : Writer) : List ℕ := w.rx.queue.filterMap WriterMessage.shutdown?

/-- How far the message of call 0, the only one, has come: not sent, queued, held by `run`, answered. -/
inductive Progress (w : Writer) : (sent : Bool) → Prop
  | unsent (hc : w.control = .select ∨ w.control = .flushing .select) (hp : w.pending = [])
      (ha : w.acknowledged = []) : Progress w false
  | queued (hc : w.control = .select ∨ w.control = .flushing .select) (hp : w.pending = [0])
      (ha : w.acknowledged = []) : Progress w true
  | held (hc : w.control.done? = some 0) (hp : w.pending = []) (ha : w.acknowledged = []) :
      Progress w true
  | answered (hc : w.control = .finished ∨ w.control = .returned) (hp : w.pending = [])
      (ha : w.acknowledged = [0]) : Progress w true

theorem progress_congr {w w' : Writer} {sent : Bool} (h : Progress w sent)
    (hc : w'.control = w.control) (hp : w'.pending = w.pending)
    (ha : w'.acknowledged = w.acknowledged) : Progress w' sent := by
  cases h with
  | unsent hc₀ hp₀ ha₀ => exact .unsent (hc ▸ hc₀) (hp.trans hp₀) (ha.trans ha₀)
  | queued hc₀ hp₀ ha₀ => exact .queued (hc ▸ hc₀) (hp.trans hp₀) (ha.trans ha₀)
  | held hc₀ hp₀ ha₀ => exact .held (hc ▸ hc₀) (hp.trans hp₀) (ha.trans ha₀)
  | answered hc₀ hp₀ ha₀ => exact .answered (hc ▸ hc₀) (hp.trans hp₀) (ha.trans ha₀)

/-- Where `run` is in its `select!`, the message is unsent or queued. -/
theorem Progress.of_running {w : Writer} {sent : Bool} (h : Progress w sent)
    (hc : w.control = .select ∨ w.control = .flushing .select) :
    w.pending = (if sent then [0] else []) ∧ w.acknowledged = [] := by
  cases h with
  | unsent _ hp ha => exact ⟨hp, ha⟩
  | queued _ hp ha => exact ⟨hp, ha⟩
  | held hd => rcases hc with hc | hc <;> rw [hc] at hd <;> cases hd
  | answered hd => rcases hc with hc | hc <;> rw [hc] at hd <;> rcases hd with hd | hd <;> cases hd

/-- Where `run` is on its way out, it holds the message. -/
theorem Progress.of_leaving {w : Writer} {sent : Bool} {done : ℕ} (h : Progress w sent)
    (hc : w.control.done? = some done) :
    sent = true ∧ done = 0 ∧ w.pending = [] ∧ w.acknowledged = [] := by
  cases h with
  | unsent hd => rcases hd with hd | hd <;> rw [hd] at hc <;> cases hc
  | queued hd => rcases hd with hd | hd <;> rw [hd] at hc <;> cases hc
  | held hd hp ha => exact ⟨rfl, Option.some.inj (hc.symm.trans hd), hp, ha⟩
  | answered hd => rcases hd with hd | hd <;> rw [hd] at hc <;> cases hc

/-- Where `run` is past the final flush, the message is answered. -/
theorem Progress.of_left {w : Writer} {sent : Bool} (h : Progress w sent)
    (hc : w.control = .finished ∨ w.control = .returned) :
    sent = true ∧ w.pending = [] ∧ w.acknowledged = [0] := by
  cases h with
  | unsent hd => rcases hc with hc | hc <;> rw [hc] at hd <;> rcases hd with hd | hd <;> cases hd
  | queued hd => rcases hc with hc | hc <;> rw [hc] at hd <;> rcases hd with hd | hd <;> cases hd
  | held hd => rcases hc with hc | hc <;> rw [hc] at hd <;> cases hd
  | answered _ hp ha => exact ⟨rfl, hp, ha⟩

theorem Progress.of_running_iff {w : Writer} {sent : Bool}
    (hc : w.control = .select ∨ w.control = .flushing .select)
    (h : w.pending = (if sent then [0] else []) ∧ w.acknowledged = []) : Progress w sent := by
  cases sent with
  | false => exact .unsent hc h.1 h.2
  | true => exact .queued hc h.1 h.2

/-- Before the message is sent no oneshot channel is in use. -/
theorem Progress.not_mentions {w : Writer} (h : Progress w false) (id : ℕ) : ¬ w.Mentions id := by
  cases h with
  | unsent hc hp ha =>
    rintro (hm | hm | hm)
    · have hid : id ∈ w.pending := List.mem_filterMap.mpr ⟨_, hm, rfl⟩
      rw [hp] at hid
      cases hid
    · rcases hc with hc | hc <;> rw [hc] at hm <;> cases hm
    · rw [ha] at hm
      cases hm

theorem pending_append {w : Writer} {message : WriterMessage} {rx : Channel WriterMessage}
    (hs : w.rx.trySend message = .ok rx) :
    rx.queue.filterMap WriterMessage.shutdown? = w.pending ++ message.shutdown?.toList := by
  rw [(Channel.trySend_ok hs).2.2.1, List.filterMap_append, pending]
  cases message <;> rfl

theorem pending_cons {w : Writer} {message : WriterMessage} {rx : Channel WriterMessage}
    (hr : w.rx.tryRecv = some (message, rx)) :
    w.pending = message.shutdown?.toList ++ rx.queue.filterMap WriterMessage.shutdown? := by
  rw [pending, (Channel.tryRecv_some hr).1, List.filterMap_cons]
  cases message <;> rfl

/-- **Step lemma**: while a handle lives, `run` leaves its loop with the message only, and answers it. -/
theorem progress_step {w w' : Writer} {a : Action} {sent : Bool} (h : Progress w sent)
    (hh : w.handles ≠ 0) (ha : ∀ done, a ≠ .sendShutdown done) (he : Effect w a w') :
    Progress w' sent := by
  cases he with
  | accept hs =>
    refine progress_congr h rfl ?_ rfl
    show List.filterMap _ _ = _
    rw [pending_append hs]
    exact List.append_nil _
  | acceptShutdown hs => exact absurd rfl (ha _)
  | refuseShutdown hs => exact h
  | @recvEvent event rx next hc hr hn =>
    have hrun := h.of_running (.inl hc)
    rw [pending_cons hr] at hrun
    refine .of_running_iff ?_ hrun
    show next = .select ∨ next = .flushing .select
    rw [hn]
    split_ifs
    · exact .inr rfl
    · exact .inl rfl
  | @recvShutdown done rx hc hr =>
    obtain ⟨hp, hack⟩ := h.of_running (.inl hc)
    rw [pending_cons hr] at hp
    cases sent with
    | false => cases hp
    | true =>
      obtain ⟨rfl, hrest⟩ := List.cons_eq_cons.mp hp
      exact .held rfl hrest hack
  | recvNone hc hr hz => exact absurd hz hh
  | tick hc => exact .of_running_iff (.inr rfl) (h.of_running (.inl hc))
  | @flush tx next hc =>
    have hpending : ((w.tryFlush tx).afterFlush next).pending = w.pending := by
      rw [pending, afterFlush_rx, tryFlush_rx, pending]
    rcases next with _ | _ | done
    · obtain ⟨hp, hack⟩ := h.of_running (.inr hc)
      exact .of_running_iff (.inl rfl) ⟨hpending.trans hp, (tryFlush_acknowledged w tx).trans hack⟩
    · -- `run` has not seen a closed channel
      cases h with
      | unsent hd => rcases hd with hd | hd <;> rw [hc] at hd <;> cases hd
      | queued hd => rcases hd with hd | hd <;> rw [hc] at hd <;> cases hd
      | held hd => rw [hc] at hd; cases hd
      | answered hd => rcases hd with hd | hd <;> rw [hc] at hd <;> cases hd
    · obtain ⟨rfl, rfl, hp, hack⟩ := h.of_leaving (congrArg Control.done? hc)
      refine .answered (.inl rfl) (hpending.trans hp) ?_
      show (w.tryFlush tx).acknowledged ++ [0] = [0]
      rw [tryFlush_acknowledged, hack]
      rfl
  | drainEvent hc hr => exact progress_congr h rfl (pending_cons hr).symm rfl
  | @drainShutdown other rx done hc hr =>
    have hdone : w.control.done? = some done := by rcases hc with hc | hc <;> rw [hc] <;> rfl
    obtain ⟨-, -, hp, -⟩ := h.of_leaving hdone
    rw [pending_cons hr] at hp
    cases hp
  | @drainEmpty done hc hr =>
    obtain ⟨rfl, rfl, hp, hack⟩ := h.of_leaving (congrArg Control.done? hc)
    exact .held rfl hp hack
  | @drainClosed done hc hr hz =>
    obtain ⟨rfl, rfl, hp, hack⟩ := h.of_leaving (congrArg Control.done? hc)
    exact .held rfl hp hack
  | @timeout done hc =>
    obtain ⟨rfl, rfl, hp, hack⟩ := h.of_leaving (congrArg Control.done? hc)
    exact .held rfl hp hack
  | dropReceiver hc =>
    obtain ⟨rfl, -, hack⟩ := h.of_left (.inl hc)
    exact .answered (.inr rfl) rfl hack
  | _ => exact progress_congr h rfl rfl rfl

end Writer

/-! ### `shutdown_active_runtime` -/

/-- Where `shutdown_active_runtime` stands: at the shutdown of the proxy, at that of the writer, or
returned. -/
inductive StopStage
  | proxy
  | writer (id : ℕ)
  | returned (result : Except AnyError Unit)

structure RuntimeStop where
  clients : WriterClients
  handle : ProxyHandle
  /-- How the proxy task takes the stop signal. -/
  env : StopEnv
  stage : StopStage

inductive StopAction
  /-- A step of the writer task, or of another handle. -/
  | writer (a : Action)
  /-- The shutdown of the proxy is over. -/
  | proxyStopped
  | turn
  | await

namespace RuntimeStop

/-- The call on a runtime whose writer is `w`. -/
def start (w : Writer) (handle : ProxyHandle) (env : StopEnv) : RuntimeStop :=
  ⟨⟨w, []⟩, handle, env, .proxy⟩

/-- A step of the writer and its clients. -/
def lift (s : RuntimeStop) (a : ClientAction) (stage : StopStage) : Option RuntimeStop :=
  (s.clients.step a).map fun clients => { s with clients, stage }

/-- The runtime keeps its handle of the writer until the call returns. -/
def step (s : RuntimeStop) : StopAction → Option RuntimeStop
  | .writer .dropHandle =>
    match s.stage with
    | .returned _ => s.lift (.writer .dropHandle) s.stage
    | .proxy | .writer _ =>
      if s.clients.shared.handles ≤ 1 then none else s.lift (.writer .dropHandle) s.stage
  | .writer a => s.lift (.writer a) s.stage
  | .proxyStopped =>
    match s.stage with
    | .proxy =>
      match s.handle.shutdown s.env with
      | .error err => some { s with stage := .returned (.error err) }
      | .ok () => s.lift .start (.writer s.clients.calls.length)
    | _ => none
  | .turn =>
    match s.stage with
    | .writer id => s.lift (.turn id) s.stage
    | _ => none
  | .await =>
    match s.stage with
    | .writer id => s.lift (.await id) (.returned (.ok ()))
    | _ => none

/-- The effect of each action. -/
inductive Effect (s : RuntimeStop) : StopAction → RuntimeStop → Prop
  | writer {a clients} (he : s.clients.Effect (.writer a) clients)
      (hh : (∀ result, s.stage ≠ .returned result) → s.clients.shared.handles ≠ 0 →
        clients.shared.handles ≠ 0) : Effect s (.writer a) { s with clients }
  | failed {err} (hs : s.stage = .proxy) (hp : s.handle.shutdown s.env = .error err) :
      Effect s .proxyStopped { s with stage := .returned (.error err) }
  | stopped (hs : s.stage = .proxy) (hp : s.handle.shutdown s.env = .ok ()) :
      Effect s .proxyStopped { s with
        clients := s.clients.enter ⟨.sending, s.clients.shared.accepted⟩
        stage := .writer s.clients.calls.length }
  | turn {id clients} (hs : s.stage = .writer id) (he : s.clients.Effect (.turn id) clients) :
      Effect s .turn { s with clients }
  | await {id clients} (hs : s.stage = .writer id) (he : s.clients.Effect (.await id) clients) :
      Effect s .await { s with clients, stage := .returned (.ok ()) }

theorem lift_eq_some {s s' : RuntimeStop} {a : ClientAction} {stage : StopStage}
    (h : s.lift a stage = some s') :
    ∃ clients, s.clients.Effect a clients ∧ s' = { s with clients, stage } := by
  obtain ⟨clients, hc, rfl⟩ := Option.map_eq_some_iff.mp h
  exact ⟨clients, WriterClients.step_effect hc, rfl⟩

/-- Only the drop of a handle takes one away. -/
theorem handles_effect {w w' : Writer} {a : Action} (he : Writer.Effect w a w')
    (ha : a ≠ .dropHandle) : w.handles ≤ w'.handles := by
  cases he with
  | drop hh => exact absurd rfl ha
  | clone hh => exact Nat.le_succ _
  | flush hc => simp
  | _ => exact Nat.le_refl _

theorem step_effect {s s' : RuntimeStop} {a : StopAction} (h : s.step a = some s') :
    Effect s a s' := by
  cases a with
  | writer a =>
    by_cases ha : a = .dropHandle
    · subst ha
      have hl : s.lift (.writer .dropHandle) s.stage = some s' ∧
          ((∀ result, s.stage ≠ .returned result) → ¬ s.clients.shared.handles ≤ 1) := by
        simp only [step] at h
        split at h
        · rename_i result hs
          exact ⟨h, fun hne => absurd hs (hne result)⟩
        all_goals
          split_ifs at h with hle
          exact ⟨h, fun _ => hle⟩
      obtain ⟨clients, he, rfl⟩ := lift_eq_some hl.1
      refine .writer he fun hne _ => ?_
      have hgt := hl.2 hne
      cases he with
      | writer _ he =>
        cases he with
        | drop hh =>
          show s.clients.shared.handles - 1 ≠ 0
          omega
    · have hl : s.lift (.writer a) s.stage = some s' := by
        cases a with
        | dropHandle => exact absurd rfl ha
        | _ => exact h
      obtain ⟨clients, he, rfl⟩ := lift_eq_some hl
      refine .writer he fun _ hh => ?_
      cases he with
      | writer _ he => exact fun hz => hh (Nat.le_zero.mp (hz ▸ handles_effect he ha))
  | proxyStopped =>
    simp only [step] at h
    split at h
    · rename_i hs
      split at h
      · rename_i err hp
        obtain rfl := Option.some.inj h
        exact .failed hs hp
      · rename_i hp
        obtain ⟨clients, he, rfl⟩ := lift_eq_some h
        cases he
        exact .stopped hs hp
    · cases h
  | turn =>
    simp only [step] at h
    split at h
    · rename_i id hs
      obtain ⟨clients, he, rfl⟩ := lift_eq_some h
      exact .turn hs he
    · cases h
  | await =>
    simp only [step] at h
    split at h
    · rename_i id hs
      obtain ⟨clients, he, rfl⟩ := lift_eq_some h
      exact .await hs he
    · cases h

/-! ### What the call leaves behind -/

/-- The writer while the runtime holds its handle; `sent` tells whether its shutdown message was sent. -/
structure Live (stored : List ActiveModel) (c : WriterClients) (sent : Bool) : Prop where
  ordered : c.Ordered stored
  answers : c.AnswersFlushed stored
  handles : c.shared.handles ≠ 0
  progress : Progress c.shared sent

variable {stored : List ActiveModel}

theorem drainsFlushed_of_progress {c c' : WriterClients} {a : Action} {sent : Bool}
    (h : Progress c.shared sent) (he : c.Effect (.writer a) c') : c.DrainsFlushed (.writer a) := by
  cases he with
  | writer ha he =>
    cases he with
    | @drainShutdown other rx done hc hr =>
      have hdone : c.shared.control.done? = some done := by rcases hc with hc | hc <;> rw [hc] <;> rfl
      obtain ⟨-, -, hp, -⟩ := h.of_leaving hdone
      rw [pending_cons hr] at hp
      cases hp
    | drainEvent hc hr => exact WriterClients.drainsFlushed_of_tryRecv (by simp [hr])
    | drainEmpty hc hr => exact WriterClients.drainsFlushed_of_tryRecv (by simp [hr])
    | drainClosed hc hr hh => exact WriterClients.drainsFlushed_of_tryRecv (by simp [hr])
    | _ => exact WriterClients.drainsFlushed_of_ne (by simp)

theorem live_writer {c c' : WriterClients} {a : Action} {sent : Bool} (hok : FlushOk c.shared a)
    (h : Live stored c sent) (he : c.Effect (.writer a) c') (hh : c'.shared.handles ≠ 0) :
    Live stored c' sent where
  ordered := WriterClients.ordered_step h.ordered he
  answers := by
    have hF : c.FlushesOk (.writer a) := fun b hb => ClientAction.writer.inj hb ▸ hok
    exact (WriterClients.answers_step hF h.ordered h.answers he).mpr
      (drainsFlushed_of_progress h.progress he)
  handles := hh
  progress := by
    cases he with
    | writer ha he => exact progress_step h.progress h.handles ha he

/-- A step of the call itself answers nobody. -/
theorem answers_call {c c' : WriterClients} {a : ClientAction} (ha : ∀ b, a ≠ .writer b)
    (h : c.Ordered stored) (hP : c.AnswersFlushed stored) (he : c.Effect a c') : c'.AnswersFlushed stored :=
  (WriterClients.answers_step (fun b hb => absurd hb (ha b)) h hP he).mpr
    (WriterClients.drainsFlushed_of_ne (ha _))

/-- The states of `shutdown_active_runtime`, called when the events `before` had been accepted. -/
inductive StopPhase (stored : List ActiveModel) (before : List ProxyEvent) (s : RuntimeStop) : Prop
  | proxy (hs : s.stage = .proxy) (hcalls : s.clients.calls = [])
      (hb : before <+: s.clients.shared.accepted) (hl : Live stored s.clients false)
  | flushing {call sent} (hs : s.stage = .writer 0) (hp : s.handle.shutdown s.env = .ok ())
      (hcall : s.clients.calls[0]? = some call) (hb : before <+: call.before)
      (hstage : call.stage = if sent then .waiting else .sending) (hl : Live stored s.clients sent)
  | failed {err} (hs : s.stage = .returned (.error err)) (hp : s.handle.shutdown s.env = .error err)
      (hm : ∀ id, ¬ s.clients.shared.Mentions id)
  | done (hs : s.stage = .returned (.ok ())) (hp : s.handle.shutdown s.env = .ok ())
      (hc : Conserved stored s.clients.shared) (hack : 0 ∈ s.clients.shared.acknowledged)
      (hw : before <+: s.clients.shared.written)

theorem StopPhase.of_proxy {before : List ProxyEvent} {s : RuntimeStop} (h : StopPhase stored before s)
    (hs : s.stage = .proxy) :
    s.clients.calls = [] ∧ before <+: s.clients.shared.accepted ∧ Live stored s.clients false := by
  cases h with
  | proxy _ hcalls hb hl => exact ⟨hcalls, hb, hl⟩
  | flushing hs' => cases hs.symm.trans hs'
  | failed hs' => cases hs.symm.trans hs'
  | done hs' => cases hs.symm.trans hs'

theorem StopPhase.of_writer {before : List ProxyEvent} {s : RuntimeStop} (h : StopPhase stored before s)
    {id : ℕ} (hs : s.stage = .writer id) :
    id = 0 ∧ s.handle.shutdown s.env = .ok () ∧ ∃ call sent, s.clients.calls[0]? = some call ∧
      before <+: call.before ∧ (call.stage = if sent then .waiting else .sending) ∧
      Live stored s.clients sent := by
  cases h with
  | proxy hs' => cases hs.symm.trans hs'
  | @flushing call sent hs' hp hcall hb hstage hl =>
    exact ⟨StopStage.writer.inj (hs.symm.trans hs'), hp, call, sent, hcall, hb, hstage, hl⟩
  | failed hs' => cases hs.symm.trans hs'
  | done hs' => cases hs.symm.trans hs'

/-- What the call returns is what the shutdown of the proxy came to. -/
theorem StopPhase.of_returned {before : List ProxyEvent} {s : RuntimeStop} (h : StopPhase stored before s)
    {result : Except AnyError Unit} (hs : s.stage = .returned result) :
    s.handle.shutdown s.env = result ∧
      ((∃ err, result = .error err) ∧ (∀ id, ¬ s.clients.shared.Mentions id) ∨
        result = .ok () ∧ Conserved stored s.clients.shared ∧ 0 ∈ s.clients.shared.acknowledged ∧
          before <+: s.clients.shared.written) := by
  cases h with
  | proxy hs' => cases hs.symm.trans hs'
  | flushing hs' => cases hs.symm.trans hs'
  | @failed err hs' hp hm =>
    obtain rfl := StopStage.returned.inj (hs.symm.trans hs')
    exact ⟨hp, .inl ⟨⟨err, rfl⟩, hm⟩⟩
  | done hs' hp hc hack hw =>
    obtain rfl := StopStage.returned.inj (hs.symm.trans hs')
    exact ⟨hp, .inr ⟨rfl, hc, hack, hw⟩⟩

/-- Before the message is sent the channel is open. -/
theorem Live.unsent {c : WriterClients} (h : Live stored c false) : c.shared.rx.closed = false := by
  cases h.progress with
  | unsent hc hp ha =>
    refine h.ordered.conserved.open fun hret => ?_
    rcases hc with hc | hc <;> rw [hc] at hret <;> cases hret

/-- Once the message was sent, the oneshot channel is in use until it is answered. -/
theorem Live.sent {c : WriterClients} (h : Live stored c true) (hack : 0 ∉ c.shared.acknowledged) :
    c.shared.holds 0 = true := by
  unfold Writer.holds
  cases h.progress with
  | queued hc hp ha =>
    obtain ⟨message, hm, hid⟩ := List.mem_filterMap.mp
      (show 0 ∈ c.shared.rx.queue.filterMap WriterMessage.shutdown? by
        rw [show c.shared.rx.queue.filterMap WriterMessage.shutdown? = [0] from hp]
        exact List.mem_singleton_self 0)
    refine Bool.or_eq_true_iff.mpr (.inl (List.any_eq_true.mpr ⟨message, hm, ?_⟩))
    cases message with
    | event event => cases hid
    | shutdown done => exact decide_eq_true (Option.some.inj hid)
  | held hc hp ha => simp [hc]
  | answered hc hp ha =>
    rw [ha] at hack
    exact absurd (List.mem_singleton_self 0) hack

/-- An open channel takes the message of a call, or has no room for it. -/
theorem turn_of_open {c : WriterClients} (id : ℕ) (hopen : c.shared.rx.closed = false) :
    (∃ rx, c.shared.rx.trySend (.shutdown id) = .ok rx ∧
      c.shared.sendShutdown id = { c.shared with rx } ∧ c.turnStage id = .waiting) ∨
    c.shared.sendShutdown id = c.shared ∧ c.turnStage id = .sending := by
  unfold Writer.sendShutdown WriterClients.turnStage
  cases hs : c.shared.rx.trySend (.shutdown id) with
  | ok rx => exact .inl ⟨rx, rfl, rfl, rfl⟩
  | error err =>
    cases err with
    | full => exact .inr ⟨rfl, rfl⟩
    | closed =>
      rw [Channel.trySend_closed hs] at hopen
      cases hopen

/-- A turn of the call's loop sends its message, or leaves the writer as it is. -/
theorem live_turn {c c' : WriterClients} {call : ShutdownCall} (h : Live stored c false)
    (hcall : c.calls[0]? = some call) (he : c.Effect (.turn 0) c') :
    ∃ call' sent, c'.calls[0]? = some call' ∧ call'.before = call.before ∧
      (call'.stage = if sent then .waiting else .sending) ∧ Live stored c' sent := by
  have hord := WriterClients.ordered_step h.ordered he
  have hans := answers_call (fun b hb => by cases hb) h.ordered h.answers he
  cases he with
  | @turn _ call₀ hcall₀ hstage =>
    obtain rfl : call₀ = call := Option.some.inj (hcall₀.symm.trans hcall)
    have hget : (WriterClients.turn c 0 call₀).calls[0]? =
        some { call₀ with stage := WriterClients.turnStage c 0 } := Pool.update_get hcall
    have hshared : (WriterClients.turn c 0 call₀).shared = c.shared.sendShutdown 0 := rfl
    rcases turn_of_open 0 h.unsent with ⟨rx, hs, hw, hturn⟩ | ⟨hw, hturn⟩
    · refine ⟨_, true, hget, rfl, hturn, hord, hans, ?_, ?_⟩
      · rw [hshared, hw]
        exact h.handles
      · rw [hshared, hw]
        cases h.progress with
        | unsent hc hp ha =>
          refine .queued hc ?_ ha
          show List.filterMap _ _ = _
          rw [pending_append hs, hp]
          rfl
    · refine ⟨_, false, hget, rfl, hturn, hord, hans, ?_, ?_⟩
      · rw [hshared, hw]
        exact h.handles
      · rw [hshared, hw]
        exact h.progress

/-- A step of the writer leaves the call where it is. -/
theorem stopPhase_writer {before : List ProxyEvent} {s : RuntimeStop} {a : Action}
    {clients : WriterClients} (hok : FlushOk s.clients.shared a) (h : StopPhase stored before s)
    (he : s.clients.Effect (.writer a) clients)
    (hh : (∀ result, s.stage ≠ .returned result) → s.clients.shared.handles ≠ 0 →
      clients.shared.handles ≠ 0) : StopPhase stored before { s with clients } := by
  cases h with
  | proxy hs hcalls hb hl =>
    have hl' := live_writer hok hl he (hh (by simp [hs]) hl.handles)
    cases he with
    | writer ha he => exact .proxy hs hcalls (hb.trans (effect_accepted he)) hl'
  | flushing hs hp hcall hb hstage hl =>
    have hl' := live_writer hok hl he (hh (by simp [hs]) hl.handles)
    cases he with
    | writer ha he => exact .flushing hs hp hcall hb hstage hl'
  | failed hs hp hm =>
    cases he with
    | writer ha he =>
      refine .failed hs hp fun id hid => ?_
      rcases mentions_step he hid with hid | hid
      · exact hm id hid
      · exact absurd hid (ha id)
  | done hs hp hc hack hw =>
    cases he with
    | writer ha he =>
      exact .done hs hp (conserved_step hc he) (effect_acknowledged he hack) (hw.trans (effect_written he))

/-- **Step lemma**. -/
theorem stopPhase_step {before : List ProxyEvent} {s s' : RuntimeStop} {a : StopAction}
    (hok : ∀ b, a = .writer b → FlushOk s.clients.shared b) (h : StopPhase stored before s)
    (he : Effect s a s') : StopPhase stored before s' := by
  cases he with
  | writer he hh => exact stopPhase_writer (hok _ rfl) h he hh
  | failed hs hp =>
    obtain ⟨-, -, hl⟩ := h.of_proxy hs
    exact .failed rfl hp hl.progress.not_mentions
  | stopped hs hp =>
    obtain ⟨hcalls, hb, hl⟩ := h.of_proxy hs
    have hans := answers_call (fun b hb => by cases hb) hl.ordered hl.answers .start
    have hcall : (s.clients.enter ⟨.sending, s.clients.shared.accepted⟩).calls[0]? =
        some ⟨.sending, s.clients.shared.accepted⟩ := by
      rw [Pool.enter, hcalls]
      rfl
    have hl' : Live stored (s.clients.enter ⟨.sending, s.clients.shared.accepted⟩) false :=
      ⟨WriterClients.ordered_step hl.ordered .start, hans, hl.handles, hl.progress⟩
    refine .flushing ?_ hp hcall hb rfl hl'
    rw [hcalls]
    rfl
  | turn hs he =>
    obtain ⟨rfl, hp, call, sent, hcall, hb, hstage, hl⟩ := h.of_writer hs
    cases sent with
    | false =>
      obtain ⟨call', sent, hcall', hb', hstage', hl'⟩ := live_turn hl hcall he
      exact .flushing hs hp hcall' (hb'.symm ▸ hb) hstage' hl'
    | true =>
      cases he with
      | @turn _ call₀ hcall₀ hsending =>
        obtain rfl : call = call₀ := Option.some.inj (hcall.symm.trans hcall₀)
        cases hstage.symm.trans hsending
  | await hs he =>
    obtain ⟨rfl, hp, call, sent, hcall, hb, hstage, hl⟩ := h.of_writer hs
    cases he with
    | @answered _ call₀ hcall₀ hwaiting hack =>
      obtain rfl : call = call₀ := Option.some.inj (hcall.symm.trans hcall₀)
      have htable := hl.answers 0 call hcall (.inl hack)
      exact .done rfl hp hl.ordered.conserved hack (hb.trans htable.2)
    | @dropped _ call₀ hcall₀ hwaiting hack hheld =>
      -- the message of a waiting call is held until it is answered
      obtain rfl : call = call₀ := Option.some.inj (hcall.symm.trans hcall₀)
      cases sent with
      | false => cases hstage.symm.trans hwaiting
      | true => cases (hl.sent hack).symm.trans hheld

end RuntimeStop

/-! ### Outcomes of the proxy task -/

/-- The task was serving, and returned without an error in time, or was stopped by the abort. -/
def ProxyHandle.StopsCleanly (handle : ProxyHandle) (env : StopEnv) : Prop :=
  (∃ addr, handle.task = .serving addr) ∧
    (env.inTime = some (.returned (.ok ())) ∨ env.inTime = none ∧
      (env.afterAbort = .returned (.ok ()) ∨ env.afterAbort = .cancelled))

theorem ProxyHandle.shutdown_eq_ok {handle : ProxyHandle} {env : StopEnv} :
    handle.shutdown env = .ok () ↔ handle.StopsCleanly env := by
  obtain ⟨task⟩ := handle
  obtain ⟨inTime, afterAbort⟩ := env
  cases task with
  | failed err => simp [ProxyHandle.shutdown, StopsCleanly]
  | serving addr =>
    rcases inTime with _ | result | _ | text
    · rcases afterAbort with result | _ | text <;> simp [ProxyHandle.shutdown, StopsCleanly]
    · simp [ProxyHandle.shutdown, StopsCleanly]
    · simp [ProxyHandle.shutdown, StopsCleanly]
    · simp [ProxyHandle.shutdown, StopsCleanly]

/-! ### The writer of a running runtime -/

theorem handles_of_effect {w w' : Writer} {a : Action} (he : Writer.Effect w a w')
    (hh : w'.handles ≠ 0) : w.handles ≠ 0 := by
  cases he with
  | clone hz => exact hz
  | drop hz => exact hz
  | flush hc => simpa using hh
  | _ => exact hh

/-- Without a `shutdown()` call the writer runs as long as a handle lives. -/
theorem running_run {cfg : RuntimeConfig} {as : List Action} {w : Writer}
    (hrun : run Writer.step (spawn cfg stored) as = some w) (hnone : ∀ done, .sendShutdown done ∉ as)
    (hh : w.handles ≠ 0) : Progress w false :=
  run_invariant_of_mem (P := fun w => w.handles ≠ 0 → Progress w false)
    (fun _ _ _ ha h hst hh =>
      have hs := handles_of_effect (Writer.step_effect hst) hh
      progress_step (h hs) hs (fun done heq => hnone done (heq ▸ ha)) (Writer.step_effect hst))
    (fun _ => .unsent (.inl rfl) rfl rfl) hrun hh

namespace RuntimeStop

theorem stopPhase_start {cfg : RuntimeConfig} {as : List Action} {w : Writer} {handle : ProxyHandle}
    {env : StopEnv} (hrun : run Writer.step (spawn cfg stored) as = some w)
    (hnone : ∀ done, .sendShutdown done ∉ as) (hh : w.handles ≠ 0) :
    StopPhase stored w.accepted (start w handle env) := by
  have hp := running_run hrun hnone hh
  refine .proxy rfl rfl (List.prefix_refl _) ⟨⟨conserved_run (conserved_spawn cfg) hrun,
    fun id hm => absurd hm (hp.not_mentions id), fun id call hcall => ?_⟩, fun id call hcall => ?_, hh, hp⟩
  · cases hcall
  · cases hcall

theorem effect_frame {s s' : RuntimeStop} {a : StopAction} (he : Effect s a s') :
    s'.handle = s.handle ∧ s'.env = s.env := by
  cases he <;> exact ⟨rfl, rfl⟩

/-- A flush, if the step is one, succeeds. -/
def FlushesOk (s : RuntimeStop) (a : StopAction) : Prop :=
  ∀ b, a = .writer b → FlushOk s.clients.shared b

instance (s : RuntimeStop) (a : StopAction) : Decidable (FlushesOk s a) :=
  match a with
  | .writer b => decidable_of_iff (FlushOk s.clients.shared b)
      ⟨fun h _ ha => StopAction.writer.inj ha ▸ h, fun h => h b rfl⟩
  | .proxyStopped | .turn | .await => .isTrue fun _ ha => by cases ha

/-- **Run lemma**. -/
theorem stopPhase_run {before : List ProxyEvent} {s₀ s : RuntimeStop} {as : List StopAction}
    (h : StopPhase stored before s₀) (hok : Along step FlushesOk s₀ as) (hrun : run step s₀ as = some s) :
    StopPhase stored before s ∧ s.handle = s₀.handle ∧ s.env = s₀.env := by
  refine run_invariant_along
    (P := fun s => StopPhase stored before s ∧ s.handle = s₀.handle ∧ s.env = s₀.env) ?_ ⟨h, rfl, rfl⟩ hok
    hrun
  rintro t a u hF ⟨ht, hhandle, henv⟩ hst
  have he := step_effect hst
  obtain ⟨hhandle', henv'⟩ := effect_frame he
  exact ⟨stopPhase_step hF ht he, hhandle'.trans hhandle, henv'.trans henv⟩

end RuntimeStop

section Stop

variable {cfg : RuntimeConfig} {stored : List ActiveModel} {bs : List Action} {w : Writer}
  {handle : ProxyHandle} {env : StopEnv}
  {as : List StopAction} {s : RuntimeStop} {result : Except AnyError Unit}

/-- The call returns what `shutdownActiveRuntime` says of it. -/
theorem stop_result {active : ActiveRuntime} (hrunning : run Writer.step (spawn cfg stored) bs = some w)
    (hnone : ∀ done, .sendShutdown done ∉ bs) (hlive : w.handles ≠ 0)
    (hok : Along RuntimeStop.step RuntimeStop.FlushesOk (.start w active.handle env) as)
    (hrun : run RuntimeStop.step (.start w active.handle env) as = some s)
    (hret : s.stage = .returned result) : shutdownActiveRuntime env active = result := by
  obtain ⟨hphase, hhandle, henv⟩ := RuntimeStop.stopPhase_run
    (RuntimeStop.stopPhase_start hrunning hnone hlive) hok hrun
  obtain ⟨hp, -⟩ := hphase.of_returned hret
  rwa [hhandle, henv] at hp

/-- **Stopping a runtime flushes its log** exactly when the proxy task stops cleanly: for a running
writer, every run of the stop whose flushes succeed, and every outcome of the proxy task. -/
theorem stop_flushes_iff (hrunning : run Writer.step (spawn cfg stored) bs = some w)
    (hnone : ∀ done, .sendShutdown done ∉ bs) (hlive : w.handles ≠ 0)
    (hok : Along RuntimeStop.step RuntimeStop.FlushesOk (.start w handle env) as)
    (hrun : run RuntimeStop.step (.start w handle env) as = some s)
    (hret : s.stage = .returned result) :
    s.clients.shared.acknowledged ≠ [] ∧ WriterClients.InTable stored s.clients.shared w.accepted ↔
      handle.StopsCleanly env := by
  obtain ⟨hphase, hhandle, henv⟩ := RuntimeStop.stopPhase_run
    (RuntimeStop.stopPhase_start hrunning hnone hlive) hok hrun
  obtain ⟨hp, hout⟩ := hphase.of_returned hret
  rw [hhandle, henv] at hp
  rw [← ProxyHandle.shutdown_eq_ok, show handle.shutdown env = result from hp]
  rcases hout with ⟨⟨err, rfl⟩, hm⟩ | ⟨rfl, hc, hack, hw⟩
  · have hnil : s.clients.shared.acknowledged = [] :=
      List.eq_nil_iff_forall_not_mem.mpr fun id hid => hm id (.inr (.inr hid))
    exact ⟨fun h => absurd hnil h.1, fun h => by cases h⟩
  · exact ⟨fun _ => rfl, fun _ => ⟨List.ne_nil_of_mem hack, hc.rows, hw⟩⟩

end Stop

/-- A writer that has accepted one event. -/
def sampleRunning : Writer := (spawn sampleConfig []).trySend sampleEvent

/-- A serving task that returns at once. -/
def sampleStopEnv : StopEnv := ⟨some (.returned (.ok ())), .cancelled⟩

def sampleStopRun : List StopAction :=
  [.proxyStopped, .turn, .writer .recv, .writer .recv, .writer .drain, .writer .timeout,
    .writer (.flush ⟨.ok (), fun _ => .ok (), .ok ()⟩), .await]

theorem stop_flushes_iff_sample : ∃ s result,
    run RuntimeStop.step (.start sampleRunning ⟨.serving sampleConfig.listenAddr⟩ sampleStopEnv)
      sampleStopRun = some s ∧ s.stage = .returned result ∧
      s.clients.shared.acknowledged ≠ [] ∧
      WriterClients.InTable [] s.clients.shared sampleRunning.accepted := by
  obtain ⟨s, result, hs, hret⟩ : ∃ s result,
      run RuntimeStop.step (.start sampleRunning ⟨.serving sampleConfig.listenAddr⟩ sampleStopEnv)
        sampleStopRun = some s ∧ s.stage = .returned result := ⟨_, _, rfl, rfl⟩
  have hrunning : run Writer.step (spawn sampleConfig []) [.trySend sampleEvent] = some sampleRunning := rfl
  have hiff := stop_flushes_iff hrunning (by simp) (by decide) (by decide) hs hret
  exact ⟨s, result, hs, hret, hiff.mpr ⟨⟨_, rfl⟩, .inl rfl⟩⟩

/-- A task that could not bind its listener: the stop returns, and the accepted event is no row. -/
theorem failed_stop_unflushed : ∃ s err,
    run RuntimeStop.step (.start sampleRunning
      ⟨.failed (.msg "bind frontend TCP listener: Address already in use (os error 98)")⟩ sampleStopEnv)
      [.proxyStopped] = some s ∧ s.stage = .returned (.error err) ∧
      sampleRunning.accepted.length = 1 ∧ s.clients.shared.acknowledged = [] ∧
      s.clients.shared.table.length = 0 :=
  ⟨_, _, rfl, rfl, rfl, rfl, rfl⟩

end KidProxy
