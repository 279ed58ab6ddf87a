import KidProxy.WriterShutdown

/-!
# WriterStops — `shutdown()` calls come to an end

`run` takes the messages in front of that of a call one by one, and its final drain goes on as long as
messages come.  `toReceive` counts the receiving steps that are left when nothing more is sent: every one of
them lowers it, and a message that is sent raises it by one at most.  So a call that waits can return after
`max_inflight_events + 4` receiving steps and one more for every message that was sent meanwhile.
-/

namespace KidProxy

open Transition

/-- The steps by which the task gets on with its channel. -/
def Action.receives : Action → Bool
  | .recv | .drain | .timeout | .dropReceiver => true
  | .trySend _ | .sendShutdown _ | .cloneHandle | .dropHandle | .tick | .flush _ => false

def Action.sends : Action → Bool
  | .trySend _ | .sendShutdown _ => true
  | .cloneHandle | .dropHandle | .recv | .tick | .flush _ | .drain | .timeout | .dropReceiver => false

def ClientAction.receives : ClientAction → Bool
  | .writer a => a.receives
  | .start | .turn _ | .await _ => false

def ClientAction.sends : ClientAction → Bool
  | .writer a => a.sends
  | .turn _ => true
  | .start | .await _ => false

namespace Writer

variable {w w' : Writer} {a : Action}

/-- The receiving steps up to the end of the task. -/
def toReceive (w : Writer) : ℕ :=
  match w.control with
  | .select | .flushing .select => w.rx.queue.length + 4
  | .draining _ => w.rx.queue.length + 3
  | .waiting _ => w.rx.queue.length + 2
  | .flushing (.finish _) | .finished => 1
  | .returned => 0

theorem toReceive_le (w : Writer) : w.toReceive ≤ w.rx.queue.length + 4 := by
  unfold toReceive
  split <;> omega

theorem toReceive_pos (h : w.control ≠ .returned) : 0 < w.toReceive := by
  unfold toReceive
  split
  case h_7 hc => exact absurd hc h
  all_goals omega

/-- One more message is one more step at most. -/
theorem toReceive_send {rx : Channel WriterMessage} {message : WriterMessage}
    (hs : w.rx.trySend message = .ok rx) (hrx : w'.rx = rx) (hc : w'.control = w.control) :
    w'.toReceive ≤ w.toReceive + 1 := by
  have hlen : w'.rx.queue.length = w.rx.queue.length + 1 := by
    rw [hrx, (Channel.trySend_ok hs).2.2.1, List.length_append, List.length_singleton]
  unfold toReceive
  rw [hc, hlen]
  split <;> omega

/-- A message that is taken is one step less, in the loop of `run` and in those of the drain. -/
theorem toReceive_take {rx : Channel WriterMessage} {message : WriterMessage}
    (hr : w.rx.tryRecv = some (message, rx)) (hrx : w'.rx = rx)
    (hc : (w.control = .select ∧ (w'.control = .select ∨ w'.control = .flushing .select ∨
        ∃ done, w'.control = .draining done)) ∨
      ∃ done, w'.control = w.control ∧ (w.control = .draining done ∨ w.control = .waiting done)) :
    w'.toReceive + 1 ≤ w.toReceive := by
  have hlen : w.rx.queue.length = w'.rx.queue.length + 1 := by
    rw [hrx, (Channel.tryRecv_some hr).1, List.length_cons]
  rcases hc with ⟨hc, hc' | hc' | ⟨done, hc'⟩⟩ | ⟨done, hc', hc | hc⟩
  · simp only [toReceive, hc, hc']
    omega
  · simp only [toReceive, hc, hc']
    omega
  · simp only [toReceive, hc, hc']
    omega
  · simp only [toReceive, hc, hc']
    omega
  · simp only [toReceive, hc, hc']
    omega

/-- **Step lemma**: a receiving step lowers the count, and a message that is sent raises it by one. -/
theorem toReceive_step (he : Effect w a w') : w'.toReceive + (if a.receives then 1 else 0) ≤
    w.toReceive + (if a.sends then 1 else 0) := by
  cases he with
  | accept hs => exact toReceive_send hs rfl rfl
  | refuse hs => exact Nat.le_add_right _ _
  | acceptShutdown hs => exact toReceive_send hs rfl rfl
  | refuseShutdown hs => exact Nat.le_add_right _ _
  | clone hh => exact Nat.le_refl _
  | drop hh => exact Nat.le_refl _
  | recvEvent hc hr hn =>
    refine toReceive_take hr rfl (.inl ⟨hc, ?_⟩)
    rw [hn]
    split_ifs
    · exact .inr (.inl rfl)
    · exact .inl rfl
  | recvShutdown hc hr => exact toReceive_take hr rfl (.inl ⟨hc, .inr (.inr ⟨_, rfl⟩)⟩)
  | recvNone hc hr hh =>
    show 1 + 1 ≤ w.toReceive + 0
    simp only [toReceive, hc]
    omega
  | tick hc =>
    show w.rx.queue.length + 4 ≤ w.toReceive
    simp only [toReceive, hc, Nat.le_refl]
  | @flush tx next hc =>
    have hrx : ((w.tryFlush tx).afterFlush next).rx = w.rx := by simp
    show ((w.tryFlush tx).afterFlush next).toReceive ≤ w.toReceive
    rcases (w.tryFlush tx).afterFlush_control next with ⟨hn, rfl⟩ | ⟨hn, done, rfl⟩
    · simp only [toReceive, hn, hc, hrx, Nat.le_refl]
    · simp only [toReceive, hn, hc, Nat.le_refl]
  | @drainEvent event rx done hc hr => exact toReceive_take hr rfl (.inr ⟨done, rfl, hc⟩)
  | @drainShutdown other rx done hc hr => exact toReceive_take hr rfl (.inr ⟨done, rfl, hc⟩)
  | drainEmpty hc hr =>
    show w.rx.queue.length + 2 + 1 ≤ w.toReceive
    simp only [toReceive, hc, Nat.le_refl]
  | drainClosed hc hr hh =>
    show 1 + 1 ≤ w.toReceive
    simp only [toReceive, hc]
    omega
  | timeout hc =>
    show 1 + 1 ≤ w.toReceive
    simp only [toReceive, hc]
    omega
  | dropReceiver hc =>
    show 0 + 1 ≤ w.toReceive
    simp only [toReceive, hc, Nat.le_refl]

/-! ### The task is never stuck while a sender is held -/

/-- The channel keeps its size, and is empty once the receiver is dropped. -/
structure Sized (cfg : RuntimeConfig) (w : Writer) : Prop where
  capacity : w.rx.capacity = cfg.maxInflightEvents
  closed : w.control = .returned → w.rx.closed = true ∧ w.rx.queue = []

theorem sized_spawn (cfg : RuntimeConfig) (stored : List ActiveModel) : Sized cfg (spawn cfg stored) :=
  ⟨rfl, nofun⟩

theorem sized_step {cfg : RuntimeConfig} (h : Sized cfg w) (he : Effect w a w') : Sized cfg w' := by
  cases he with
  | accept hs =>
    obtain ⟨hopen, -, -, hcap, -⟩ := Channel.trySend_ok hs
    refine ⟨hcap.trans h.capacity, fun hret => ?_⟩
    rw [(h.closed hret).1] at hopen
    cases hopen
  | acceptShutdown hs =>
    obtain ⟨hopen, -, -, hcap, -⟩ := Channel.trySend_ok hs
    refine ⟨hcap.trans h.capacity, fun hret => ?_⟩
    rw [(h.closed hret).1] at hopen
    cases hopen
  | recvEvent hc hr hn =>
    refine ⟨(Channel.tryRecv_some hr).2.1.trans h.capacity, fun hret => ?_⟩
    rw [hn] at hret
    split_ifs at hret
  | recvShutdown hc hr => exact ⟨(Channel.tryRecv_some hr).2.1.trans h.capacity, nofun⟩
  | recvNone hc hr hh => exact ⟨h.capacity, nofun⟩
  | tick hc => exact ⟨h.capacity, nofun⟩
  | @flush tx next hc =>
    refine ⟨by simpa using h.capacity, fun hret => ?_⟩
    rcases (w.tryFlush tx).afterFlush_control next with ⟨hn, -⟩ | ⟨hn, -⟩ <;> rw [hn] at hret <;> cases hret
  | drainEvent hc hr =>
    refine ⟨(Channel.tryRecv_some hr).2.1.trans h.capacity, fun hret => ?_⟩
    rcases hc with hc | hc <;> exact absurd (hc.symm.trans hret) nofun
  | drainShutdown hc hr =>
    refine ⟨(Channel.tryRecv_some hr).2.1.trans h.capacity, fun hret => ?_⟩
    rcases hc with hc | hc <;> exact absurd (hc.symm.trans hret) nofun
  | drainEmpty hc hr => exact ⟨h.capacity, nofun⟩
  | drainClosed hc hr hh => exact ⟨h.capacity, nofun⟩
  | timeout hc => exact ⟨h.capacity, nofun⟩
  | dropReceiver hc => exact ⟨h.capacity, fun _ => ⟨rfl, rfl⟩⟩
  | _ => exact ⟨h.capacity, h.closed⟩

/-- The task holds no sender after its end. -/
theorem Sized.not_returned {cfg : RuntimeConfig} {id : ℕ} (h : Sized cfg w) (hheld : w.holds id = true) :
    w.control ≠ .returned := by
  intro hret
  unfold holds at hheld
  rw [(h.closed hret).2, hret] at hheld
  cases hheld

/-- While the oneshot sender of a call is queued or held, the task has a step other than a tick. -/
theorem works_of_holds {cfg : RuntimeConfig} {id : ℕ} (h : Sized cfg w) (hheld : w.holds id = true) :
    ∃ a w', (a.receives = true ∨ ∃ tx, a = .flush tx) ∧ w.step a = some w' := by
  cases hc : w.control with
  | select =>
    have hmem : w.rx.queue ≠ [] := by
      intro hnil
      unfold holds at hheld
      rw [hnil, hc] at hheld
      cases hheld
    obtain ⟨message, queue, hq⟩ := List.exists_cons_of_ne_nil hmem
    obtain ⟨rx, hr, -⟩ := Channel.tryRecv_of_cons hq
    refine ⟨.recv, ?_⟩
    simp only [step, hc, if_true, recv, hr]
    cases message with
    | event event => exact ⟨_, .inl rfl, rfl⟩
    | shutdown done => exact ⟨_, .inl rfl, rfl⟩
  | flushing next =>
    refine ⟨.flush ⟨.ok (), fun _ => .ok (), .ok ()⟩, ?_⟩
    simp only [step, hc]
    exact ⟨_, .inr ⟨_, rfl⟩, rfl⟩
  | draining done =>
    refine ⟨.drain, ?_⟩
    simp only [step, hc]
    exact ⟨_, .inl rfl, rfl⟩
  | waiting done =>
    refine ⟨.timeout, ?_⟩
    simp only [step, hc]
    exact ⟨_, .inl rfl, rfl⟩
  | finished =>
    refine ⟨.dropReceiver, ?_⟩
    simp only [step, hc]
    exact ⟨_, .inl rfl, rfl⟩
  | returned => exact absurd hc (h.not_returned hheld)

end Writer

namespace WriterClients

open Writer

variable {cfg : RuntimeConfig} {stored : List ActiveModel} {s t : WriterClients} {a : ClientAction}
  {as bs : List ClientAction} {id : ℕ} {before : List ProxyEvent}

/-- A step of a call is one of a handle, if it is one of the writer at all. -/
theorem toReceive_effect (he : Effect s a t) : t.shared.toReceive + (if a.receives then 1 else 0) ≤
    s.shared.toReceive + (if a.sends then 1 else 0) := by
  cases he with
  | writer ha he => exact Writer.toReceive_step he
  | start => exact Nat.le_refl _
  | turn hcall hstage => exact Writer.toReceive_step (effect_sendShutdown s.shared _)
  | answered hcall hstage hack => exact Nat.le_refl _
  | dropped hcall hstage hack hheld => exact Nat.le_refl _

theorem sized_effect (h : Sized cfg s.shared) (he : Effect s a t) : Sized cfg t.shared := by
  cases he with
  | writer ha he => exact sized_step h he
  | start => exact h
  | turn hcall hstage => exact sized_step h (effect_sendShutdown s.shared _)
  | answered hcall hstage hack => exact h
  | dropped hcall hstage hack hheld => exact h

/-- The call waits, or has returned. -/
def Sent (id : ℕ) (before : List ProxyEvent) (s : WriterClients) : Prop :=
  s.calls[id]? = some ⟨.waiting, before⟩ ∨ ∃ answered, s.calls[id]? = some ⟨.returned answered, before⟩

theorem sent_update {shared : Writer} {j : ℕ} {call : ShutdownCall} (h : Sent id before s) (hne : id ≠ j) :
    Sent id before (s.update j shared call) := by
  rcases h with h | ⟨answered, h⟩
  · exact .inl (Pool.update_get_ne h hne)
  · exact .inr ⟨answered, Pool.update_get_ne h hne⟩

theorem sent_return {j : ℕ} {call : ShutdownCall} (h : Sent id before s) (hcall : s.calls[j]? = some call)
    (hstage : call.stage = .waiting) (answered : Bool) :
    Sent id before (s.update j s.shared { call with stage := .returned answered }) := by
  by_cases hj : id = j
  · subst hj
    rcases h with h | ⟨answered, h⟩
    · obtain rfl := Option.some.inj (hcall.symm.trans h)
      exact .inr ⟨_, Pool.update_get hcall⟩
    · obtain rfl := Option.some.inj (hcall.symm.trans h)
      cases hstage
  · exact sent_update h hj

theorem sent_effect (h : Sent id before s) (he : Effect s a t) : Sent id before t := by
  cases he with
  | writer ha he => exact h
  | start =>
    rcases h with h | ⟨answered, h⟩
    · exact .inl (Pool.enter_get h)
    · exact .inr ⟨answered, Pool.enter_get h⟩
  | @turn j call hcall hstage =>
    have hne : id ≠ j := by
      rintro rfl
      rcases h with h | ⟨answered, h⟩
      · obtain rfl := Option.some.inj (hcall.symm.trans h)
        cases hstage
      · obtain rfl := Option.some.inj (hcall.symm.trans h)
        cases hstage
    exact sent_update h hne
  | @answered j call hcall hstage hack => exact sent_return h hcall hstage true
  | @dropped j call hcall hstage hack hheld => exact sent_return h hcall hstage false

/-- `rx.await` of a call that waits is ready, or its oneshot sender is still held. -/
theorem await_of_waiting (hcall : t.calls[id]? = some ⟨.waiting, before⟩) :
    (∃ answered u, step t (.await id) = some u ∧ u.calls[id]? = some ⟨.returned answered, before⟩) ∨
      t.shared.holds id = true := by
  have hstep : step t (.await id) = await t id ⟨.waiting, before⟩ := by
    simp only [step, hcall]
  by_cases hack : id ∈ t.shared.acknowledged
  · refine .inl ⟨true, t.update id t.shared ⟨.returned true, before⟩, ?_, Pool.update_get hcall⟩
    rw [hstep, await, if_pos hack]
  · by_cases hheld : t.shared.holds id = true
    · exact .inr hheld
    · refine .inl ⟨false, t.update id t.shared ⟨.returned false, before⟩, ?_, Pool.update_get hcall⟩
      rw [hstep, await, if_neg hack, if_neg hheld]

/-- A step of the task, but for `sendShutdown`, is one of the system. -/
theorem step_writer {w : Writer} {b : Action} (hb : b.receives = true ∨ ∃ tx, b = .flush tx)
    (hw : s.shared.step b = some w) : step s (.writer b) = some { s with shared := w } := by
  cases b with
  | sendShutdown done => rcases hb with hb | ⟨tx, hb⟩ <;> cases hb
  | dropHandle => rcases hb with hb | ⟨tx, hb⟩ <;> cases hb
  | _ =>
    simp only [step, hw]
    rfl

/-- **Calls come to an end**: once the message of a `shutdown()` call is sent, in every continuation of
every run the call has returned, or can return at once, or the task has a step other than a tick
and has not yet taken `max_inflight_events + 4` receiving steps and one for each message sent meanwhile. -/
theorem shutdown_calls_end (hrun : run step (spawn cfg stored) as = some s)
    (hcall : s.calls[id]? = some ⟨.waiting, before⟩) (hcont : run step s bs = some t) :
    (∃ answered, t.calls[id]? = some ⟨.returned answered, before⟩) ∨
    (∃ answered u, step t (.await id) = some u ∧ u.calls[id]? = some ⟨.returned answered, before⟩) ∨
    bs.countP ClientAction.receives < cfg.maxInflightEvents + 4 + bs.countP ClientAction.sends ∧
      ∃ b u, (b.receives = true ∨ ∃ tx, b = .flush tx) ∧ step t (.writer b) = some u := by
  have hkeep : ∀ s a t, Sized cfg s.shared → step s a = some t → Sized cfg t.shared :=
    fun s a t h hs => sized_effect h (step_effect hs)
  have hsized : Sized cfg s.shared := run_invariant hkeep (sized_spawn cfg stored) hrun
  have hsized' : Sized cfg t.shared := run_invariant hkeep hsized hcont
  have hsent : Sent id before t :=
    run_invariant (fun s a t h hs => sent_effect h (step_effect hs)) (.inl hcall) hcont
  rcases hsent with hwaits | hret
  · rcases await_of_waiting hwaits with hready | hheld
    · exact .inr (.inl hready)
    · obtain ⟨b, w, hb, hw⟩ := works_of_holds hsized' hheld
      refine .inr (.inr ⟨?_, b, _, hb, step_writer hb hw⟩)
      have hcount : bs.countP ClientAction.receives + t.shared.toReceive ≤
          s.shared.toReceive + bs.countP ClientAction.sends :=
        run_rank (r := fun s : WriterClients => s.shared.toReceive)
          (fun s a t hs => toReceive_effect (step_effect hs)) hcont
      have hpos := toReceive_pos (hsized'.not_returned hheld)
      have hle := s.shared.toReceive_le
      have hcap := s.shared.rx.bounded
      rw [hsized.capacity] at hcap
      omega
  · exact .inl hret

end WriterClients

theorem shutdown_calls_end_sample : ∃ s t,
    run WriterClients.step (WriterClients.spawn sampleConfig []) (sampleCall.take 3) = some s ∧
    run WriterClients.step s [.writer .recv, .writer (.trySend sampleEvent), .writer .recv, .writer .drain] =
      some t ∧
    ∃ b u, (b.receives = true ∨ ∃ tx, b = .flush tx) ∧ WriterClients.step t (.writer b) = some u := by
  obtain ⟨s, hs, hcall⟩ : ∃ s,
      run WriterClients.step (WriterClients.spawn sampleConfig []) (sampleCall.take 3) = some s ∧
      s.calls[0]? = some ⟨.waiting, [sampleEvent]⟩ := ⟨_, rfl, rfl⟩
  obtain ⟨t, ht, hwaits, hready⟩ : ∃ t,
      run WriterClients.step s [.writer .recv, .writer (.trySend sampleEvent), .writer .recv,
        .writer .drain] =
        some t ∧ t.calls[0]? = some ⟨.waiting, [sampleEvent]⟩ ∧ WriterClients.step t (.await 0) = none := by
    obtain rfl := Option.some.inj hs
    exact ⟨_, rfl, rfl, rfl⟩
  refine ⟨s, t, hs, ht, ?_⟩
  rcases WriterClients.shutdown_calls_end hs hcall ht with ⟨answered, hret⟩ | ⟨answered, u, hu, -⟩ |
    ⟨-, hworks⟩
  · rw [hwaits] at hret
    cases hret
  · rw [hready] at hu
    cases hu
  · exact hworks

end KidProxy
