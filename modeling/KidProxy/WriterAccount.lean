import KidProxy.WriterCapacity

/-!
# WriterAccount — every event sent is a row or counted as dropped

`try_send` counts the events that the channel refuses.  Those it accepts become rows, except the ones
that are still queued when `run` has returned and its receiver is dropped: the channel discards them,
and nothing counts them.  `counted_iff` says that this is the only way for an event to disappear.
-/

namespace KidProxy.Writer

open Transition

def Action.isSend : Action → Bool
  | .trySend _ => true
  | _ => false

/-- The number of `try_send` calls. -/
def sends (as : List Action) : ℕ := as.countP Action.isSend

/-- A flush, if the step is one, succeeds. -/
def FlushOk (w : Writer) (a : Action) : Prop := ∀ tx, a = .flush tx → ∃ w', w.flush tx = .ok w'

/-- The receiver, if the step drops it, leaves no event in the queue. -/
def LeavesEmpty (w : Writer) (a : Action) : Prop := a = .dropReceiver → w.queued = []

instance (w : Writer) (a : Action) : Decidable (FlushOk w a) :=
  match a with
  | .flush tx =>
    match h : w.flush tx with
    | .ok w' => .isTrue fun _ ha => ⟨w', Action.flush.inj ha ▸ h⟩
    | .error _ => .isFalse fun hok => by
      obtain ⟨w', hw⟩ := hok tx rfl
      rw [h] at hw
      cases hw
  | .trySend _ | .sendShutdown _ | .cloneHandle | .dropHandle | .recv | .tick | .drain | .timeout
  | .dropReceiver => .isTrue fun _ ha => by cases ha

instance (w : Writer) (a : Action) : Decidable (LeavesEmpty w a) :=
  match a with
  | .dropReceiver => decidable_of_iff (w.queued.isEmpty = true)
      ⟨fun h _ => List.isEmpty_iff.mp h, fun h => List.isEmpty_iff.mpr (h rfl)⟩
  | .trySend _ | .sendShutdown _ | .cloneHandle | .dropHandle | .recv | .tick | .flush _ | .drain
  | .timeout => .isTrue fun ha => by cases ha

/-! ### What was sent -/

/-- Each `try_send` is accepted or counted, and nothing else is. -/
theorem sends_step {w w' : Writer} {a : Action} (he : Effect w a w') :
    w'.accepted.length + w'.droppedEvents = w.accepted.length + w.droppedEvents + sends [a] := by
  cases he with
  | @accept event rx hs =>
    show (w.accepted ++ [event]).length + w.droppedEvents = w.accepted.length + w.droppedEvents + 1
    rw [List.length_append, List.length_singleton]
    omega
  | refuse hs => rfl
  | flush hc => simp [sends, Action.isSend]
  | _ => rfl

theorem sends_run {w w' : Writer} {as : List Action} (hrun : run step w as = some w') :
    w'.accepted.length + w'.droppedEvents = w.accepted.length + w.droppedEvents + sends as := by
  induction as generalizing w with
  | nil => obtain rfl : w = w' := Option.some.inj hrun; rfl
  | cons a as ih =>
    obtain ⟨u, hu, hw⟩ := run_cons_some hrun
    have hsplit : sends ([a] ++ as) = sends [a] + sends as := List.countP_append
    rw [List.singleton_append] at hsplit
    rw [ih hw, sends_step (step_effect hu), hsplit]
    omega

/-! ### What is left when `run` returns -/

/-- Past the final flush, which succeeded, the buffer is empty. -/
structure Flushed (stored : List ActiveModel) (w : Writer) : Prop where
  conserved : Conserved stored w
  buffer : w.control = .finished ∨ w.control = .returned → w.buffer = []

variable {stored : List ActiveModel}

theorem flushed_spawn (cfg : RuntimeConfig) : Flushed stored (spawn cfg stored) :=
  ⟨conserved_spawn cfg, fun _ => rfl⟩

theorem tryFlush_buffer_of_ok {w w' : Writer} {tx : Transaction} (h : w.flush tx = .ok w') :
    (w.tryFlush tx).buffer = [] := by
  obtain ⟨models, -, rfl⟩ := flush_eq_ok h
  rw [tryFlush_eq h]

/-- **Step lemma**: the receiver's end is reached through a flush only. -/
theorem flushed_step {w w' : Writer} {a : Action} (hok : FlushOk w a) (h : Flushed stored w)
    (he : Effect w a w') : Flushed stored w' := by
  refine ⟨conserved_step h.conserved he, fun hend => ?_⟩
  cases he with
  | recvEvent hc hr hn =>
    rcases hend with hend | hend
    · rw [hn] at hend
      split_ifs at hend
    · rw [hn] at hend
      split_ifs at hend
  | recvShutdown hc hr => rcases hend with hend | hend <;> cases hend
  | recvNone hc hr hh => rcases hend with hend | hend <;> cases hend
  | tick hc => rcases hend with hend | hend <;> cases hend
  | @flush tx next hc =>
    obtain ⟨w', hf⟩ := hok tx rfl
    rw [afterFlush_buffer]
    exact tryFlush_buffer_of_ok hf
  | drainEvent hc hr => rcases hc with hc | hc <;> rcases hend with hend | hend <;> cases hc.symm.trans hend
  | drainEmpty hc hr => rcases hend with hend | hend <;> cases hend
  | drainClosed hc hr hh => rcases hend with hend | hend <;> cases hend
  | timeout hc => rcases hend with hend | hend <;> cases hend
  | dropReceiver hc => exact h.buffer (.inl hc)
  | _ => exact h.buffer hend

/-- Nothing accepted was lost when the receiver was dropped. -/
def AllWritten (w : Writer) : Prop := w.control = .returned → w.written = w.accepted

/-- The step does not end `run`, and adds no event where `run` has returned. -/
structure Keeps (w w' : Writer) : Prop where
  returned : w'.control = .returned ↔ w.control = .returned
  events : w.control = .returned → w'.written = w.written ∧ w'.accepted = w.accepted

theorem Keeps.of_ne {w w' : Writer} (h : w.control ≠ .returned) (h' : w'.control ≠ .returned) :
    Keeps w w' :=
  ⟨⟨fun hr => absurd hr h', fun hr => absurd hr h⟩, fun hr => absurd hr h⟩

theorem keeps_step {w w' : Writer} {a : Action} (h : Conserved stored w) (ha : a ≠ .dropReceiver)
    (he : Effect w a w') : Keeps w w' := by
  cases he with
  | accept hs =>
    have hne : w.control ≠ .returned := fun hr => by
      have hopen := (Channel.trySend_ok hs).1
      rw [h.closed.mpr hr] at hopen
      cases hopen
    exact .of_ne hne hne
  | recvEvent hc hr hn =>
    refine .of_ne (by simp [hc]) ?_
    rw [hn]
    split_ifs <;> simp
  | recvShutdown hc hr => exact .of_ne (by simp [hc]) (by simp)
  | recvNone hc hr hh => exact .of_ne (by simp [hc]) (by simp)
  | tick hc => exact .of_ne (by simp [hc]) (by simp)
  | @flush tx next hc =>
    refine .of_ne (by simp [hc]) ?_
    rcases (w.tryFlush tx).afterFlush_control next with ⟨hc', -⟩ | ⟨hc', -⟩ <;> simp [hc']
  | drainEvent hc hr => rcases hc with hc | hc <;> exact .of_ne (by simp [hc]) (by simp [hc])
  | drainShutdown hc hr => rcases hc with hc | hc <;> exact .of_ne (by simp [hc]) (by simp [hc])
  | drainEmpty hc hr => exact .of_ne (by simp [hc]) (by simp)
  | drainClosed hc hr hh => exact .of_ne (by simp [hc]) (by simp)
  | timeout hc => exact .of_ne (by simp [hc]) (by simp)
  | dropReceiver hc => exact absurd rfl ha
  | _ => exact ⟨Iff.rfl, fun _ => ⟨rfl, rfl⟩⟩

/-- **Step lemma**: events are lost exactly where the receiver is dropped with an event queued. -/
theorem allWritten_step {w w' : Writer} {a : Action} (h : Flushed stored w) (he : Effect w a w') :
    AllWritten w' ↔ AllWritten w ∧ LeavesEmpty w a := by
  by_cases ha : a = .dropReceiver
  · subst ha
    cases he with
    | dropReceiver hc =>
      have htaken := h.conserved.conserved (by simp [hc])
      rw [taken, h.buffer (.inl hc), List.append_nil] at htaken
      constructor
      · intro hall
        refine ⟨fun hr => by simp [hc] at hr, fun _ => ?_⟩
        have hw : w.written = w.accepted := hall rfl
        rw [hw] at htaken
        exact List.append_right_eq_self.mp htaken
      · rintro ⟨-, hempty⟩ -
        rwa [hempty rfl, List.append_nil] at htaken
  · have hk := keeps_step h.conserved ha he
    constructor
    · intro hall
      refine ⟨fun hr => ?_, fun hd => absurd hd ha⟩
      obtain ⟨hw, hacc⟩ := hk.events hr
      rw [← hw, ← hacc]
      exact hall (hk.returned.mpr hr)
    · rintro ⟨hall, -⟩ hr
      have hr := hk.returned.mp hr
      obtain ⟨hw, hacc⟩ := hk.events hr
      rw [hw, hacc]
      exact hall hr

end KidProxy.Writer

namespace KidProxy

open Transition Writer

/-- **No event disappears uncounted**, except where the receiver is dropped with an event in the queue:
for every run up to the drop of the receiver whose flushes all succeed. -/
theorem sent_counted_iff {cfg : RuntimeConfig} {stored : List ActiveModel} {as : List Action} {w : Writer}
    (hrun : run Writer.step (spawn cfg stored) as = some w) (hret : w.control = .returned)
    (hok : Along Writer.step FlushOk (spawn cfg stored) as) :
    stored.length + sends as = w.table.length + w.droppedEvents ↔
      Along Writer.step LeavesEmpty (spawn cfg stored) as := by
  have hiff := run_iff_along (P := AllWritten)
    (fun _ _ _ hF h hst => flushed_step hF h (step_effect hst))
    (fun _ _ _ _ h hst => allWritten_step h (step_effect hst)) (flushed_spawn cfg) hok hrun
  have hcons := conserved_run (conserved_spawn cfg) hrun
  have hrows : w.table.length = stored.length + w.written.length := by
    obtain ⟨rows, htable, hrows⟩ := hcons.rows
    rw [htable, List.length_append, hrows.length_eq]
  have hsends : w.accepted.length + w.droppedEvents = sends as := by
    have h := sends_run hrun
    simpa [spawn] using h
  have hprefix : w.written <+: w.accepted := (List.prefix_append _ _).trans hcons.taken
  have hall : AllWritten w ↔ w.written.length = w.accepted.length :=
    ⟨fun h => congrArg List.length (h hret), fun h _ => hprefix.eq_of_length h⟩
  constructor
  · intro h
    exact (hiff.mp (hall.mpr (by omega))).2
  · intro h
    have hlen := hall.mp (hiff.mpr ⟨fun hr => by simp [spawn] at hr, h⟩)
    omega

theorem sent_counted_iff_sample : ∃ w, run Writer.step (spawn sampleConfig []) sampleShutdown = some w ∧
    w.control = .returned ∧ sends sampleShutdown = w.table.length + w.droppedEvents := by
  obtain ⟨w, hw, hc⟩ : ∃ w, run Writer.step (spawn sampleConfig []) sampleShutdown = some w ∧
      w.control = .returned := ⟨_, rfl, rfl⟩
  have h := (sent_counted_iff hw hc (by decide)).mpr (by decide)
  exact ⟨w, hw, hc, by rwa [List.length_nil, Nat.zero_add] at h⟩

/-- A second event, accepted after the final flush and before the receiver is dropped. -/
def sampleLateSend : List Action :=
  [.trySend sampleEvent, .sendShutdown 0, .recv, .recv, .drain, .timeout,
    .flush ⟨.ok (), fun _ => .ok (), .ok ()⟩, .trySend sampleEvent, .dropReceiver]

/-- Two events were sent, one is a row, and none was counted as dropped. -/
theorem late_send_uncounted : ∃ w, run Writer.step (spawn sampleConfig []) sampleLateSend = some w ∧
    w.control = .returned ∧ Along Writer.step FlushOk (spawn sampleConfig []) sampleLateSend ∧
    sends sampleLateSend = 2 ∧ w.table.length = 1 ∧ w.droppedEvents = 0 :=
  ⟨_, rfl, rfl, by decide, rfl, rfl, rfl⟩

end KidProxy
