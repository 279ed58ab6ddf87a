import Mathlib.Data.List.Infix
import KidProxy.Writer
import Mathlib.Data.List.Forall2

/-!
# WriterLog — the writer neither loses nor duplicates an accepted event

`Conserved`: the written events, the buffer and the queue together are the accepted events in order,
as long as the receiver lives; every step keeps it.  From the receipt of a shutdown message on,
`Drained` follows the events accepted before it out of the queue, and after a final flush that
succeeded `Settled` keeps them in the table.
-/

namespace KidProxy.Writer

open Transition

/-- Row by row, the models are those of the events. -/
def Rows (events : List ProxyEvent) (models : List ActiveModel) : Prop :=
  List.Forall₂ (fun event model => eventToActiveModel event = .ok model) events models

theorem rows_of_mapM {events : List ProxyEvent} {models : List ActiveModel}
    (h : events.mapM eventToActiveModel = .ok models) : Rows events models := by
  induction events generalizing models with
  | nil => obtain rfl : [] = models := Except.ok.inj h; exact .nil
  | cons event events ih =>
    rw [List.mapM_cons] at h
    obtain ⟨model, hm, h⟩ := bind_eq_ok.mp h
    obtain ⟨rest, hr, h⟩ := bind_eq_ok.mp h
    obtain rfl : model :: rest = models := Except.ok.inj h
    exact .cons hm (ih hr)

/-- Behind the rows that were stored before, the table holds those of the events. -/
def RowsAfter (stored : List ActiveModel) (events : List ProxyEvent) (table : List ActiveModel) : Prop :=
  ∃ rows, table = stored ++ rows ∧ Rows events rows

/-- What ties the table, the buffer and the queue to the accepted events. -/
structure Conserved (stored : List ActiveModel) (w : Writer) : Prop where
  rows : RowsAfter stored w.written w.table
  taken : w.taken <+: w.accepted
  conserved : w.control ≠ .returned → w.taken ++ w.queued = w.accepted
  closed : w.rx.closed = true ↔ w.control = .returned

variable {stored : List ActiveModel}

theorem conserved_spawn (cfg : RuntimeConfig) : Conserved stored (spawn cfg stored) :=
  ⟨⟨[], (List.append_nil _).symm, .nil⟩, List.prefix_refl _, fun _ => rfl, by simp [spawn]⟩

/-- While the receiver lives, the equation says all about the events. -/
theorem Conserved.of_open {w : Writer} (hr : RowsAfter stored w.written w.table) (hc : w.control ≠ .returned)
    (hx : w.rx.closed = false) (he : w.taken ++ w.queued = w.accepted) : Conserved stored w :=
  ⟨hr, ⟨w.queued, he⟩, fun _ => he, by simp [hc, hx]⟩

theorem Conserved.open {w : Writer} (h : Conserved stored w) (hc : w.control ≠ .returned) :
    w.rx.closed = false := by
  have := h.closed.not.mpr hc
  simpa using this

/-! ### Events leave the queue and enter the table in order -/

theorem tryFlush_taken (w : Writer) (tx : Transaction) : (w.tryFlush tx).taken = w.taken := by
  rcases w.tryFlush_cases tx with ⟨w', hf, ht⟩ | ⟨err, -, ht⟩
  · obtain ⟨models, -, rfl⟩ := flush_eq_ok hf
    rw [ht]
    simp [taken]
  · rw [ht]
    rfl

theorem tryFlush_rows {w : Writer} {tx : Transaction} (h : RowsAfter stored w.written w.table) :
    RowsAfter stored (w.tryFlush tx).written (w.tryFlush tx).table := by
  rcases w.tryFlush_cases tx with ⟨w', hf, ht⟩ | ⟨err, -, ht⟩
  · obtain ⟨models, hm, rfl⟩ := flush_eq_ok hf
    obtain ⟨rows, htable, hrows⟩ := h
    rw [ht]
    refine ⟨rows ++ models, ?_, List.rel_append hrows (rows_of_mapM hm)⟩
    rw [htable, List.append_assoc]
  · rw [ht]
    exact h

@[simp] theorem afterFlush_taken (w : Writer) (next : AfterFlush) :
    (w.afterFlush next).taken = w.taken := by
  simp [taken]

/-- No step puts an event back. -/
theorem effect_taken {w w' : Writer} {a : Action} (he : Effect w a w') : w.taken <+: w'.taken := by
  cases he with
  | @recvEvent event rx next hc hr hn => exact ⟨[event], by simp [taken]⟩
  | @drainEvent event rx done hc hr => exact ⟨[event], by simp [taken]⟩
  | flush hc =>
    rw [afterFlush_taken, tryFlush_taken]
  | _ => exact List.prefix_refl _

theorem effect_accepted {w w' : Writer} {a : Action} (he : Effect w a w') :
    w.accepted <+: w'.accepted := by
  cases he with
  | accept hs => exact List.prefix_append _ _
  | flush hc =>
    rw [afterFlush_accepted, tryFlush_accepted]
  | _ => exact List.prefix_refl _

theorem tryFlush_written (w : Writer) (tx : Transaction) :
    w.written <+: (w.tryFlush tx).written := by
  rcases w.tryFlush_cases tx with ⟨w', hf, ht⟩ | ⟨err, -, ht⟩
  · obtain ⟨models, -, rfl⟩ := flush_eq_ok hf
    rw [ht]
    exact List.prefix_append _ _
  · rw [ht]

/-- No step takes a row back. -/
theorem effect_written {w w' : Writer} {a : Action} (he : Effect w a w') :
    w.written <+: w'.written := by
  cases he with
  | @flush tx next hc =>
    rw [afterFlush_written]
    exact w.tryFlush_written tx
  | _ => exact List.prefix_refl _

theorem queued_append {w : Writer} {rx : Channel WriterMessage} {message : WriterMessage}
    (hs : w.rx.trySend message = .ok rx) :
    rx.queue.filterMap WriterMessage.event? = w.queued ++ message.event?.toList := by
  rw [(Channel.trySend_ok hs).2.2.1, List.filterMap_append, queued]
  cases message <;> rfl

theorem queued_cons {w : Writer} {rx : Channel WriterMessage} {message : WriterMessage}
    (hr : w.rx.tryRecv = some (message, rx)) :
    w.queued = message.event?.toList ++ rx.queue.filterMap WriterMessage.event? :=
  queued_of_queue (Channel.tryRecv_some hr).1

/-- An event that goes from the head of the queue into the buffer stays in its place. -/
theorem conserved_take {w : Writer} {rx : Channel WriterMessage} {event : ProxyEvent} {next : Control}
    (h : Conserved stored w) (hr : w.rx.tryRecv = some (.event event, rx)) (hc : w.control ≠ .returned)
    (hn : next ≠ .returned) :
    Conserved stored { w with rx, buffer := w.buffer ++ [event], control := next } := by
  have hq : w.queued = event :: rx.queue.filterMap WriterMessage.event? := queued_cons hr
  refine .of_open h.rows hn ((Channel.tryRecv_some hr).2.2.trans (h.open hc)) ?_
  have hw := h.conserved hc
  rw [hq] at hw
  calc (w.written ++ (w.buffer ++ [event])) ++ rx.queue.filterMap WriterMessage.event?
      = w.taken ++ event :: rx.queue.filterMap WriterMessage.event? := by simp [taken]
    _ = w.accepted := hw

/-- A shutdown message that leaves the queue takes no event along. -/
theorem conserved_takeShutdown {w : Writer} {rx : Channel WriterMessage} {done : ℕ} {next : Control}
    {acks : List ℕ} (h : Conserved stored w) (hr : w.rx.tryRecv = some (.shutdown done, rx))
    (hc : w.control ≠ .returned) (hn : next ≠ .returned) :
    Conserved stored { w with rx, control := next, acknowledged := acks } := by
  have hq : w.queued = rx.queue.filterMap WriterMessage.event? := queued_cons hr
  refine .of_open h.rows hn ((Channel.tryRecv_some hr).2.2.trans (h.open hc)) ?_
  have hw := h.conserved hc
  rw [hq] at hw
  exact hw

/-- Moving on inside `run` while the receiver lives changes no event. -/
theorem conserved_move {w : Writer} {next : Control} (h : Conserved stored w) (hc : w.control ≠ .returned)
    (hn : next ≠ .returned) : Conserved stored { w with control := next } :=
  .of_open h.rows hn (h.open hc) (h.conserved hc)

/-- **Step lemma**: no step of a handle or of the task loses, duplicates or reorders an event. -/
theorem conserved_step {w w' : Writer} {a : Action} (h : Conserved stored w) (he : Effect w a w') :
    Conserved stored w' := by
  cases he with
  | @accept event rx hs =>
    obtain ⟨hopen, -, -, -, hrx⟩ := Channel.trySend_ok hs
    have hc : w.control ≠ .returned := fun hc => by simp [h.closed.mpr hc] at hopen
    refine .of_open h.rows hc hrx ?_
    show w.taken ++ rx.queue.filterMap WriterMessage.event? = w.accepted ++ [event]
    rw [queued_append hs, ← h.conserved hc, List.append_assoc]
    rfl
  | refuse hs => exact ⟨h.rows, h.taken, h.conserved, h.closed⟩
  | @acceptShutdown done rx hs =>
    obtain ⟨hopen, -, -, -, hrx⟩ := Channel.trySend_ok hs
    have hc : w.control ≠ .returned := fun hc => by simp [h.closed.mpr hc] at hopen
    refine .of_open h.rows hc hrx ?_
    show w.taken ++ rx.queue.filterMap WriterMessage.event? = w.accepted
    rw [queued_append hs, ← h.conserved hc]
    simp [WriterMessage.event?]
  | refuseShutdown hs => exact h
  | clone hh => exact ⟨h.rows, h.taken, h.conserved, h.closed⟩
  | drop hh => exact ⟨h.rows, h.taken, h.conserved, h.closed⟩
  | recvEvent hc hr hn =>
    refine conserved_take h hr (by simp [hc]) ?_
    rw [hn]
    split_ifs <;> simp
  | recvShutdown hc hr => exact conserved_takeShutdown h hr (by simp [hc]) (by simp)
  | recvNone hc hr hh => exact conserved_move h (by simp [hc]) (by simp)
  | tick hc => exact conserved_move h (by simp [hc]) (by simp)
  | @flush tx next hc =>
    have hopen : w.control ≠ .returned := by simp [hc]
    refine .of_open ?_ ?_ ?_ ?_
    · rw [afterFlush_written, afterFlush_table]
      exact tryFlush_rows h.rows
    · rcases (w.tryFlush tx).afterFlush_control next with ⟨hc', -⟩ | ⟨hc', -⟩ <;> rw [hc'] <;> simp
    · rw [afterFlush_rx, tryFlush_rx]
      exact h.open hopen
    · rw [afterFlush_taken, tryFlush_taken, queued, afterFlush_rx, tryFlush_rx, afterFlush_accepted,
        tryFlush_accepted]
      exact h.conserved hopen
  | drainEvent hc hr =>
    have hopen : w.control ≠ .returned := by rcases hc with hc | hc <;> simp [hc]
    exact conserved_take h hr hopen hopen
  | drainShutdown hc hr =>
    have hopen : w.control ≠ .returned := by rcases hc with hc | hc <;> simp [hc]
    exact conserved_takeShutdown h hr hopen hopen
  | drainEmpty hc hr => exact conserved_move h (by simp [hc]) (by simp)
  | drainClosed hc hr hh => exact conserved_move h (by simp [hc]) (by simp)
  | timeout hc => exact conserved_move h (by simp [hc]) (by simp)
  | dropReceiver hc => exact ⟨h.rows, h.taken, fun hne => absurd rfl hne, by simp⟩

/-- **Run lemma**. -/
theorem conserved_run {w w' : Writer} {as : List Action} (h : Conserved stored w)
    (hrun : run step w as = some w') : Conserved stored w' :=
  run_invariant (fun _ _ _ hc hs => conserved_step hc (step_effect hs)) h hrun

/-! ### From the shutdown message to the table -/

/-- Where the events `A`, accepted before the shutdown message was received, stand while `run` is on
its way out: the first drain loop leaves none of them in the queue. -/
def Stopping (A : List ProxyEvent) (w : Writer) : Prop :=
  match w.control with
  | .draining _ => A <+: w.accepted
  | .waiting _ | .flushing (.finish (some _)) | .finished | .returned => A <+: w.taken
  | _ => False

theorem stopping_of_recv {w w' : Writer} {done : ℕ} (h : w.step .recv = some w')
    (hd : w'.control = .draining done) : Stopping w.accepted w' := by
  have he := step_effect h
  generalize ha : Action.recv = a at he
  cases he with
  | recvShutdown hc hr => exact List.prefix_refl _
  | recvEvent hc hr hn =>
    have hd : _ = Control.draining done := hn.symm.trans hd
    split_ifs at hd
  | recvNone hc hr hh => cases hd
  | _ => cases ha

/-- Once the queue was seen empty, everything accepted was taken out of it. -/
theorem taken_of_tryRecv {w : Writer} (h : Conserved stored w) (hc : w.control ≠ .returned)
    (hr : w.rx.tryRecv = none) : w.taken = w.accepted := by
  have hq : w.queued = [] := by rw [queued, Channel.tryRecv_none.mp hr]; rfl
  have hw := h.conserved hc
  rwa [hq, List.append_nil] at hw

/-- A step that leaves `run` where it is keeps `Stopping`: no event goes back. -/
theorem stopping_stay {A : List ProxyEvent} {w w' : Writer} (h : Stopping A w)
    (hc : w'.control = w.control) (ht : w.taken <+: w'.taken) (ha : w.accepted <+: w'.accepted) :
    Stopping A w' := by
  cases hw : w.control with
  | draining done =>
    simp only [Stopping, hc, hw] at h ⊢
    exact h.trans ha
  | select => simp [Stopping, hw] at h
  | flushing next =>
    rcases next with _ | _ | done <;> simp only [Stopping, hc, hw] at h ⊢
    exact h.trans ht
  | _ =>
    simp only [Stopping, hc, hw] at h ⊢
    exact h.trans ht

/-- **Step lemma** of the way out. -/
theorem stopping_step {A : List ProxyEvent} {w w' : Writer} {a : Action} (hcons : Conserved stored w)
    (h : Stopping A w) (he : Effect w a w') : Stopping A w' := by
  have htaken := effect_taken he
  have hacc := effect_accepted he
  cases he with
  | recvEvent hc hr hn => simp [Stopping, hc] at h
  | recvShutdown hc hr => simp [Stopping, hc] at h
  | recvNone hc hr hh => simp [Stopping, hc] at h
  | tick hc => simp [Stopping, hc] at h
  | @flush tx next hc =>
    rcases next with _ | _ | done
    · simp [Stopping, hc] at h
    · simp [Stopping, hc] at h
    · simp only [Stopping, hc] at h
      exact h.trans htaken
  | drainEmpty hc hr =>
    simp only [Stopping, hc] at h
    show A <+: w.taken
    rw [taken_of_tryRecv hcons (by simp [hc]) hr]
    exact h
  | drainClosed hc hr hh =>
    simp only [Stopping, hc] at h
    exact h
  | timeout hc =>
    simp only [Stopping, hc] at h
    exact h
  | dropReceiver hc =>
    simp only [Stopping, hc] at h
    exact h
  | _ => exact stopping_stay h rfl htaken hacc

theorem stopping_run {A : List ProxyEvent} {w w' : Writer} {as : List Action} (hcons : Conserved stored w)
    (h : Stopping A w) (hrun : run step w as = some w') : Stopping A w' :=
  (run_invariant (P := fun w => Conserved stored w ∧ Stopping A w)
    (fun _ _ _ hw hs => ⟨conserved_step hw.1 (step_effect hs),
      stopping_step hw.1 hw.2 (step_effect hs)⟩) ⟨hcons, h⟩ hrun).2

theorem written_run {w w' : Writer} {as : List Action} (hrun : run step w as = some w') :
    w.written <+: w'.written :=
  run_rel (P := fun _ => True) (R := fun w w' : Writer => w.written <+: w'.written)
    (fun _ => List.prefix_refl _) (fun _ _ _ => List.IsPrefix.trans)
    (fun _ _ _ _ _ => trivial) (fun _ _ _ _ hs => effect_written (step_effect hs)) trivial hrun

/-- A run that receives a shutdown message in `s`, drains, succeeds in the final flush and returns. -/
inductive CleanShutdown (cfg : RuntimeConfig) (stored : List ActiveModel) (s w : Writer) :
    List Action → Prop
  | mk {bs cs ds : List Action} {tx : Transaction} {t u v : Writer} {done : ℕ}
      (before : run step (spawn cfg stored) bs = some s) (received : s.step .recv = some t)
      (message : t.control = .draining done) (drained : run step t cs = some u)
      (final : u.control = .flushing (.finish (some done))) (flushed : u.flush tx = .ok v)
      (after : run step u (.flush tx :: ds) = some w) (returned : w.control = .returned) :
      CleanShutdown cfg stored s w (bs ++ .recv :: (cs ++ .flush tx :: ds))

/-- The final flush puts everything accepted before the shutdown message into the table. -/
theorem CleanShutdown.accepted_written {cfg : RuntimeConfig} {s w : Writer} {as : List Action}
    (h : CleanShutdown cfg stored s w as) : s.accepted <+: w.written := by
  obtain ⟨before, received, message, drained, final, flushed, after, -⟩ := h
  rename_i ds tx t u v done
  have hs := conserved_run (conserved_spawn cfg) before
  have ht := conserved_step hs (step_effect received)
  have hu := stopping_run ht (stopping_of_recv received message) drained
  simp only [Stopping, final] at hu
  -- the flush turns what was taken into what is written
  obtain ⟨v', hv', hds⟩ := run_cons_some after
  have hflush : v' = (u.tryFlush tx).afterFlush (.finish (some done)) := by
    simp only [step, final] at hv'
    exact (Option.some.inj hv').symm
  have hwritten : v'.written = u.taken := by
    rw [hflush, afterFlush_written]
    rcases u.tryFlush_cases tx with ⟨v'', hf, hv⟩ | ⟨err, hf, -⟩
    · obtain ⟨models, -, rfl⟩ := flush_eq_ok hf
      rw [hv]
      rfl
    · rw [flushed] at hf
      cases hf
  rw [← hwritten] at hu
  exact hu.trans (written_run hds)

theorem CleanShutdown.run {cfg : RuntimeConfig} {s w : Writer} {as : List Action}
    (h : CleanShutdown cfg stored s w as) : Transition.run step (spawn cfg stored) as = some w := by
  obtain ⟨before, received, -, drained, -, -, after, -⟩ := h
  refine run_append_some before ?_
  rw [run_cons, received]
  exact run_append_some drained after

end KidProxy.Writer

namespace KidProxy

open Transition Writer

/-- **Exactly once**: in every state a run reaches, the table holds the rows of some events behind those of
earlier runs, and these events with the buffer and the queue are the accepted events in order, until the
receiver is dropped.  When `run` returns after a final flush that succeeded, the rows start with all events
accepted before the shutdown message was received, and still are accepted events in order. -/
theorem writer_exactlyOnce {cfg : RuntimeConfig} {stored : List ActiveModel} {as : List Action} {w : Writer}
    (hrun : run Writer.step (spawn cfg stored) as = some w) :
    ∃ written, RowsAfter stored written w.table ∧ written ++ w.buffer <+: w.accepted ∧
      (w.control ≠ .returned → written ++ w.buffer ++ w.queued = w.accepted) ∧
      ∀ s, CleanShutdown cfg stored s w as → s.accepted <+: written := by
  have h := conserved_run (conserved_spawn cfg) hrun
  exact ⟨w.written, h.rows, h.taken, h.conserved, fun _ hs => hs.accepted_written⟩

/-- One event, then a shutdown whose flush succeeds. -/
def sampleShutdown : List Action :=
  [.trySend sampleEvent, .sendShutdown 0, .recv] ++
    .recv :: ([.drain, .timeout] ++ .flush ⟨.ok (), fun _ => .ok (), .ok ()⟩ :: [.dropReceiver])

theorem writer_exactlyOnce_sample : ∃ s w written, CleanShutdown sampleConfig [] s w sampleShutdown ∧
    s.accepted = [sampleEvent] ∧ RowsAfter [] written w.table ∧ [sampleEvent] <+: written := by
  have hclean : ∃ s w, CleanShutdown sampleConfig [] s w sampleShutdown ∧ s.accepted = [sampleEvent] :=
    ⟨_, _, .mk rfl rfl rfl rfl rfl rfl rfl rfl, rfl⟩
  obtain ⟨s, w, hw, hs⟩ := hclean
  obtain ⟨written, hrows, -, -, hall⟩ := writer_exactlyOnce hw.run
  exact ⟨s, w, written, hw, hs, hrows, hs ▸ hall s hw⟩

end KidProxy
