import KidProxy.WriterCapacity

/-!
# WriterBound — how many events the writer holds

The queue is bounded, the buffer is not: `run` flushes once it holds `flush_rows` events, but keeps the
buffer when the flush fails, and the drain loops push without flushing.  `writer_bounded` says from
which steps the bound `max_inflight_events + flush_rows` follows.
-/

namespace KidProxy.Writer

open Transition

/-- The events in memory: queued and buffered. -/
def held (w : Writer) : ℕ := w.queued.length + w.buffer.length

/-- The step takes no event out of the queue, or finds less than `flush_rows` events in the buffer, or
no handle is left to refill the queue. -/
def TakesBelow (w : Writer) (a : Action) : Prop :=
  ∀ event rx, a = .recv ∨ a = .drain → w.rx.tryRecv = some (.event event, rx) → w.handles ≠ 0 →
    w.buffer.length < w.cfg.flushRows

/-- While a handle lives the buffer keeps to `flush_rows`, so that the queue may fill up. -/
structure Bounded (cfg : RuntimeConfig) (w : Writer) : Prop where
  cfg_eq : w.cfg = cfg
  capacity : w.rx.capacity = cfg.maxInflightEvents
  buffer : w.handles ≠ 0 → w.buffer.length ≤ cfg.flushRows
  held : w.held ≤ cfg.maxInflightEvents + cfg.flushRows

theorem bounded_spawn (cfg : RuntimeConfig) (stored : List ActiveModel) :
    Bounded cfg (spawn cfg stored) :=
  ⟨rfl, rfl, fun _ => Nat.zero_le _, Nat.zero_le _⟩

theorem queued_length_le (w : Writer) : w.queued.length ≤ w.rx.capacity :=
  (List.length_filterMap_le _ _).trans w.rx.bounded

/-- With a handle alive the bound follows from that on the buffer. -/
theorem Bounded.of_buffer {cfg : RuntimeConfig} {w : Writer} (hcfg : w.cfg = cfg)
    (hcap : w.rx.capacity = cfg.maxInflightEvents) (hb : w.buffer.length ≤ cfg.flushRows) :
    Bounded cfg w :=
  ⟨hcfg, hcap, fun _ => hb, Nat.add_le_add (hcap ▸ w.queued_length_le) hb⟩

/-- Moving an event from the queue to the buffer changes the number of neither. -/
theorem held_take {w w' : Writer} {event : ProxyEvent} {rx : Channel WriterMessage}
    (hr : w.rx.tryRecv = some (.event event, rx)) (hrx : w'.rx = rx)
    (hb : w'.buffer = w.buffer ++ [event]) : w'.held = w.held := by
  unfold held
  rw [queued_cons hr, hb, queued, hrx, List.length_append, List.length_append]
  simp only [WriterMessage.event?, Option.toList_some, List.length_singleton]
  omega

theorem bounded_take {cfg : RuntimeConfig} {w w' : Writer} {a : Action} {event : ProxyEvent}
    {rx : Channel WriterMessage} (h : Bounded cfg w) (hs : TakesBelow w a) (ha : a = .recv ∨ a = .drain)
    (hr : w.rx.tryRecv = some (.event event, rx)) (hcfg : w'.cfg = w.cfg) (hrx : w'.rx = rx)
    (hb : w'.buffer = w.buffer ++ [event]) (hh : w'.handles = w.handles) : Bounded cfg w' := by
  refine ⟨hcfg.trans h.cfg_eq, ?_, fun hw => ?_, ?_⟩
  · rw [hrx, (Channel.tryRecv_some hr).2.1]
    exact h.capacity
  · have hlt := hs event rx ha hr (hh ▸ hw)
    rw [hb, List.length_append, ← h.cfg_eq]
    exact hlt
  · rw [held_take hr hrx hb]
    exact h.held

/-- What leaves the capacity alone and lets neither the queued events nor the buffer grow keeps the
bound. -/
theorem bounded_shrink {cfg : RuntimeConfig} {w w' : Writer} (h : Bounded cfg w) (hcfg : w'.cfg = w.cfg)
    (hcap : w'.rx.capacity = w.rx.capacity) (hq : w'.queued.length ≤ w.queued.length)
    (hb : w'.buffer.length ≤ w.buffer.length) (hh : w'.handles ≠ 0 → w.handles ≠ 0) : Bounded cfg w' :=
  ⟨hcfg.trans h.cfg_eq, hcap.trans h.capacity, fun hw => hb.trans (h.buffer (hh hw)),
    (Nat.add_le_add hq hb).trans h.held⟩

/-- A shutdown message that goes through the queue lets the events be. -/
theorem bounded_takeShutdown {cfg : RuntimeConfig} {w w' : Writer} {done : ℕ}
    {rx : Channel WriterMessage} (h : Bounded cfg w) (hr : w.rx.tryRecv = some (.shutdown done, rx))
    (hcfg : w'.cfg = w.cfg) (hrx : w'.rx = rx) (hb : w'.buffer = w.buffer)
    (hh : w'.handles = w.handles) : Bounded cfg w' := by
  refine bounded_shrink h hcfg ?_ ?_ (by rw [hb]) (by rw [hh]; exact id)
  · rw [hrx, (Channel.tryRecv_some hr).2.1]
  · rw [queued_cons hr, queued, hrx]
    exact Nat.le_refl _

theorem tryFlush_buffer_le (w : Writer) (tx : Transaction) :
    (w.tryFlush tx).buffer.length ≤ w.buffer.length := by
  rcases w.tryFlush_cases tx with ⟨w', hf, ht⟩ | ⟨err, -, ht⟩
  · obtain ⟨models, -, rfl⟩ := flush_eq_ok hf
    rw [ht]
    exact Nat.zero_le _
  · rw [ht]

theorem handles_of_trySend {w w' : Writer} {event : ProxyEvent}
    (h : w.step (.trySend event) = some w') : w.handles ≠ 0 := by
  simp only [step] at h
  split_ifs at h with hh
  exact hh

/-- **Step lemma**: a step that takes an event only below `flush_rows` keeps the bound, whatever the
flushes come to. -/
theorem bounded_step {cfg : RuntimeConfig} {w w' : Writer} {a : Action} (hs : TakesBelow w a)
    (h : Bounded cfg w) (hstep : w.step a = some w') : Bounded cfg w' := by
  have he := step_effect hstep
  cases he with
  | @accept event rx hsend =>
    -- the queue may fill up, and a handle lives
    refine .of_buffer h.cfg_eq ?_ (h.buffer (handles_of_trySend hstep))
    exact (Channel.trySend_ok hsend).2.2.2.1.trans h.capacity
  | @acceptShutdown done rx hsend =>
    refine bounded_shrink h rfl (Channel.trySend_ok hsend).2.2.2.1 ?_ (Nat.le_refl _) id
    show (rx.queue.filterMap WriterMessage.event?).length ≤ _
    rw [queued_append hsend]
    simp [WriterMessage.event?]
  | clone hh => exact bounded_shrink h rfl rfl (Nat.le_refl _) (Nat.le_refl _) fun _ => hh
  | drop hh => exact bounded_shrink h rfl rfl (Nat.le_refl _) (Nat.le_refl _) fun _ => hh
  | recvEvent hc hr hn => exact bounded_take h hs (.inl rfl) hr rfl rfl rfl rfl
  | recvShutdown hc hr => exact bounded_takeShutdown h hr rfl rfl rfl rfl
  | @flush tx next hc =>
    refine bounded_shrink h (by simp) (by simp) (by simp [queued]) ?_ (by simp)
    rw [afterFlush_buffer]
    exact w.tryFlush_buffer_le tx
  | drainEvent hc hr => exact bounded_take h hs (.inr rfl) hr rfl rfl rfl rfl
  | drainShutdown hc hr => exact bounded_takeShutdown h hr rfl rfl rfl rfl
  | dropReceiver hc => exact bounded_shrink h rfl rfl (Nat.zero_le _) (Nat.le_refl _) id
  | _ => exact bounded_shrink h rfl rfl (Nat.le_refl _) (Nat.le_refl _) id

/-! ### Beyond the bound -/

theorem queued_of_trySend {w w' : Writer} {event : ProxyEvent} (hh : w.handles ≠ 0)
    {rx : Channel WriterMessage} (hs : w.rx.trySend (.event event) = .ok rx)
    (hw : w' = { w with rx, accepted := w.accepted ++ [event] }) :
    w.step (.trySend event) = some w' ∧ w'.queued.length = w.queued.length + 1 := by
  refine ⟨by simp only [step, if_neg hh, trySend, hs, hw], ?_⟩
  rw [queued, hw, queued_append hs, List.length_append]
  rfl

/-- The handles can fill the queue up. -/
theorem sends_fill {w : Writer} (event : ProxyEvent) (n : ℕ) (hh : w.handles ≠ 0)
    (hopen : w.rx.closed = false) (hn : w.rx.queue.length + n ≤ w.rx.capacity) :
    ∃ w', run step w (List.replicate n (.trySend event)) = some w' ∧
      w'.queued.length = w.queued.length + n ∧ w'.buffer = w.buffer := by
  induction n generalizing w with
  | zero => exact ⟨w, rfl, rfl, rfl⟩
  | succ n ih =>
    obtain ⟨rx, hs⟩ := Channel.trySend_of_lt (a := WriterMessage.event event) hopen (by omega)
    obtain ⟨-, -, hq, hcap, hclosed⟩ := Channel.trySend_ok hs
    obtain ⟨hstep, hlen⟩ := queued_of_trySend hh hs rfl
    have hroom : rx.queue.length + n ≤ rx.capacity := by
      rw [hq, hcap, List.length_append, List.length_singleton]
      omega
    obtain ⟨w', hrun, hqueued, hbuf⟩ :=
      ih (w := { w with rx, accepted := w.accepted ++ [event] }) hh hclosed hroom
    refine ⟨w', ?_, ?_, hbuf⟩
    · rw [List.replicate_succ, run_cons, hstep]
      exact hrun
    · rw [hqueued, hlen]
      omega

/-- **Why `flush_rows` is the border**: once the buffer is longer, further sends exceed the bound,
unless shutdown messages take the room in the queue. -/
theorem overfull_exceeds {cfg : RuntimeConfig} {w : Writer} (event : ProxyEvent)
    (hcap : w.rx.capacity = cfg.maxInflightEvents) (hh : w.handles ≠ 0) (hopen : w.rx.closed = false)
    (hq : w.queued.length = w.rx.queue.length) (hb : cfg.flushRows < w.buffer.length) :
    ∃ n w', run step w (List.replicate n (.trySend event)) = some w' ∧
      cfg.maxInflightEvents + cfg.flushRows < w'.held := by
  have hle := w.rx.bounded
  obtain ⟨w', hrun, hqueued, hbuf⟩ := sends_fill event (w.rx.capacity - w.rx.queue.length) hh hopen
    (by omega)
  refine ⟨_, w', hrun, ?_⟩
  unfold held
  rw [hqueued, hbuf]
  omega

end KidProxy.Writer

namespace KidProxy

open Transition Writer

/-- **The writer is bounded** as long as each event that leaves the queue finds less than `flush_rows`
events in the buffer: then a run holds at most `max_inflight_events + flush_rows` events in every state
it visits, also if flushes fail. -/
theorem writer_bounded {cfg : RuntimeConfig} {stored : List ActiveModel} {as : List Action}
    (hs : Along Writer.step TakesBelow (spawn cfg stored) as) :
    Always Writer.step (fun w => w.held ≤ cfg.maxInflightEvents + cfg.flushRows) (spawn cfg stored) as :=
  always_of_along (fun _ h => h.held) (fun _ _ _ hC h hst => bounded_step hC h hst)
    (bounded_spawn cfg stored) hs

theorem writer_bounded_sample : Always Writer.step
    (fun w => w.held ≤ sampleConfig.maxInflightEvents + sampleConfig.flushRows) (spawn sampleConfig [])
    [.trySend sampleEvent, .recv] := by
  refine writer_bounded ⟨?_, fun t ht => ?_⟩
  · rintro event rx (ha | ha) <;> cases ha
  · obtain rfl := Option.some.inj ht
    exact ⟨fun _ _ _ _ _ => by decide, fun _ _ => trivial⟩

/-- The default settings with a queue of one event and batches of one row. -/
def sampleSmall : AppConfigFile :=
  ⟨{ RuntimeSettingsFile.default with flushRows := 1, maxInflightEvents := 1 }, []⟩

/-- A database that cannot begin a transaction. -/
def sampleLocked : Transaction := ⟨.error (.msg "database is locked"), fun _ => .ok (), .ok ()⟩

/-- Two failed flushes leave two events in the buffer, and the queue takes a third. -/
theorem failed_flushes_exceed : ∃ cfg w,
    @AppConfigFile.toRuntimeConfig sampleNet sampleGlob sampleFs sampleSmall = .ok cfg ∧
      run Writer.step (spawn cfg []) [.trySend sampleEvent, .recv, .flush sampleLocked,
        .trySend sampleEvent, .recv, .flush sampleLocked, .trySend sampleEvent] = some w ∧
      cfg.maxInflightEvents + cfg.flushRows < w.held := by
  refine ⟨_, _, rfl, rfl, ?_⟩
  decide

end KidProxy
