import KidProxy.WriterLog

/-!
# WriterCapacity — how large a batch the database takes

A batch is one `INSERT` with a bound parameter for each column of each row, and SQLite refuses more
than 32766 of them.  `flush` sends the whole buffer, so a healthy database drains a buffer exactly up
to 504 rows; beyond that the batch fails, stays, and fails again.
-/

namespace KidProxy.Writer

open Transition

/-- The parameters of the `INSERT` for a batch. -/
def boundParameters (models : List ActiveModel) : ℕ := models.length * columns.length

/-- `SQLITE_MAX_VARIABLE_NUMBER`. -/
def maxVariables : ℕ := 32766

/-- The largest batch that stays within the limit. -/
def maxBatch : ℕ := 504

/-- The database answers `begin` and `commit`, and refuses a statement only for its parameters. -/
structure Healthy (tx : Transaction) : Prop where
  begin_ok : tx.begin = .ok ()
  insert_ok (models : List ActiveModel) :
    tx.insertMany models = .ok () ↔ boundParameters models ≤ maxVariables
  commit_ok : tx.commit = .ok ()

/-- A healthy database. -/
def sqlite : Transaction where
  begin := .ok ()
  insertMany models :=
    if boundParameters models ≤ maxVariables then .ok () else .error (.msg "too many SQL variables")
  commit := .ok ()

theorem healthy_sqlite : Healthy sqlite where
  begin_ok := rfl
  insert_ok models := by
    unfold sqlite
    by_cases h : boundParameters models ≤ maxVariables
    · simp [h]
    · simp [h]
  commit_ok := rfl

/-- Whatever a healthy database answers, `try_flush` puts the whole buffer into the table. -/
def Drains (w : Writer) : Prop :=
  ∀ tx, Healthy tx → ∃ models, Rows w.buffer models ∧
    (w.tryFlush tx).buffer = [] ∧ (w.tryFlush tx).table = w.table ++ models

/-! ### The buffers that drain -/

theorem boundParameters_le_iff {models : List ActiveModel} :
    boundParameters models ≤ maxVariables ↔ models.length ≤ maxBatch := by
  unfold boundParameters maxVariables maxBatch
  rw [columns_length]
  omega

theorem Rows.length_eq {events : List ProxyEvent} {models : List ActiveModel}
    (h : Rows events models) : models.length = events.length := (List.Forall₂.length_eq h).symm

/-- A batch becomes rows exactly when every event does. -/
theorem mapM_isOk {events : List ProxyEvent} :
    (∃ models, events.mapM eventToActiveModel = .ok models) ↔ ∀ event ∈ events, event.Printable := by
  induction events with
  | nil => exact ⟨fun _ _ h => absurd h List.not_mem_nil, fun _ => ⟨[], rfl⟩⟩
  | cons event events ih =>
    rw [List.forall_mem_cons, ← ih, ← eventToActiveModel_isOk]
    simp only [List.mapM_cons]
    constructor
    · rintro ⟨models, h⟩
      obtain ⟨model, hm, h⟩ := bind_eq_ok.mp h
      obtain ⟨rest, hr, -⟩ := bind_eq_ok.mp h
      exact ⟨⟨model, hm⟩, rest, hr⟩
    · rintro ⟨⟨model, hm⟩, rest, hr⟩
      exact ⟨model :: rest, bind_eq_ok.mpr ⟨model, hm, bind_eq_ok.mpr ⟨rest, hr, rfl⟩⟩⟩

/-- A flush of a non-empty buffer that succeeds sent its rows to the database. -/
theorem flush_insert {w w' : Writer} {tx : Transaction} (hb : w.buffer ≠ [])
    (h : w.flush tx = .ok w') :
    ∃ models, w.buffer.mapM eventToActiveModel = .ok models ∧ tx.insertMany models = .ok () := by
  unfold flush at h
  rw [if_neg (by simpa using hb)] at h
  obtain ⟨models, hm, h⟩ := bind_eq_ok.mp h
  obtain ⟨_, -, h⟩ := bind_eq_ok.mp h
  obtain ⟨_, hi, -⟩ := bind_eq_ok.mp h
  exact ⟨models, hm, context_eq_ok.mp hi⟩

/-- The buffer fits one statement, and every event in it can be printed. -/
structure Fits (w : Writer) : Prop where
  length_le : w.buffer.length ≤ maxBatch
  printable : ∀ event ∈ w.buffer, event.Printable

theorem fits_of_buffer_nil {w : Writer} (h : w.buffer = []) : Fits w :=
  ⟨by rw [h]; exact Nat.zero_le _, by rw [h]; exact fun _ he => absurd he List.not_mem_nil⟩

theorem Fits.flush_eq {w : Writer} {tx : Transaction} (h : Fits w) (htx : Healthy tx) :
    ∃ models, Rows w.buffer models ∧ w.flush tx = .ok
      { w with buffer := [], table := w.table ++ models, written := w.written ++ w.buffer } := by
  obtain ⟨models, hm⟩ := mapM_isOk.mpr h.printable
  have hrows := rows_of_mapM hm
  have hlen : models.length ≤ maxBatch := hrows.length_eq ▸ h.length_le
  have hinsert := (htx.insert_ok models).mpr (boundParameters_le_iff.mpr hlen)
  exact ⟨models, hrows, flush_of_ok hm htx.begin_ok hinsert htx.commit_ok⟩

theorem tryFlush_eq {w w' : Writer} {tx : Transaction} (h : w.flush tx = .ok w') :
    w.tryFlush tx = w' := by
  rcases w.tryFlush_cases tx with ⟨w'', hf, ht⟩ | ⟨err, hf, -⟩
  · obtain rfl : w' = w'' := Except.ok.inj (h.symm.trans hf)
    exact ht
  · rw [h] at hf
    cases hf

theorem Fits.tryFlush_eq {w : Writer} {tx : Transaction} (h : Fits w) (htx : Healthy tx) :
    ∃ models, Rows w.buffer models ∧ w.tryFlush tx =
      { w with buffer := [], table := w.table ++ models, written := w.written ++ w.buffer } := by
  obtain ⟨models, hrows, hf⟩ := h.flush_eq htx
  exact ⟨models, hrows, Writer.tryFlush_eq hf⟩

/-- **What drains**: a healthy database drains exactly the buffers of at most 504 printable events. -/
theorem drains_iff (w : Writer) : Drains w ↔ Fits w := by
  constructor
  · intro h
    by_cases hb : w.buffer = []
    · exact fits_of_buffer_nil hb
    · obtain ⟨models, -, hempty, -⟩ := h sqlite healthy_sqlite
      rcases w.tryFlush_cases sqlite with ⟨w', hf, -⟩ | ⟨err, -, ht⟩
      · obtain ⟨models, hm, hi⟩ := flush_insert hb hf
        have hlen := boundParameters_le_iff.mp ((healthy_sqlite.insert_ok models).mp hi)
        rw [(rows_of_mapM hm).length_eq] at hlen
        exact ⟨hlen, mapM_isOk.mp ⟨models, hm⟩⟩
      · -- a failed flush keeps the buffer
        rw [ht] at hempty
        exact absurd hempty hb
  · intro h tx htx
    obtain ⟨models, hrows, ht⟩ := h.tryFlush_eq htx
    exact ⟨models, hrows, by rw [ht], by rw [ht]⟩

/-! ### Over a run -/

/-- The step takes no event out of the queue, or finds room for it in the batch and can print it. -/
def TakesSafely (w : Writer) (a : Action) : Prop :=
  ∀ event rx, a = .recv ∨ a = .drain → w.rx.tryRecv = some (.event event, rx) →
    w.buffer.length < maxBatch ∧ event.Printable

theorem fits_take {w w' : Writer} {a : Action} {event : ProxyEvent} {rx : Channel WriterMessage}
    (h : Fits w) (ha : a = .recv ∨ a = .drain) (hr : w.rx.tryRecv = some (.event event, rx))
    (hb : w'.buffer = w.buffer ++ [event]) : Fits w' ↔ TakesSafely w a := by
  constructor
  · intro hw' event' rx' _ hr'
    obtain ⟨he, -⟩ := Prod.mk.inj (Option.some.inj (hr.symm.trans hr'))
    obtain rfl := WriterMessage.event.inj he
    have hlen := hw'.length_le
    rw [hb, List.length_append, List.length_singleton] at hlen
    exact ⟨hlen, hw'.printable event (by rw [hb]; simp)⟩
  · intro hs
    obtain ⟨hlen, hp⟩ := hs event rx ha hr
    refine ⟨?_, fun e he => ?_⟩
    · rw [hb, List.length_append, List.length_singleton]
      exact hlen
    · rw [hb, List.mem_append, List.mem_singleton] at he
      rcases he with he | rfl
      · exact h.printable e he
      · exact hp

theorem fits_same {w w' : Writer} {a : Action} (h : Fits w) (hb : w'.buffer = w.buffer)
    (hs : TakesSafely w a) : Fits w' ↔ TakesSafely w a :=
  ⟨fun _ => hs, fun _ => ⟨hb ▸ h.length_le, hb ▸ h.printable⟩⟩

theorem takesSafely_of_ne {w : Writer} {a : Action} (hr : a ≠ .recv) (hd : a ≠ .drain) :
    TakesSafely w a := by
  rintro event rx (rfl | rfl) -
  · exact absurd rfl hr
  · exact absurd rfl hd

/-- A step that takes a shutdown message or nothing out of the queue takes no event. -/
theorem takesSafely_of_tryRecv {w : Writer} {a : Action}
    (h : ∀ event rx, w.rx.tryRecv ≠ some (.event event, rx)) : TakesSafely w a :=
  fun event rx _ hr => absurd hr (h event rx)

/-- **Step lemma**: with a healthy database, a step from a buffer that drains leads to one that drains
exactly if it takes its event safely. -/
theorem fits_step {w w' : Writer} {a : Action} (hflush : ∀ tx, a = .flush tx → Healthy tx)
    (h : Fits w) (he : Effect w a w') : Fits w' ↔ TakesSafely w a := by
  cases he with
  | @recvEvent event rx next hc hr hn => exact fits_take h (.inl rfl) hr rfl
  | @drainEvent event rx done hc hr => exact fits_take h (.inr rfl) hr rfl
  | @flush tx next hc =>
    have hs : TakesSafely w (.flush tx) := takesSafely_of_ne (by simp) (by simp)
    obtain ⟨models, -, ht⟩ := h.tryFlush_eq (hflush tx rfl)
    refine ⟨fun _ => hs, fun _ => fits_of_buffer_nil ?_⟩
    rw [afterFlush_buffer, ht]
  | recvShutdown hc hr => exact fits_same h rfl (takesSafely_of_tryRecv (by simp [hr]))
  | recvNone hc hr hh => exact fits_same h rfl (takesSafely_of_tryRecv (by simp [hr]))
  | drainShutdown hc hr => exact fits_same h rfl (takesSafely_of_tryRecv (by simp [hr]))
  | drainEmpty hc hr => exact fits_same h rfl (takesSafely_of_tryRecv (by simp [hr]))
  | drainClosed hc hr hh => exact fits_same h rfl (takesSafely_of_tryRecv (by simp [hr]))
  | _ => exact fits_same h rfl (takesSafely_of_ne (by simp) (by simp))

/-- An event never leaves a buffer that is too long: the batch is refused, kept, and grows. -/
theorem excess_step {w w' : Writer} {a : Action} (hflush : ∀ tx, a = .flush tx → Healthy tx)
    (h : maxBatch < w.buffer.length) (he : Effect w a w') : maxBatch < w'.buffer.length := by
  cases he with
  | @recvEvent event rx next hc hr hn =>
    show maxBatch < (w.buffer ++ [event]).length
    rw [List.length_append]
    omega
  | @drainEvent event rx done hc hr =>
    show maxBatch < (w.buffer ++ [event]).length
    rw [List.length_append]
    omega
  | @flush tx next hc =>
    rw [afterFlush_buffer]
    rcases w.tryFlush_cases tx with ⟨w'', hf, -⟩ | ⟨err, -, ht⟩
    · have hb : w.buffer ≠ [] := fun hb => by simp [hb] at h
      obtain ⟨models, hm, hi⟩ := flush_insert hb hf
      have hlen := boundParameters_le_iff.mp (((hflush tx rfl).insert_ok models).mp hi)
      rw [(rows_of_mapM hm).length_eq] at hlen
      omega
    · rw [ht]
      exact h
  | _ => exact h

/-- **One excess is permanent**: a healthy database never drains a buffer that grew too long. -/
theorem excess_run {w w' : Writer} {as : List Action} (hflush : ∀ tx, .flush tx ∈ as → Healthy tx)
    (h : maxBatch < w.buffer.length) (hrun : run step w as = some w') :
    maxBatch < w'.buffer.length :=
  run_invariant_of_mem (P := fun w : Writer => maxBatch < w.buffer.length)
    (fun _ _ _ ha hw hs => excess_step (fun tx hf => hflush tx (hf ▸ ha)) hw (step_effect hs)) h hrun

/-! ### A burst below `flush_rows` -/

/-- The event is sent and received `n` times, with no tick in between. -/
def burst (event : ProxyEvent) : ℕ → List Action
  | 0 => []
  | n + 1 => .trySend event :: .recv :: burst event n

theorem flush_not_mem_burst {event : ProxyEvent} {tx : Transaction} {n : ℕ} :
    .flush tx ∉ burst event n := by
  induction n with
  | zero => exact List.not_mem_nil
  | succ n ih => simpa [burst] using ih

/-- A task that waits in `select!` with an empty queue. -/
structure Idle (w : Writer) : Prop where
  control : w.control = .select
  queue : w.rx.queue = []
  capacity : 0 < w.rx.capacity
  closed : w.rx.closed = false
  handles : w.handles ≠ 0

/-- One event goes through the queue into the buffer of an idle task below `flush_rows`. -/
theorem idle_turn {w : Writer} (event : ProxyEvent) (h : Idle w)
    (hlen : w.buffer.length + 1 < w.cfg.flushRows) :
    ∃ w', run step w [.trySend event, .recv] = some w' ∧ Idle w' ∧ w'.cfg = w.cfg ∧
      w'.buffer = w.buffer ++ [event] := by
  obtain ⟨rx, hs⟩ := Channel.trySend_of_lt (a := WriterMessage.event event) h.closed
    (by rw [h.queue]; exact h.capacity)
  obtain ⟨-, -, hq, hcap, hclosed⟩ := Channel.trySend_ok hs
  rw [h.queue, List.nil_append] at hq
  obtain ⟨rx', hr, hq'⟩ := Channel.tryRecv_of_cons hq
  obtain ⟨-, hcap', hclosed'⟩ := Channel.tryRecv_some hr
  have hsend : w.step (.trySend event) =
      some { w with rx, accepted := w.accepted ++ [event] } := by
    simp only [step, if_neg h.handles, trySend, hs]
  have hbelow : ¬ w.cfg.flushRows ≤ (w.buffer ++ [event]).length := by
    rw [List.length_append, List.length_singleton]
    omega
  refine ⟨{ w with rx := rx', accepted := w.accepted ++ [event], buffer := w.buffer ++ [event] },
    ?_, ⟨h.control, hq', ?_, hclosed'.trans hclosed, h.handles⟩, rfl, rfl⟩
  · rw [run_cons, hsend]
    simp only [Option.bind_some, run_cons, run_nil, step, h.control, recv, hr, if_neg hbelow, if_true]
  · show 0 < rx'.capacity
    rw [hcap', hcap]
    exact h.capacity

/-- A burst that stays below `flush_rows` ends up in the buffer. -/
theorem burst_run {w : Writer} (event : ProxyEvent) (n : ℕ) (h : Idle w)
    (hlen : w.buffer.length + n < w.cfg.flushRows) :
    ∃ w', run step w (burst event n) = some w' ∧ w'.buffer = w.buffer ++ List.replicate n event := by
  induction n generalizing w with
  | zero => exact ⟨w, rfl, by simp⟩
  | succ n ih =>
    obtain ⟨u, hu, hidle, hcfg, hbuf⟩ := idle_turn event h (by omega)
    obtain ⟨w', hw', hb⟩ := ih hidle (by rw [hbuf, hcfg, List.length_append, List.length_singleton]; omega)
    refine ⟨w', run_append_some hu hw', ?_⟩
    rw [hb, hbuf, List.append_assoc]
    rfl

end KidProxy.Writer

namespace KidProxy

open Transition Writer

/-- **A healthy database and the buffer**: a run with a healthy database visits only states from which
`try_flush` empties the buffer exactly when each event taken out of the queue finds at most 503 others
in the buffer and has printable timestamps. -/
theorem healthy_drains_iff {cfg : RuntimeConfig} {stored : List ActiveModel} {as : List Action} {w : Writer}
    (hflush : ∀ tx, .flush tx ∈ as → Healthy tx) (hrun : run Writer.step (spawn cfg stored) as = some w) :
    Always Writer.step Drains (spawn cfg stored) as ↔
      Along Writer.step TakesSafely (spawn cfg stored) as := by
  have hstart : Drains (spawn cfg stored) := (drains_iff _).mpr (fits_of_buffer_nil rfl)
  have hF : Along Writer.step (fun _ a => ∀ tx, a = .flush tx → Healthy tx) (spawn cfg stored) as :=
    along_of_forall fun _ a ha tx htx => hflush tx (htx ▸ ha)
  refine always_iff_along (I := fun _ => True) (fun _ _ _ _ _ _ => trivial) (fun s a t hf _ hs hst => ?_)
    trivial hstart hF hrun
  rw [drains_iff] at hs ⊢
  exact fits_step hf hs (step_effect hst)

theorem healthy_drains_iff_sample :
    Always Writer.step Drains (spawn sampleConfig [])
      [.trySend sampleEvent, .recv, .tick, .flush sqlite] := by
  refine (healthy_drains_iff (fun tx htx => ?_) rfl).mpr ?_
  · obtain rfl : tx = sqlite := by simpa using htx
    exact healthy_sqlite
  · refine ⟨takesSafely_of_ne (by simp) (by simp), fun t ht => ?_⟩
    obtain rfl := Option.some.inj ht
    refine ⟨fun event rx _ hr => ?_, fun t ht => ?_⟩
    · have he : sampleEvent = event := by
        have h := Option.some.inj hr
        exact WriterMessage.event.inj (Prod.mk.inj h).1
      exact ⟨by decide, he ▸ sampleEvent_printable⟩
    · obtain rfl := Option.some.inj ht
      refine ⟨takesSafely_of_ne (by simp) (by simp), fun t ht => ?_⟩
      exact ⟨takesSafely_of_ne (by simp) (by simp), fun _ _ => trivial⟩

/-- Below the default `flush_rows` of 5000, a burst of 505 events between two ticks makes a batch that
a healthy database refuses. -/
theorem default_config_overflows :
    @AppConfigFile.toRuntimeConfig sampleNet sampleGlob sampleFs ⟨.default, []⟩ = .ok sampleConfig ∧
      ∃ w, run Writer.step (spawn sampleConfig []) (burst sampleEvent 505) = some w ∧
        (∀ tx, .flush tx ∉ burst sampleEvent 505) ∧ w.buffer.length = 505 ∧
        Healthy sqlite ∧ w.tryFlush sqlite = { w with writeFailures := w.writeFailures + 1 } ∧
        ¬ Drains w := by
  have hidle : Idle (spawn sampleConfig []) := ⟨rfl, rfl, by decide, rfl, by decide⟩
  obtain ⟨w, hw, hb⟩ := burst_run sampleEvent 505 hidle (by decide)
  have hlen : w.buffer.length = 505 := by
    rw [hb, List.length_append, List.length_replicate]
    rfl
  have hfits : ¬ Fits w := fun h => by
    have hle := h.length_le
    rw [hlen] at hle
    exact absurd hle (by decide)
  refine ⟨toRuntimeConfig_default, w, hw, fun tx => flush_not_mem_burst, hlen, healthy_sqlite, ?_, ?_⟩
  · rcases w.tryFlush_cases sqlite with ⟨w', hf, -⟩ | ⟨err, -, ht⟩
    · have hne : w.buffer ≠ [] := fun hnil => by simp [hnil] at hlen
      obtain ⟨models, hm, hi⟩ := flush_insert hne hf
      have hle := boundParameters_le_iff.mp ((healthy_sqlite.insert_ok models).mp hi)
      rw [(rows_of_mapM hm).length_eq, hlen] at hle
      exact absurd hle (by decide)
    · exact ht
  · rw [drains_iff]
    exact hfits

end KidProxy
