import KidProxy.Config
import KidProxy.Event
import KidProxy.Lib.Channel
import KidProxy.Lib.Run

/-!
# Writer — the SQLite writer task and its handles

The task owns the receiver of a bounded channel and a buffer; handles send events and shutdown
messages.  `step` takes one step of a handle or of the task: `Control` says where `run` stands, so
that sends fall between any two steps of the task, also in the middle of a flush.  What the database
answers is part of the flush action.
-/

namespace KidProxy

/-- What the database answers to the three calls of one flush. -/
structure Transaction where
  begin : Except AnyError Unit
  insertMany : List ActiveModel → Except AnyError Unit
  commit : Except AnyError Unit

/-- A shutdown message carries the number of its oneshot channel. -/
inductive WriterMessage
  | event (event : ProxyEvent)
  | shutdown (done : ℕ)

def WriterMessage.event? : WriterMessage → Option ProxyEvent
  | .event e => some e
  | .shutdown _ => none

/-- What `run` does when `try_flush` returns: go round the loop, or acknowledge and leave it. -/
inductive AfterFlush
  | select
  | finish (done : Option ℕ)
  deriving DecidableEq, Repr

/-- Where `run` stands: in the `select!`, in a flush, in the `try_recv` loop or in the timed loop of
`drain_pending_events`, past the loop, or returned. -/
inductive Control
  | select
  | flushing (next : AfterFlush)
  | draining (done : ℕ)
  | waiting (done : ℕ)
  | finished
  | returned
  deriving DecidableEq, Repr

structure Writer where
  cfg : RuntimeConfig
  rx : Channel WriterMessage
  /-- The live clones of the handle. -/
  handles : ℕ
  buffer : List ProxyEvent
  /-- The rows of `proxy_events`. -/
  table : List ActiveModel
  droppedEvents : ℕ
  writeFailures : ℕ
  control : Control
  /-- The oneshot channels that were answered. -/
  acknowledged : List ℕ
  /-- Ghost: the events whose `try_send` was accepted, in order. -/
  accepted : List ProxyEvent
  /-- Ghost: the events of the committed batches, in order. -/
  written : List ProxyEvent

inductive Action
  | trySend (event : ProxyEvent)
  | sendShutdown (done : ℕ)
  | cloneHandle
  | dropHandle
  | recv
  | tick
  | flush (tx : Transaction)
  | drain
  | timeout
  | dropReceiver

namespace Writer

/-- `spawn_writer`: an empty channel with one handle, and `run` about to enter its loop.  The database file
may hold rows of earlier runs. -/
def spawn (cfg : RuntimeConfig) (stored : List ActiveModel) : Writer where
  cfg := cfg
  rx := Channel.new cfg.maxInflightEvents
  handles := 1
  buffer := []
  table := stored
  droppedEvents := 0
  writeFailures := 0
  control := .select
  acknowledged := []
  accepted := []
  written := []

/-- `SqliteWriterHandle::try_send`. -/
def trySend (w : Writer) (event : ProxyEvent) : Writer :=
  match w.rx.trySend (.event event) with
  | .ok rx => { w with rx, accepted := w.accepted ++ [event] }
  | .error _ => { w with droppedEvents := w.droppedEvents + 1 }

/-- One turn of the loop in `SqliteWriterHandle::shutdown`: a full queue is tried again later, a
closed one ends the loop. -/
def sendShutdown (w : Writer) (done : ℕ) : Writer :=
  match w.rx.trySend (.shutdown done) with
  | .ok rx => { w with rx }
  | .error _ => w

/-- `WriterState::flush`.  An error leaves everything as it is: the transaction is dropped and the
buffer is only cleared after the commit. -/
def flush (w : Writer) (tx : Transaction) : Except AnyError Writer := do
  if w.buffer.isEmpty then return w
  let models ← w.buffer.mapM eventToActiveModel
  context "begin SQLite transaction" tx.begin
  context "insert SQLite batch" (tx.insertMany models)
  context "commit SQLite transaction" tx.commit
  return { w with buffer := [], table := w.table ++ models, written := w.written ++ w.buffer }

def tryFlush (w : Writer) (tx : Transaction) : Writer :=
  if w.buffer.isEmpty then w
  else match w.flush tx with
    | .ok w => w
    | .error _ => { w with writeFailures := w.writeFailures + 1 }

/-- What follows the `try_flush` of each arm of `run`. -/
def afterFlush (w : Writer) : AfterFlush → Writer
  | .select => { w with control := .select }
  | .finish none => { w with control := .finished }
  | .finish (some done) =>
    { w with control := .finished, acknowledged := w.acknowledged ++ [done] }

/-- The `rx.recv()` arm of `run`; nothing is received while the queue is empty and a handle lives. -/
def recv (w : Writer) : Option Writer :=
  match w.rx.tryRecv with
  | some (.event event, rx) =>
    let buffer := w.buffer ++ [event]
    some { w with rx, buffer, control :=
      if w.cfg.flushRows ≤ buffer.length then .flushing .select else .select }
  | some (.shutdown done, rx) => some { w with rx, control := .draining done }
  | none => if w.handles = 0 then some { w with control := .flushing (.finish none) } else none

/-- A turn of the `try_recv` loop of `drain_pending_events`. -/
def drainNow (w : Writer) (done : ℕ) : Writer :=
  match w.rx.tryRecv with
  | some (.event event, rx) => { w with rx, buffer := w.buffer ++ [event] }
  | some (.shutdown other, rx) => { w with rx, acknowledged := w.acknowledged ++ [other] }
  | none => { w with control := .waiting done }

/-- A turn of its second loop, whose `rx.recv()` got an answer in time. -/
def drainWaiting (w : Writer) (done : ℕ) : Option Writer :=
  match w.rx.tryRecv with
  | some (.event event, rx) => some { w with rx, buffer := w.buffer ++ [event] }
  | some (.shutdown other, rx) => some { w with rx, acknowledged := w.acknowledged ++ [other] }
  | none =>
    if w.handles = 0 then some { w with control := .flushing (.finish (some done)) } else none

/-- One step of a handle or of the task; `none` where the action is not possible. -/
def step (w : Writer) : Action → Option Writer
  | .trySend event => if w.handles = 0 then none else some (w.trySend event)
  | .sendShutdown done => if w.handles = 0 then none else some (w.sendShutdown done)
  | .cloneHandle => if w.handles = 0 then none else some { w with handles := w.handles + 1 }
  | .dropHandle => if w.handles = 0 then none else some { w with handles := w.handles - 1 }
  | .recv => if w.control = .select then w.recv else none
  | .tick => if w.control = .select then some { w with control := .flushing .select } else none
  | .flush tx =>
    match w.control with
    | .flushing next => some ((w.tryFlush tx).afterFlush next)
    | _ => none
  | .drain =>
    match w.control with
    | .draining done => some (w.drainNow done)
    | .waiting done => w.drainWaiting done
    | _ => none
  | .timeout =>
    match w.control with
    | .waiting done => some { w with control := .flushing (.finish (some done)) }
    | _ => none
  | .dropReceiver =>
    if w.control = .finished then some { w with rx := w.rx.close, control := .returned } else none

/-- The events in the queue. -/
def queued (w : Writer) : List ProxyEvent := w.rx.queue.filterMap WriterMessage.event?

/-- The events that have left the queue: written, or in the buffer. -/
def taken (w : Writer) : List ProxyEvent := w.written ++ w.buffer

/-! ### What a flush does -/

/-- A flush that succeeds commits the whole buffer and empties it. -/
theorem flush_eq_ok {w w' : Writer} {tx : Transaction} (h : w.flush tx = .ok w') :
    ∃ models, w.buffer.mapM eventToActiveModel = .ok models ∧
      w' = { w with buffer := [], table := w.table ++ models, written := w.written ++ w.buffer } := by
  unfold flush at h
  split_ifs at h with hb
  · have hnil : w.buffer = [] := List.isEmpty_iff.mp hb
    obtain rfl : w = w' := Except.ok.inj h
    exact ⟨[], by rw [hnil]; rfl, by cases w; simp_all⟩
  · obtain ⟨models, hm, h⟩ := bind_eq_ok.mp h
    obtain ⟨_, -, h⟩ := bind_eq_ok.mp h
    obtain ⟨_, -, h⟩ := bind_eq_ok.mp h
    obtain ⟨_, -, h⟩ := bind_eq_ok.mp h
    exact ⟨models, hm, (Except.ok.inj h).symm⟩

theorem flush_of_ok {w : Writer} {tx : Transaction} {models : List ActiveModel}
    (hm : w.buffer.mapM eventToActiveModel = .ok models) (hb : tx.begin = .ok ())
    (hi : tx.insertMany models = .ok ()) (hc : tx.commit = .ok ()) :
    w.flush tx = .ok
      { w with buffer := [], table := w.table ++ models, written := w.written ++ w.buffer } := by
  unfold flush
  by_cases he : w.buffer.isEmpty = true
  · have hnil : w.buffer = [] := List.isEmpty_iff.mp he
    rw [hnil] at hm
    obtain rfl : [] = models := Except.ok.inj hm
    rw [if_pos he]
    exact congrArg Except.ok (by cases w; simp_all)
  · rw [if_neg he]
    exact bind_eq_ok.mpr ⟨models, hm, bind_eq_ok.mpr ⟨(), context_eq_ok.mpr hb,
      bind_eq_ok.mpr ⟨(), context_eq_ok.mpr hi, bind_eq_ok.mpr ⟨(), context_eq_ok.mpr hc, rfl⟩⟩⟩⟩

/-- `try_flush` does what `flush` did, or counts a failure and changes nothing else. -/
theorem tryFlush_cases (w : Writer) (tx : Transaction) :
    (∃ w', w.flush tx = .ok w' ∧ w.tryFlush tx = w') ∨
      ∃ err, w.flush tx = .error err ∧
        w.tryFlush tx = { w with writeFailures := w.writeFailures + 1 } := by
  unfold tryFlush
  by_cases hb : w.buffer.isEmpty = true
  · rw [if_pos hb]
    exact .inl ⟨w, by unfold flush; rw [if_pos hb]; rfl, rfl⟩
  · rw [if_neg hb]
    cases hf : w.flush tx with
    | ok w' => exact .inl ⟨w', rfl, rfl⟩
    | error err => exact .inr ⟨err, rfl, rfl⟩

/-- A flush touches the buffer, the rows and the failure counter only. -/
theorem tryFlush_frame (w : Writer) (tx : Transaction) : ∃ buffer table writeFailures written,
    w.tryFlush tx = { w with buffer, table, writeFailures, written } := by
  rcases w.tryFlush_cases tx with ⟨w', hf, ht⟩ | ⟨err, -, ht⟩
  · obtain ⟨models, -, rfl⟩ := flush_eq_ok hf
    exact ⟨_, _, _, _, ht⟩
  · exact ⟨_, _, _, _, ht⟩

/-! ### What a step does -/

/-- The effect of each action, one constructor for each branch of the code. -/
inductive Effect (w : Writer) : Action → Writer → Prop
  | accept {event rx} (hs : w.rx.trySend (.event event) = .ok rx) :
      Effect w (.trySend event) { w with rx, accepted := w.accepted ++ [event] }
  | refuse {event err} (hs : w.rx.trySend (.event event) = .error err) :
      Effect w (.trySend event) { w with droppedEvents := w.droppedEvents + 1 }
  | acceptShutdown {done rx} (hs : w.rx.trySend (.shutdown done) = .ok rx) :
      Effect w (.sendShutdown done) { w with rx }
  | refuseShutdown {done err} (hs : w.rx.trySend (.shutdown done) = .error err) :
      Effect w (.sendShutdown done) w
  | clone (hh : w.handles ≠ 0) : Effect w .cloneHandle { w with handles := w.handles + 1 }
  | drop (hh : w.handles ≠ 0) : Effect w .dropHandle { w with handles := w.handles - 1 }
  | recvEvent {event rx next} (hc : w.control = .select) (hr : w.rx.tryRecv = some (.event event, rx))
      (hn : next = if w.cfg.flushRows ≤ (w.buffer ++ [event]).length then .flushing .select
        else .select) :
      Effect w .recv { w with rx, buffer := w.buffer ++ [event], control := next }
  | recvShutdown {done rx} (hc : w.control = .select)
      (hr : w.rx.tryRecv = some (.shutdown done, rx)) :
      Effect w .recv { w with rx, control := .draining done }
  | recvNone (hc : w.control = .select) (hr : w.rx.tryRecv = none) (hh : w.handles = 0) :
      Effect w .recv { w with control := .flushing (.finish none) }
  | tick (hc : w.control = .select) : Effect w .tick { w with control := .flushing .select }
  | flush {tx next} (hc : w.control = .flushing next) :
      Effect w (.flush tx) ((w.tryFlush tx).afterFlush next)
  | drainEvent {event rx done} (hc : w.control = .draining done ∨ w.control = .waiting done)
      (hr : w.rx.tryRecv = some (.event event, rx)) :
      Effect w .drain { w with rx, buffer := w.buffer ++ [event] }
  | drainShutdown {other rx done} (hc : w.control = .draining done ∨ w.control = .waiting done)
      (hr : w.rx.tryRecv = some (.shutdown other, rx)) :
      Effect w .drain { w with rx, acknowledged := w.acknowledged ++ [other] }
  | drainEmpty {done} (hc : w.control = .draining done) (hr : w.rx.tryRecv = none) :
      Effect w .drain { w with control := .waiting done }
  | drainClosed {done} (hc : w.control = .waiting done) (hr : w.rx.tryRecv = none)
      (hh : w.handles = 0) : Effect w .drain { w with control := .flushing (.finish (some done)) }
  | timeout {done} (hc : w.control = .waiting done) :
      Effect w .timeout { w with control := .flushing (.finish (some done)) }
  | dropReceiver (hc : w.control = .finished) :
      Effect w .dropReceiver { w with rx := w.rx.close, control := .returned }

/-- **Inversion**: a step has one of the effects. -/
theorem step_effect {w w' : Writer} {a : Action} (h : w.step a = some w') : Effect w a w' := by
  cases a with
  | trySend event =>
    simp only [step] at h
    split_ifs at h
    obtain rfl := Option.some.inj h
    unfold trySend
    cases hs : w.rx.trySend (.event event) with
    | ok rx => exact .accept hs
    | error err => exact .refuse hs
  | sendShutdown done =>
    simp only [step] at h
    split_ifs at h
    obtain rfl := Option.some.inj h
    unfold sendShutdown
    cases hs : w.rx.trySend (.shutdown done) with
    | ok rx => exact .acceptShutdown hs
    | error err => exact .refuseShutdown hs
  | cloneHandle =>
    simp only [step] at h
    split_ifs at h with hh
    obtain rfl := Option.some.inj h
    exact .clone hh
  | dropHandle =>
    simp only [step] at h
    split_ifs at h with hh
    obtain rfl := Option.some.inj h
    exact .drop hh
  | recv =>
    simp only [step] at h
    split_ifs at h with hc
    unfold recv at h
    rcases hr : w.rx.tryRecv with _ | ⟨event | done, rx⟩
    · rw [hr] at h
      simp only at h
      split_ifs at h with hh
      obtain rfl := Option.some.inj h
      exact .recvNone hc hr hh
    · rw [hr] at h
      obtain rfl := Option.some.inj h
      exact .recvEvent hc hr rfl
    · rw [hr] at h
      obtain rfl := Option.some.inj h
      exact .recvShutdown hc hr
  | tick =>
    simp only [step] at h
    split_ifs at h with hc
    obtain rfl := Option.some.inj h
    exact .tick hc
  | flush tx =>
    cases hc : w.control with
    | flushing next =>
      simp only [step, hc] at h
      obtain rfl := Option.some.inj h
      exact .flush hc
    | _ => simp [step, hc] at h
  | drain =>
    cases hc : w.control with
    | draining done =>
      simp only [step, hc] at h
      obtain rfl := Option.some.inj h
      unfold drainNow
      rcases hr : w.rx.tryRecv with _ | ⟨event | other, rx⟩
      · exact .drainEmpty hc hr
      · exact .drainEvent (.inl hc) hr
      · exact .drainShutdown (.inl hc) hr
    | waiting done =>
      simp only [step, hc] at h
      unfold drainWaiting at h
      rcases hr : w.rx.tryRecv with _ | ⟨event | other, rx⟩
      · rw [hr] at h
        simp only at h
        split_ifs at h with hh
        obtain rfl := Option.some.inj h
        exact .drainClosed hc hr hh
      · rw [hr] at h
        obtain rfl := Option.some.inj h
        exact .drainEvent (.inr hc) hr
      · rw [hr] at h
        obtain rfl := Option.some.inj h
        exact .drainShutdown (.inr hc) hr
    | _ => simp [step, hc] at h
  | timeout =>
    cases hc : w.control with
    | waiting done =>
      simp only [step, hc] at h
      obtain rfl := Option.some.inj h
      exact .timeout hc
    | _ => simp [step, hc] at h
  | dropReceiver =>
    simp only [step] at h
    split_ifs at h with hc
    obtain rfl := Option.some.inj h
    exact .dropReceiver hc

/-! ### Small facts about the state -/

section Simp

variable (w : Writer)

@[simp] theorem tryFlush_cfg (tx : Transaction) : (w.tryFlush tx).cfg = w.cfg := by
  obtain ⟨_, _, _, _, h⟩ := w.tryFlush_frame tx
  rw [h]

@[simp] theorem tryFlush_rx (tx : Transaction) : (w.tryFlush tx).rx = w.rx := by
  obtain ⟨_, _, _, _, h⟩ := w.tryFlush_frame tx
  rw [h]

@[simp] theorem tryFlush_handles (tx : Transaction) : (w.tryFlush tx).handles = w.handles := by
  obtain ⟨_, _, _, _, h⟩ := w.tryFlush_frame tx
  rw [h]

@[simp] theorem tryFlush_droppedEvents (tx : Transaction) :
    (w.tryFlush tx).droppedEvents = w.droppedEvents := by
  obtain ⟨_, _, _, _, h⟩ := w.tryFlush_frame tx
  rw [h]

@[simp] theorem tryFlush_acknowledged (tx : Transaction) :
    (w.tryFlush tx).acknowledged = w.acknowledged := by
  obtain ⟨_, _, _, _, h⟩ := w.tryFlush_frame tx
  rw [h]

@[simp] theorem tryFlush_accepted (tx : Transaction) : (w.tryFlush tx).accepted = w.accepted := by
  obtain ⟨_, _, _, _, h⟩ := w.tryFlush_frame tx
  rw [h]

@[simp] theorem afterFlush_cfg (next : AfterFlush) : (w.afterFlush next).cfg = w.cfg := by
  rcases next with _ | _ | _ <;> rfl

@[simp] theorem afterFlush_handles (next : AfterFlush) : (w.afterFlush next).handles = w.handles := by
  rcases next with _ | _ | _ <;> rfl

@[simp] theorem afterFlush_droppedEvents (next : AfterFlush) :
    (w.afterFlush next).droppedEvents = w.droppedEvents := by
  rcases next with _ | _ | _ <;> rfl

@[simp] theorem afterFlush_rx (next : AfterFlush) : (w.afterFlush next).rx = w.rx := by
  rcases next with _ | _ | _ <;> rfl

@[simp] theorem afterFlush_buffer (next : AfterFlush) : (w.afterFlush next).buffer = w.buffer := by
  rcases next with _ | _ | _ <;> rfl

@[simp] theorem afterFlush_table (next : AfterFlush) : (w.afterFlush next).table = w.table := by
  rcases next with _ | _ | _ <;> rfl

@[simp] theorem afterFlush_accepted (next : AfterFlush) :
    (w.afterFlush next).accepted = w.accepted := by
  rcases next with _ | _ | _ <;> rfl

@[simp] theorem afterFlush_written (next : AfterFlush) : (w.afterFlush next).written = w.written := by
  rcases next with _ | _ | _ <;> rfl

theorem afterFlush_control (next : AfterFlush) :
    (w.afterFlush next).control = .select ∧ next = .select ∨
      (w.afterFlush next).control = .finished ∧ ∃ done, next = .finish done := by
  rcases next with _ | _ | done
  · exact .inl ⟨rfl, rfl⟩
  · exact .inr ⟨rfl, none, rfl⟩
  · exact .inr ⟨rfl, some done, rfl⟩

theorem queued_of_queue {w : Writer} {message : WriterMessage} {q : List WriterMessage}
    (h : w.rx.queue = message :: q) :
    w.queued = message.event?.toList ++ q.filterMap WriterMessage.event? := by
  rw [queued, h, List.filterMap_cons]
  cases message <;> rfl

end Simp

end Writer

end KidProxy
