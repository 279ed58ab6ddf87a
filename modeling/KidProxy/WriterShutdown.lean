import KidProxy.Lib.Pool
import KidProxy.WriterAccount

/-!
# WriterShutdown — concurrent `shutdown()` calls

A call sends its message, waits for the answer on its oneshot channel and returns.  `WriterClients` is
the writer with all calls made so far; the number of a call is that of its oneshot channel.  The writer
answers one message after the final flush, and those that its drain loops find at once.
-/

namespace KidProxy

/-- Where a `shutdown()` call stands: in its loop, at `rx.await`, or returned, with an answer or because
its message was dropped. -/
inductive ShutdownStage
  | sending
  | waiting
  | returned (answered : Bool)
  deriving DecidableEq, Repr

structure ShutdownCall where
  stage : ShutdownStage
  /-- Ghost: the events accepted before the call started. -/
  before : List ProxyEvent

def ShutdownCall.running (call : ShutdownCall) : Bool :=
  match call.stage with
  | .sending | .waiting => true
  | .returned _ => false

/-- The writer with the `shutdown()` calls made on it. -/
abbrev WriterClients := Pool Writer ShutdownCall

inductive ClientAction
  /-- A step of the task, or of a handle outside `shutdown()`. -/
  | writer (a : Action)
  /-- A `shutdown()` call starts. -/
  | start
  /-- A turn of the loop of a call. -/
  | turn (id : ℕ)
  /-- The `rx.await` of a call is ready. -/
  | await (id : ℕ)

/-- The oneshot sender that `run` holds while it is on its way out. -/
def Control.done? : Control → Option ℕ
  | .draining done | .waiting done | .flushing (.finish (some done)) => some done
  | .select | .flushing .select | .flushing (.finish none) | .finished | .returned => none

def WriterMessage.isShutdown (id : ℕ) : WriterMessage → Bool
  | .event _ => false
  | .shutdown done => done = id

/-- The oneshot sender of a message is queued or held by `run`. -/
def Writer.holds (w : Writer) (id : ℕ) : Bool :=
  w.rx.queue.any (WriterMessage.isShutdown id) || w.control.done? = some id

namespace WriterClients

def spawn (cfg : RuntimeConfig) (stored : List ActiveModel) : WriterClients := ⟨.spawn cfg stored, []⟩

variable (s : WriterClients)

/-- A full queue is tried again; a message that was sent or dropped is waited for. -/
def turnStage (id : ℕ) : ShutdownStage :=
  match s.shared.rx.trySend (.shutdown id) with
  | .error .full => .sending
  | .error .closed | .ok _ => .waiting

/-- A turn of the loop of a call. -/
def turn (id : ℕ) (call : ShutdownCall) : WriterClients :=
  s.update id (s.shared.sendShutdown id) { call with stage := turnStage s id }

/-- `rx.await`: the answer, or the drop of the sender. -/
def await (id : ℕ) (call : ShutdownCall) : Option WriterClients :=
  if id ∈ s.shared.acknowledged then
    some (s.update id s.shared { call with stage := .returned true })
  else if s.shared.holds id then none
  else some (s.update id s.shared { call with stage := .returned false })

/-- A call borrows a handle, so the last one is not dropped under it. -/
def step : ClientAction → Option WriterClients
  | .writer (.sendShutdown _) => none
  | .writer .dropHandle =>
    if s.calls.any ShutdownCall.running && s.shared.handles ≤ 1 then none
    else (s.shared.step .dropHandle).map fun shared => { s with shared }
  | .writer a => (s.shared.step a).map fun shared => { s with shared }
  | .start =>
    if s.shared.handles = 0 then none else some (s.enter ⟨.sending, s.shared.accepted⟩)
  | .turn id =>
    match s.calls[id]? with
    | some ⟨.sending, before⟩ => some (turn s id ⟨.sending, before⟩)
    | _ => none
  | .await id =>
    match s.calls[id]? with
    | some ⟨.waiting, before⟩ => await s id ⟨.waiting, before⟩
    | _ => none

/-- The effect of each action on the writer and the calls. -/
inductive Effect (s : WriterClients) : ClientAction → WriterClients → Prop
  | writer {a w} (ha : ∀ done, a ≠ .sendShutdown done) (he : Writer.Effect s.shared a w) :
      Effect s (.writer a) { s with shared := w }
  | start : Effect s .start (s.enter ⟨.sending, s.shared.accepted⟩)
  | turn {id call} (hcall : s.calls[id]? = some call) (hstage : call.stage = .sending) :
      Effect s (.turn id) (turn s id call)
  | answered {id call} (hcall : s.calls[id]? = some call) (hstage : call.stage = .waiting)
      (hack : id ∈ s.shared.acknowledged) :
      Effect s (.await id) (s.update id s.shared { call with stage := .returned true })
  | dropped {id call} (hcall : s.calls[id]? = some call) (hstage : call.stage = .waiting)
      (hack : id ∉ s.shared.acknowledged) (hheld : s.shared.holds id = false) :
      Effect s (.await id) (s.update id s.shared { call with stage := .returned false })

theorem turnStage_ne_returned (s : WriterClients) (id : ℕ) (b : Bool) :
    turnStage s id ≠ .returned b := by
  unfold turnStage
  split <;> simp

theorem effect_sendShutdown (w : Writer) (id : ℕ) :
    Writer.Effect w (.sendShutdown id) (w.sendShutdown id) := by
  unfold Writer.sendShutdown
  cases hs : w.rx.trySend (.shutdown id) with
  | ok rx => exact .acceptShutdown hs
  | error err => exact .refuseShutdown hs

theorem step_effect {s s' : WriterClients} {a : ClientAction} (h : step s a = some s') :
    Effect s a s' := by
  cases a with
  | writer a =>
    have hw : (∀ done, a ≠ .sendShutdown done) ∧
        (s.shared.step a).map (fun shared => { s with shared }) = some s' := by
      cases a with
      | sendShutdown done => cases h
      | dropHandle =>
        simp only [step] at h
        split_ifs at h
        exact ⟨nofun, h⟩
      | _ => exact ⟨nofun, h⟩
    obtain ⟨ha, hw⟩ := hw
    obtain ⟨w, hstep, rfl⟩ := Option.map_eq_some_iff.mp hw
    exact .writer ha (Writer.step_effect hstep)
  | start =>
    simp only [step] at h
    split_ifs at h
    obtain rfl := Option.some.inj h
    exact .start
  | turn id =>
    simp only [step] at h
    split at h
    · rename_i before hcall
      obtain rfl := Option.some.inj h
      exact .turn hcall rfl
    · cases h
  | await id =>
    simp only [step] at h
    split at h
    · rename_i before hcall
      unfold await at h
      split_ifs at h with hack hheld
      · obtain rfl := Option.some.inj h
        exact .answered hcall rfl hack
      · obtain rfl := Option.some.inj h
        exact .dropped hcall rfl hack (by simpa using hheld)
    · cases h

end WriterClients

/-! ### A message behind the events accepted before it -/

namespace Writer

/-- The oneshot channel was used: its sender is queued, held by `run`, or has answered. -/
def Mentions (w : Writer) (id : ℕ) : Prop :=
  .shutdown id ∈ w.rx.queue ∨ w.control.done? = some id ∨ id ∈ w.acknowledged

/-- The events `before` leave the queue before the message of `id` does. -/
structure Behind (w : Writer) (id : ℕ) (before : List ProxyEvent) : Prop where
  queued : ∀ pre post, w.rx.queue = pre ++ .shutdown id :: post →
    before <+: w.taken ++ pre.filterMap WriterMessage.event?
  held : w.control.done? = some id → before <+: w.taken

variable {stored : List ActiveModel}

theorem behind_of_not_mentions {w : Writer} {id : ℕ} {before : List ProxyEvent}
    (h : ¬ w.Mentions id) : Behind w id before where
  queued pre post hq := absurd (.inl (by rw [hq]; simp)) h
  held hc := absurd (.inr (.inl hc)) h

/-- A split of a longer queue at a message is one of the shorter queue, or is at the new end. -/
theorem split_concat {α : Type} {q pre post : List α} {m x : α} (h : q ++ [x] = pre ++ m :: post) :
    (∃ post', q = pre ++ m :: post') ∨ x = m ∧ q = pre := by
  rcases List.eq_nil_or_concat post with rfl | ⟨post', y, rfl⟩
  · obtain ⟨hq, hx⟩ := List.append_inj' h rfl
    exact .inr ⟨(List.cons_eq_cons.mp hx).1, hq⟩
  · rw [List.concat_eq_append, ← List.cons_append, ← List.append_assoc] at h
    exact .inl ⟨post', (List.append_inj' h rfl).1⟩

theorem behind_send {w w' : Writer} {message : WriterMessage} {rx : Channel WriterMessage} {id : ℕ}
    {before : List ProxyEvent} (h : Behind w id before) (hcons : Conserved stored w)
    (hbefore : before <+: w.accepted) (hs : w.rx.trySend message = .ok rx) (hrx : w'.rx = rx)
    (ht : w'.taken = w.taken) (hc : w'.control = w.control) : Behind w' id before := by
  obtain ⟨hopen, -, hq, -, -⟩ := Channel.trySend_ok hs
  refine ⟨fun pre post hsplit => ?_, fun hd => ?_⟩
  · rw [hrx, hq] at hsplit
    rw [ht]
    rcases split_concat hsplit with ⟨post', hpost⟩ | ⟨-, rfl⟩
    · exact h.queued pre post' hpost
    · -- the new message is behind everything accepted so far
      have hw := hcons.conserved fun hret => by
        rw [hcons.closed.mpr hret] at hopen
        cases hopen
      rw [← hw] at hbefore
      exact hbefore
  · rw [ht]
    rw [hc] at hd
    exact h.held hd

/-- The head of the queue moves to where `taken` counts it. -/
theorem behind_take {w w' : Writer} {message : WriterMessage} {rx : Channel WriterMessage} {id : ℕ}
    {before : List ProxyEvent} (h : Behind w id before)
    (hr : w.rx.tryRecv = some (message, rx)) (hrx : w'.rx = rx)
    (ht : w'.taken = w.taken ++ message.event?.toList)
    (hc : w'.control.done? = some id → w.control.done? = some id ∨ message = .shutdown id) :
    Behind w' id before := by
  have hq := (Channel.tryRecv_some hr).1
  refine ⟨fun pre post hsplit => ?_, fun hd => ?_⟩
  · rw [hrx] at hsplit
    have hpre := h.queued (message :: pre) post (by rw [hq, hsplit]; rfl)
    rw [ht, List.append_assoc]
    rw [List.filterMap_cons] at hpre
    cases message <;> exact hpre
  · rw [ht]
    rcases hc hd with hd | rfl
    · exact (h.held hd).trans (List.prefix_append _ _)
    · simpa using (h.queued [] rx.queue hq).trans (List.prefix_append _ _)

/-- A step that leaves the queue and hands the sender on inside `run` at most. -/
theorem behind_move {w w' : Writer} {id : ℕ} {before : List ProxyEvent} (h : Behind w id before)
    (hrx : w'.rx.queue = w.rx.queue ∨ w'.rx.queue = []) (ht : w'.taken = w.taken)
    (hc : w'.control.done? = some id → w.control.done? = some id) : Behind w' id before := by
  refine ⟨fun pre post hsplit => ?_, fun hd => ?_⟩
  · rw [ht]
    rcases hrx with hrx | hrx
    · exact h.queued pre post (hrx ▸ hsplit)
    · rw [hrx] at hsplit
      simp at hsplit
  · rw [ht]
    exact h.held (hc hd)

/-- **Step lemma**: the channel is first-in first-out. -/
theorem behind_step {w w' : Writer} {a : Action} {id : ℕ} {before : List ProxyEvent}
    (hcons : Conserved stored w) (hbefore : before <+: w.accepted) (h : Behind w id before)
    (he : Effect w a w') : Behind w' id before := by
  cases he with
  | accept hs => exact behind_send h hcons hbefore hs rfl rfl rfl
  | acceptShutdown hs => exact behind_send h hcons hbefore hs rfl rfl rfl
  | @recvEvent event rx next hc hr hn =>
    refine behind_take h hr rfl (by simp [taken, WriterMessage.event?]) fun hd => ?_
    rw [hn] at hd
    split_ifs at hd <;> cases hd
  | @recvShutdown done rx hc hr =>
    refine behind_take h hr rfl (by simp [taken, WriterMessage.event?]) fun hd => .inr ?_
    rw [Option.some.inj hd]
  | recvNone hc hr hh => exact behind_move h (.inl rfl) rfl fun hd => by cases hd
  | tick hc => exact behind_move h (.inl rfl) rfl fun hd => by cases hd
  | @flush tx next hc =>
    refine behind_move h (.inl (by simp)) (by rw [afterFlush_taken, tryFlush_taken]) fun hd => ?_
    rcases (w.tryFlush tx).afterFlush_control next with ⟨hn, -⟩ | ⟨hn, -⟩ <;> rw [hn] at hd <;> cases hd
  | drainEvent hc hr =>
    exact behind_take h hr rfl (by simp [taken, WriterMessage.event?]) fun hd => .inl hd
  | drainShutdown hc hr =>
    exact behind_take h hr rfl (by simp [taken, WriterMessage.event?]) fun hd => .inl hd
  | drainEmpty hc hr => exact behind_move h (.inl rfl) rfl fun hd => by rw [hc]; exact hd
  | drainClosed hc hr hh => exact behind_move h (.inl rfl) rfl fun hd => by rw [hc]; exact hd
  | timeout hc => exact behind_move h (.inl rfl) rfl fun hd => by rw [hc]; exact hd
  | dropReceiver hc => exact behind_move h (.inr rfl) rfl fun hd => by cases hd
  | _ => exact behind_move h (.inl rfl) rfl fun hd => hd

theorem mem_of_tryRecv {w : Writer} {message : WriterMessage} {rx : Channel WriterMessage}
    (hr : w.rx.tryRecv = some (message, rx)) {m : WriterMessage} (hm : m ∈ rx.queue) :
    m ∈ w.rx.queue := by
  rw [(Channel.tryRecv_some hr).1]
  exact List.mem_cons_of_mem message hm

theorem mem_head {w : Writer} {message : WriterMessage} {rx : Channel WriterMessage}
    (hr : w.rx.tryRecv = some (message, rx)) : message ∈ w.rx.queue := by
  rw [(Channel.tryRecv_some hr).1]
  exact List.mem_cons_self

/-- The answers that `afterFlush` adds. -/
theorem afterFlush_acknowledged (w : Writer) (next : AfterFlush) {id : ℕ}
    (h : id ∈ (w.afterFlush next).acknowledged) :
    id ∈ w.acknowledged ∨ next = .finish (some id) := by
  rcases next with _ | _ | done
  · exact .inl h
  · exact .inl h
  · rcases List.mem_append.mp h with h | h
    · exact .inl h
    · rw [List.mem_singleton.mp h]
      exact .inr rfl

/-- No answer is taken back. -/
theorem effect_acknowledged {w w' : Writer} {a : Action} {id : ℕ} (he : Effect w a w')
    (h : id ∈ w.acknowledged) : id ∈ w'.acknowledged := by
  cases he with
  | @flush tx next hc =>
    rw [← tryFlush_acknowledged w tx] at h
    rcases next with _ | _ | done
    · exact h
    · exact h
    · exact List.mem_append_left _ h
  | drainShutdown hc hr => exact List.mem_append_left _ h
  | _ => exact h

/-- A step that adds neither messages nor answers uses an oneshot channel that was in use. -/
theorem mentions_of_keep {w w' : Writer} {id : ℕ} (h : w'.Mentions id)
    (hq : ∀ m ∈ w'.rx.queue, m ∈ w.rx.queue) (hc : w'.control.done? = some id → w.Mentions id)
    (hack : w'.acknowledged = w.acknowledged) : w.Mentions id := by
  rcases h with h | h | h
  · exact .inl (hq _ h)
  · exact hc h
  · exact .inr (.inr (hack ▸ h))

/-- Only a `shutdown()` call brings in its oneshot channel. -/
theorem mentions_step {w w' : Writer} {a : Action} {id : ℕ} (he : Effect w a w')
    (h : w'.Mentions id) : w.Mentions id ∨ a = .sendShutdown id := by
  cases he with
  | accept hs =>
    rcases h with h | h
    · rw [(Channel.trySend_ok hs).2.2.1] at h
      exact .inl (.inl (by simpa using h))
    · exact .inl (.inr h)
  | @acceptShutdown done rx hs =>
    rcases h with h | h
    · rw [(Channel.trySend_ok hs).2.2.1] at h
      rcases List.mem_append.mp h with h | h
      · exact .inl (.inl h)
      · rw [WriterMessage.shutdown.inj (List.mem_singleton.mp h)]
        exact .inr rfl
    · exact .inl (.inr h)
  | recvEvent hc hr hn =>
    refine .inl (mentions_of_keep h (fun _ => mem_of_tryRecv hr) (fun hd => ?_) rfl)
    rw [hn] at hd
    split_ifs at hd <;> cases hd
  | recvShutdown hc hr =>
    refine .inl (mentions_of_keep h (fun _ => mem_of_tryRecv hr) (fun hd => ?_) rfl)
    rw [← Option.some.inj hd]
    exact .inl (mem_head hr)
  | recvNone hc hr hh => exact .inl (mentions_of_keep h (fun _ hm => hm) (fun hd => by cases hd) rfl)
  | tick hc => exact .inl (mentions_of_keep h (fun _ hm => hm) (fun hd => by cases hd) rfl)
  | @flush tx next hc =>
    rcases h with h | h | h
    · rw [afterFlush_rx, tryFlush_rx] at h
      exact .inl (.inl h)
    · rcases (w.tryFlush tx).afterFlush_control next with ⟨hn, -⟩ | ⟨hn, -⟩ <;> rw [hn] at h <;> cases h
    · rcases afterFlush_acknowledged _ next h with h | rfl
      · rw [tryFlush_acknowledged] at h
        exact .inl (.inr (.inr h))
      · exact .inl (.inr (.inl (by rw [hc]; rfl)))
  | drainEvent hc hr =>
    exact .inl (mentions_of_keep h (fun _ => mem_of_tryRecv hr) (fun hd => .inr (.inl hd)) rfl)
  | drainShutdown hc hr =>
    rcases h with h | h | h
    · exact .inl (.inl (mem_of_tryRecv hr h))
    · exact .inl (.inr (.inl h))
    · rcases List.mem_append.mp h with h | h
      · exact .inl (.inr (.inr h))
      · rw [List.mem_singleton.mp h]
        exact .inl (.inl (mem_head hr))
  | drainEmpty hc hr | drainClosed hc hr hh | timeout hc =>
    refine .inl (mentions_of_keep h (fun _ hm => hm) (fun hd => .inr (.inl ?_)) rfl)
    rw [hc]
    exact hd
  | dropReceiver hc =>
    exact .inl (mentions_of_keep h (fun _ hm => by cases hm) (fun hd => by cases hd) rfl)
  | _ => exact .inl h

end Writer

/-! ### What an answered call finds in the table -/

namespace WriterClients

open Writer Transition

/-- The events are rows of the table, in order, behind those of earlier runs. -/
def InTable (stored : List ActiveModel) (w : Writer) (events : List ProxyEvent) : Prop :=
  RowsAfter stored w.written w.table ∧ events <+: w.written

variable {stored : List ActiveModel}

theorem InTable.mono {w w' : Writer} {events : List ProxyEvent} (h : InTable stored w events)
    (hcons : Conserved stored w') (hw : w.written <+: w'.written) : InTable stored w' events :=
  ⟨hcons.rows, h.2.trans hw⟩

/-- The messages of the calls stand behind the events accepted before the calls. -/
structure Ordered (stored : List ActiveModel) (s : WriterClients) : Prop where
  conserved : Conserved stored s.shared
  known : ∀ id, s.shared.Mentions id → id < s.calls.length
  before : ∀ id call, s.calls[id]? = some call →
    call.before <+: s.shared.accepted ∧ Behind s.shared id call.before

theorem ordered_spawn (cfg : RuntimeConfig) : Ordered stored (spawn cfg stored) where
  conserved := conserved_spawn cfg
  known id h := by rcases h with h | h | h <;> cases h
  before id call h := by cases h

/-- A step of the writer that brings in no new oneshot channel. -/
theorem ordered_writer {s : WriterClients} {w : Writer} {a : Action} (h : Ordered stored s)
    (he : Writer.Effect s.shared a w) (ha : ∀ id, a = .sendShutdown id → id < s.calls.length) :
    Ordered stored { s with shared := w } where
  conserved := conserved_step h.conserved he
  known id hm := by
    rcases mentions_step he hm with hm | hs
    · exact h.known id hm
    · exact ha id hs
  before id call hcall := by
    obtain ⟨hbefore, hbehind⟩ := h.before id call hcall
    exact ⟨hbefore.trans (effect_accepted he), behind_step h.conserved hbefore hbehind he⟩

/-- A step of a call that leaves the writer alone. -/
theorem ordered_stage {s : WriterClients} {id : ℕ} {call : ShutdownCall} (stage : ShutdownStage)
    (h : Ordered stored s) (hcall : s.calls[id]? = some call) :
    Ordered stored (s.update id s.shared { call with stage }) where
  conserved := h.conserved
  known j hm := by
    rw [Pool.update_length]
    exact h.known j hm
  before j c hc := by
    rcases Pool.update_calls hc with ⟨rfl, rfl⟩ | ⟨-, hc⟩
    · exact h.before j call hcall
    · exact h.before j c hc

theorem ordered_step {s s' : WriterClients} {a : ClientAction} (h : Ordered stored s) (he : Effect s a s') :
    Ordered stored s' := by
  cases he with
  | writer ha he => exact ordered_writer h he fun id hid => absurd hid (ha id)
  | start =>
    refine ⟨h.conserved, fun id hm => ?_, fun id call hcall => ?_⟩
    · have hlt := h.known id hm
      rw [Pool.enter, List.length_append]
      omega
    · rcases Pool.enter_calls hcall with hcall | ⟨rfl, rfl⟩
      · exact h.before id call hcall
      · refine ⟨List.prefix_refl _, behind_of_not_mentions fun hm => ?_⟩
        exact Nat.lt_irrefl _ (h.known _ hm)
  | @turn id call hcall hstage =>
    have hw := ordered_writer h (effect_sendShutdown s.shared id) fun j hj =>
      Action.sendShutdown.inj hj ▸ Pool.lt_of_calls hcall
    exact ordered_stage _ hw hcall
  | answered hcall hstage hack => exact ordered_stage _ h hcall
  | dropped hcall hstage hack hheld => exact ordered_stage _ h hcall

/-- Whoever got an answer, and may return with it, finds the events accepted before in the table. -/
def AnswersFlushed (stored : List ActiveModel) (s : WriterClients) : Prop :=
  ∀ id call, s.calls[id]? = some call → id ∈ s.shared.acknowledged ∨ call.stage = .returned true →
    InTable stored s.shared call.before

/-- A flush, if the step is one, succeeds. -/
def FlushesOk (s : WriterClients) (a : ClientAction) : Prop :=
  ∀ b, a = .writer b → FlushOk s.shared b

/-- A drain loop, if the step is one that takes the message of a call, finds no event in the buffer that
was accepted before the call. -/
def DrainsFlushed (s : WriterClients) (a : ClientAction) : Prop :=
  ∀ id rx call, a = .writer .drain → s.shared.rx.tryRecv = some (.shutdown id, rx) →
    s.calls[id]? = some call → call.before.length ≤ s.shared.written.length

theorem drainsFlushed_of_ne {s : WriterClients} {a : ClientAction} (h : a ≠ .writer .drain) :
    DrainsFlushed s a :=
  fun _ _ _ ha => absurd ha h

/-- No answer is new: what was in the table stays there. -/
theorem answers_keep {s t : WriterClients} (hP : AnswersFlushed stored s) (ht : Ordered stored t)
    (hw : s.shared.written <+: t.shared.written)
    (hold : ∀ id call, t.calls[id]? = some call →
      id ∈ t.shared.acknowledged ∨ call.stage = .returned true →
      ∃ call₀, s.calls[id]? = some call₀ ∧ call.before = call₀.before ∧
        (id ∈ s.shared.acknowledged ∨ call₀.stage = .returned true)) : AnswersFlushed stored t := by
  intro id call hcall hans
  obtain ⟨call₀, hcall₀, hb, hans₀⟩ := hold id call hcall hans
  rw [hb]
  exact (hP id call₀ hcall₀ hans₀).mono ht.conserved hw

theorem answers_writer {s : WriterClients} {w : Writer} (hP : AnswersFlushed stored s)
    (ht : Ordered stored { s with shared := w }) (hw : s.shared.written <+: w.written)
    (hack : w.acknowledged = s.shared.acknowledged) : AnswersFlushed stored { s with shared := w } :=
  answers_keep hP ht hw fun _ call hcall hans => ⟨call, hcall, rfl, hack ▸ hans⟩

/-- The answer after a flush that succeeded. -/
theorem answers_flush {s : WriterClients} {tx : Transaction} {next : AfterFlush}
    (hok : FlushOk s.shared (.flush tx)) (h : Ordered stored s) (hP : AnswersFlushed stored s)
    (hc : s.shared.control = .flushing next)
    (ht : Ordered stored { s with shared := (s.shared.tryFlush tx).afterFlush next }) :
    AnswersFlushed stored { s with shared := (s.shared.tryFlush tx).afterFlush next } := by
  intro id call hcall hans
  obtain ⟨w', hf⟩ := hok tx rfl
  have hwritten : ((s.shared.tryFlush tx).afterFlush next).written = s.shared.taken := by
    obtain ⟨models, -, rfl⟩ := flush_eq_ok hf
    rw [afterFlush_written, tryFlush_eq hf]
    rfl
  by_cases hnew : next = .finish (some id)
  · -- this call's message was received first, so all before it was taken
    have hheld : s.shared.control.done? = some id := by rw [hc, hnew]; rfl
    refine ⟨ht.conserved.rows, ?_⟩
    rw [hwritten]
    exact (h.before id call hcall).2.held hheld
  · have hans₀ : id ∈ s.shared.acknowledged ∨ call.stage = .returned true := by
      rcases hans with hans | hans
      · rw [← tryFlush_acknowledged s.shared tx]
        exact .inl ((afterFlush_acknowledged _ next hans).resolve_right hnew)
      · exact .inr hans
    refine (hP id call hcall hans₀).mono ht.conserved ?_
    rw [hwritten]
    exact List.prefix_append _ _

/-- An answer from a drain loop. -/
theorem answers_drain {s : WriterClients} {other : ℕ} {rx : Channel WriterMessage} (h : Ordered stored s)
    (hP : AnswersFlushed stored s) (hr : s.shared.rx.tryRecv = some (.shutdown other, rx)) :
    AnswersFlushed stored { s with shared := { s.shared with
      rx, acknowledged := s.shared.acknowledged ++ [other] } } ↔ DrainsFlushed s (.writer .drain) := by
  have hq := (Channel.tryRecv_some hr).1
  constructor
  · intro hP' id rx' call _ hr' hcall
    obtain ⟨hmsg, -⟩ := Prod.mk.inj (Option.some.inj (hr.symm.trans hr'))
    obtain rfl := WriterMessage.shutdown.inj hmsg
    exact (hP' other call hcall (.inl (by simp))).2.length_le
  · intro hC id call hcall hans
    by_cases hid : id = other
    · subst hid
      have hlen := hC id rx call rfl hr hcall
      have htaken : call.before <+: s.shared.taken := by
        simpa using (h.before id call hcall).2.queued [] rx.queue hq
      exact ⟨h.conserved.rows,
        List.prefix_of_prefix_length_le htaken (List.prefix_append _ _) hlen⟩
    · refine hP id call hcall ?_
      rcases hans with hans | hans
      · rcases List.mem_append.mp hans with hans | hans
        · exact .inl hans
        · exact absurd (List.mem_singleton.mp hans) hid
      · exact .inr hans

/-- A drain that takes no shutdown message answers nobody. -/
theorem drainsFlushed_of_tryRecv {s : WriterClients} {a : ClientAction}
    (h : ∀ id rx, s.shared.rx.tryRecv ≠ some (.shutdown id, rx)) : DrainsFlushed s a :=
  fun id rx _ _ hr => absurd hr (h id rx)

/-- **Step lemma**: an answer comes early exactly from a drain loop with events left in the buffer. -/
theorem answers_step {s t : WriterClients} {a : ClientAction} (hok : FlushesOk s a) (h : Ordered stored s)
    (hP : AnswersFlushed stored s) (he : Effect s a t) : AnswersFlushed stored t ↔ DrainsFlushed s a := by
  have ht := ordered_step h he
  cases he with
  | @writer a w ha he =>
    have hw := effect_written he
    cases he with
    | @flush tx next hc =>
      exact ⟨fun _ => drainsFlushed_of_ne (by simp), fun _ => answers_flush (hok _ rfl) h hP hc ht⟩
    | drainShutdown hc hr => exact answers_drain h hP hr
    | drainEvent hc hr =>
      exact ⟨fun _ => drainsFlushed_of_tryRecv (by simp [hr]), fun _ => answers_writer hP ht hw rfl⟩
    | drainEmpty hc hr =>
      exact ⟨fun _ => drainsFlushed_of_tryRecv (by simp [hr]), fun _ => answers_writer hP ht hw rfl⟩
    | drainClosed hc hr hh =>
      exact ⟨fun _ => drainsFlushed_of_tryRecv (by simp [hr]), fun _ => answers_writer hP ht hw rfl⟩
    | _ => exact ⟨fun _ => drainsFlushed_of_ne (by simp), fun _ => answers_writer hP ht hw rfl⟩
  | start =>
    refine ⟨fun _ => drainsFlushed_of_ne (by simp), fun _ => ?_⟩
    refine answers_keep hP ht (List.prefix_refl _) fun id call hcall hans => ?_
    rcases Pool.enter_calls hcall with hcall | ⟨rfl, rfl⟩
    · exact ⟨call, hcall, rfl, hans⟩
    · rcases hans with hans | hans
      · exact absurd (h.known _ (.inr (.inr hans))) (Nat.lt_irrefl _)
      · cases hans
  | @turn id call hcall hstage =>
    have he := effect_sendShutdown s.shared id
    have hack : (s.shared.sendShutdown id).acknowledged = s.shared.acknowledged := by
      generalize s.shared.sendShutdown id = w at he
      cases he <;> rfl
    refine ⟨fun _ => drainsFlushed_of_ne (by simp), fun _ => ?_⟩
    refine answers_keep hP ht (effect_written he) fun j c hc hans => ?_
    unfold turn at hans
    rw [Pool.update_shared, hack] at hans
    rcases Pool.update_calls hc with ⟨rfl, rfl⟩ | ⟨-, hc⟩
    · exact ⟨call, hcall, rfl, .inl (hans.resolve_right (turnStage_ne_returned s _ true))⟩
    · exact ⟨c, hc, rfl, hans⟩
  | @answered id call hcall hstage hack =>
    refine ⟨fun _ => drainsFlushed_of_ne (by simp), fun _ => ?_⟩
    refine answers_keep hP ht (List.prefix_refl _) fun j c hc hans => ?_
    rcases Pool.update_calls hc with ⟨rfl, rfl⟩ | ⟨-, hc⟩
    · exact ⟨call, hcall, rfl, .inl hack⟩
    · exact ⟨c, hc, rfl, hans⟩
  | @dropped id call hcall hstage hack hheld =>
    refine ⟨fun _ => drainsFlushed_of_ne (by simp), fun _ => ?_⟩
    refine answers_keep hP ht (List.prefix_refl _) fun j c hc hans => ?_
    rcases Pool.update_calls hc with ⟨rfl, rfl⟩ | ⟨-, hc⟩
    · exact absurd (hans.resolve_right (by simp)) hack
    · exact ⟨c, hc, rfl, hans⟩

/-- Every answer of a run finds its events in the table exactly when every drain step does. -/
theorem answersFlushed_iff {cfg : RuntimeConfig} {as : List ClientAction} {s : WriterClients}
    (hok : Along step FlushesOk (spawn cfg stored) as) (hrun : run step (spawn cfg stored) as = some s) :
    Always step (AnswersFlushed stored) (spawn cfg stored) as ↔
      Along step DrainsFlushed (spawn cfg stored) as :=
  always_iff_along (fun _ _ _ _ h hst => ordered_step h (step_effect hst))
    (fun _ _ _ hF h hP hst => answers_step hF h hP (step_effect hst)) (ordered_spawn cfg)
    (fun id call hcall => by cases hcall) hok hrun

instance (s : WriterClients) (a : ClientAction) : Decidable (FlushesOk s a) :=
  match a with
  | .writer b => decidable_of_iff (FlushOk s.shared b)
      ⟨fun h _ ha => ClientAction.writer.inj ha ▸ h, fun h => h b rfl⟩
  | .start | .turn _ | .await _ => .isTrue fun _ ha => by cases ha

/-- The call whose message a drain loop takes next. -/
def drainedCall (s : WriterClients) : ClientAction → Option ShutdownCall
  | .writer .drain =>
    match s.shared.rx.tryRecv with
    | some (.shutdown id, _) => s.calls[id]?
    | _ => none
  | _ => none

theorem drainsFlushed_iff {s : WriterClients} {a : ClientAction} :
    DrainsFlushed s a ↔ ∀ call ∈ drainedCall s a, call.before.length ≤ s.shared.written.length := by
  constructor
  · intro h call hcall
    unfold drainedCall at hcall
    split at hcall
    · split at hcall
      · rename_i id rx hr
        exact h id rx call rfl hr hcall
      · cases hcall
    · cases hcall
  · rintro h id rx call rfl hr hcall
    refine h call ?_
    unfold drainedCall
    rw [hr]
    exact hcall

instance (s : WriterClients) (a : ClientAction) : Decidable (DrainsFlushed s a) :=
  decidable_of_iff _ drainsFlushed_iff.symm

end WriterClients

open Transition Writer WriterClients

/-- **Shutdown acknowledges only flushed data**, except from a drain loop with events left in the buffer:
in every state of a run whose flushes succeed, the events accepted before a `shutdown()` call are rows
if the call has returned with an answer. -/
theorem shutdown_returns_flushed {cfg : RuntimeConfig} {stored : List ActiveModel} {as : List ClientAction}
    {s : WriterClients}
    (hrun : run WriterClients.step (WriterClients.spawn cfg stored) as = some s)
    (hok : Along WriterClients.step FlushesOk (WriterClients.spawn cfg stored) as)
    (hdrain : Along WriterClients.step DrainsFlushed (WriterClients.spawn cfg stored) as) :
    Always WriterClients.step (fun s => ∀ call ∈ s.calls, call.stage = .returned true →
      InTable stored s.shared call.before) (WriterClients.spawn cfg stored) as := by
  refine always_mono (fun s h call hcall hret => ?_) ((answersFlushed_iff hok hrun).mpr hdrain)
  obtain ⟨id, hid⟩ := List.mem_iff_getElem?.mp hcall
  exact h id call hid (.inr hret)

/-- One call after one event, up to its return. -/
def sampleCall : List ClientAction :=
  [.writer (.trySend sampleEvent), .start, .turn 0, .writer .recv, .writer .recv, .writer .drain,
    .writer .timeout, .writer (.flush ⟨.ok (), fun _ => .ok (), .ok ()⟩), .await 0]

theorem shutdown_returns_flushed_sample : ∃ s,
    run WriterClients.step (WriterClients.spawn sampleConfig []) sampleCall = some s ∧
      Always WriterClients.step (fun s => ∀ call ∈ s.calls, call.stage = .returned true →
        InTable [] s.shared call.before) (WriterClients.spawn sampleConfig []) sampleCall := by
  obtain ⟨s, hs⟩ : ∃ s,
      run WriterClients.step (WriterClients.spawn sampleConfig []) sampleCall = some s := ⟨_, rfl⟩
  exact ⟨s, hs, shutdown_returns_flushed hs (by decide) (by decide)⟩

/-- Two calls after one event: while `run` drains for the first, it answers the second, which returns
although the event is still in the buffer. -/
theorem second_call_unflushed : ∃ s before,
    run WriterClients.step (WriterClients.spawn sampleConfig [])
      [.writer (.trySend sampleEvent), .start, .start, .turn 0, .turn 1, .writer .recv, .writer .recv,
        .writer .drain, .await 1] = some s ∧
      s.calls[1]? = some ⟨.returned true, before⟩ ∧ before.length = 1 ∧ s.shared.table.length = 0 ∧
      ¬ InTable [] s.shared before := by
  refine ⟨_, _, rfl, rfl, rfl, rfl, fun h => ?_⟩
  exact absurd h.2.length_le (by decide)

end KidProxy
