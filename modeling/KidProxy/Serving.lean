import KidProxy.EventRow
import KidProxy.ExchangeRecord
import KidProxy.Lib.Components
import KidProxy.Observation
import KidProxy.WriterAccount
import Mathlib.Data.List.Nodup

/-!
# Serving — the exchanges of a runtime and its writer

The listener hands every request to a clone of the service, and with it of the writer handle.  `Serving`
runs any number of exchanges beside the writer: a step is one of an exchange, whose events go through
`try_send` and whose handle is dropped when its last holder is, or one of the writer and of the handles
outside.  What the writer sees is a run of its own (`run_simulates`), so that its accounting holds of the
exchanges: an event of theirs is a row, waits, was thrown away when the writer returned, or is counted as
dropped, and no two rows share a key.
-/

namespace KidProxy

open Transition Writer

/-! ### What a run of the writer does with the events offered to it -/

namespace Writer

/-- The event of a `try_send`. -/
def Action.offered : Action → List ProxyEvent
  | .trySend event => [event]
  | _ => []

/-- The events offered to the writer on the way are accepted or counted. -/
def Took (w w' : Writer) (events : List ProxyEvent) : Prop :=
  ∃ refused, w'.droppedEvents = w.droppedEvents + refused.length ∧
    (w'.accepted ++ refused).Perm (w.accepted ++ events)

theorem took_step {w w' : Writer} {a : Action} (he : Effect w a w') : Took w w' (Action.offered a) := by
  cases he with
  | accept hs => exact ⟨[], rfl, by rw [List.append_nil]; exact List.Perm.refl _⟩
  | @refuse event err hs => exact ⟨[event], rfl, List.Perm.refl _⟩
  | flush hc => exact ⟨[], by simp, by simp [Action.offered]⟩
  | _ => exact ⟨[], rfl, List.Perm.refl _⟩

theorem Took.trans {w w' w'' : Writer} {as bs : List ProxyEvent} (h : Took w w' as) (h' : Took w' w'' bs) :
    Took w w'' (as ++ bs) := by
  obtain ⟨refused, hdrop, hperm⟩ := h
  obtain ⟨refused', hdrop', hperm'⟩ := h'
  refine ⟨refused' ++ refused, ?_, ?_⟩
  · rw [hdrop', hdrop, List.length_append]
    omega
  · calc w''.accepted ++ (refused' ++ refused)
        = (w''.accepted ++ refused') ++ refused := (List.append_assoc _ _ _).symm
      List.Perm _ ((w'.accepted ++ bs) ++ refused) := hperm'.append_right _
      List.Perm _ ((w'.accepted ++ refused) ++ bs) := by
        rw [List.append_assoc, List.append_assoc]
        exact List.perm_append_comm.append_left _
      List.Perm _ ((w.accepted ++ as) ++ bs) := hperm.append_right _
      _ = w.accepted ++ (as ++ bs) := List.append_assoc _ _ _

theorem took_run {w w' : Writer} {as : List Action} (h : run step w as = some w') :
    Took w w' (as.flatMap Action.offered) := by
  induction as generalizing w with
  | nil =>
    obtain rfl : w = w' := Option.some.inj h
    exact ⟨[], rfl, by rw [List.flatMap_nil, List.append_nil]⟩
  | cons a as ih =>
    obtain ⟨u, hu, hw⟩ := run_cons_some h
    exact (took_step (step_effect hu)).trans (ih hw)

def Action.isClone : Action → Bool
  | .cloneHandle => true
  | _ => false

def Action.isDrop : Action → Bool
  | .dropHandle => true
  | _ => false

/-- The handles are counted. -/
theorem handles_step {w w' : Writer} {a : Action} (he : Effect w a w') :
    w'.handles + [a].countP Action.isDrop = w.handles + [a].countP Action.isClone := by
  cases he with
  | drop hh =>
    show w.handles - 1 + 1 = w.handles
    omega
  | flush hc => simp [Action.isDrop, Action.isClone]
  | _ => rfl

theorem handles_run {w w' : Writer} {as : List Action} (h : run step w as = some w') :
    w'.handles + as.countP Action.isDrop = w.handles + as.countP Action.isClone := by
  induction as generalizing w with
  | nil => obtain rfl : w = w' := Option.some.inj h; rfl
  | cons a as ih =>
    obtain ⟨u, hu, hw⟩ := run_cons_some h
    have hstep := handles_step (step_effect hu)
    have hrest := ih hw
    rw [← List.singleton_append, List.countP_append, List.countP_append]
    omega

/-- Nothing was sent and nothing refused. -/
theorem eq_of_took {w w' : Writer} (h : Took w w' []) (hpre : w.accepted <+: w'.accepted) :
    w'.accepted = w.accepted ∧ w'.droppedEvents = w.droppedEvents := by
  obtain ⟨refused, hdrop, hperm⟩ := h
  have hlen := hperm.length_eq
  rw [List.length_append, List.append_nil] at hlen
  have hle := hpre.length_le
  have heq := hpre.eq_of_length (by omega)
  exact ⟨heq.symm, by omega⟩

/-- A run of sends needs a handle, and leaves it. -/
theorem run_sends {w : Writer} (events : List ProxyEvent) (hh : events = [] ∨ w.handles ≠ 0) :
    ∃ w', run step w (events.map .trySend) = some w' ∧ w'.handles = w.handles := by
  induction events generalizing w with
  | nil => exact ⟨w, rfl, rfl⟩
  | cons event events ih =>
    have hh : w.handles ≠ 0 := hh.resolve_left (List.cons_ne_nil _ _)
    have hstep : w.step (.trySend event) = some (w.trySend event) := if_neg hh
    have hkept : (w.trySend event).handles = w.handles := by
      unfold Writer.trySend
      split <;> rfl
    obtain ⟨w', hw', hhandles⟩ := ih (w := w.trySend event) (.inr (by rwa [hkept]))
    refine ⟨w', ?_, hhandles.trans hkept⟩
    rw [List.map_cons, run_cons, hstep]
    exact hw'

/-- Without a drop of the receiver the writer does not return, and if it had, it writes nothing. -/
theorem keeps_run {stored : List ActiveModel} {w w' : Writer} {as : List Action}
    (hcons : Conserved stored w) (ha : ∀ a ∈ as, a ≠ .dropReceiver) (h : run step w as = some w') :
    Keeps w w' := by
  induction as generalizing w with
  | nil =>
    obtain rfl : w = w' := Option.some.inj h
    exact ⟨Iff.rfl, fun _ => ⟨rfl, rfl⟩⟩
  | cons a as ih =>
    obtain ⟨u, hu, hw⟩ := run_cons_some h
    have heff := step_effect hu
    have hone := keeps_step hcons (ha a List.mem_cons_self) heff
    have hrest := ih (conserved_step hcons heff) (fun b hb => ha b (List.mem_cons_of_mem a hb)) hw
    refine ⟨hrest.returned.trans hone.returned, fun hr => ?_⟩
    obtain ⟨hwritten, haccepted⟩ := hone.events hr
    obtain ⟨hwritten', haccepted'⟩ := hrest.events (hone.returned.mpr hr)
    exact ⟨hwritten'.trans hwritten, haccepted'.trans haccepted⟩

/-- The events that are on their way into the table; what `run` leaves behind is dropped with it. -/
def waiting (w : Writer) : List ProxyEvent :=
  if w.control = .returned then [] else w.buffer ++ w.queued

/-- The events that the step throws away: those left in the buffer and in the queue when `run` returns. -/
def discarded (w : Writer) : Action → List ProxyEvent
  | .dropReceiver => w.buffer ++ w.queued
  | _ => []

/-- The writer with the events `thrown` that it threw away. -/
structure Thrown (stored : List ActiveModel) (thrown : List ProxyEvent) (w : Writer) : Prop where
  conserved : Conserved stored w
  none : w.control ≠ .returned → thrown = []
  all : w.control = .returned → w.written ++ thrown = w.accepted

theorem Thrown.accepted {stored : List ActiveModel} {thrown : List ProxyEvent} {w : Writer}
    (h : Thrown stored thrown w) : w.written ++ w.waiting ++ thrown = w.accepted := by
  unfold waiting
  by_cases hc : w.control = .returned
  · rw [if_pos hc, List.append_nil]
    exact h.all hc
  · rw [if_neg hc, h.none hc, List.append_nil, ← List.append_assoc]
    exact h.conserved.conserved hc

theorem Thrown.keep {stored : List ActiveModel} {thrown : List ProxyEvent} {w w' : Writer}
    (h : Thrown stored thrown w) (hcons : Conserved stored w') (hk : Keeps w w') :
    Thrown stored thrown w' := by
  refine ⟨hcons, fun hc => h.none fun hr => hc (hk.returned.mpr hr), fun hc => ?_⟩
  have hr := hk.returned.mp hc
  obtain ⟨hwritten, haccepted⟩ := hk.events hr
  rw [hwritten, haccepted]
  exact h.all hr

theorem Thrown.drop {stored : List ActiveModel} {thrown : List ProxyEvent} {w w' : Writer}
    (h : Thrown stored thrown w) (he : Effect w .dropReceiver w') :
    Thrown stored (thrown ++ w.discarded .dropReceiver) w' := by
  have hcons := conserved_step h.conserved he
  cases he with
  | dropReceiver hc =>
    have hopen : w.control ≠ .returned := by simp [hc]
    refine ⟨hcons, fun hne => absurd rfl hne, fun _ => ?_⟩
    rw [h.none hopen, List.nil_append]
    show w.written ++ (w.buffer ++ w.queued) = w.accepted
    rw [← List.append_assoc]
    exact h.conserved.conserved hopen

/-- The key of an event. -/
def key (event : ProxyEvent) : String := event.eventId.toText

theorem keys_of_rows {events : List ProxyEvent} {rows : List ActiveModel} (h : Rows events rows) :
    rows.map ActiveModel.eventId = events.map key := by
  induction h with
  | nil => rfl
  | cons hrow hrest ih => rw [List.map_cons, List.map_cons, ih, eventId_of_row hrow]; rfl

end Writer

/-! ### What an exchange does to the writer -/

namespace Exchange

/-- A handle of the writer is held by the future of `handle` and then by the observed response body. -/
def holdsWriter (e : Exchange) : Bool :=
  match e.stage with
  | .running (.upstream _) | .running (.collecting ..) | .running (.answered ⟨_, _, _, .observed _⟩) => true
  | .running (.answered ⟨_, _, _, .generated _⟩) | .closed | .cancelled => false

/-- The calls between two states of an exchange: the new events, then the drop of the handle. -/
def writerCalls (t : Exchange) (sent : List ProxyEvent) (held : Bool) : List Action :=
  (t.shared.sent.drop sent.length).map .trySend ++ if held && !t.holdsWriter then [.dropHandle] else []

theorem offered_writerCalls (t : Exchange) (sent : List ProxyEvent) (held : Bool) :
    (t.writerCalls sent held).flatMap Action.offered = t.shared.sent.drop sent.length := by
  have hsend : ∀ events : List ProxyEvent,
      (events.map Action.trySend).flatMap Action.offered = events := by
    intro events
    rw [List.flatMap_map]
    exact List.flatMap_singleton' events
  unfold writerCalls
  rw [List.flatMap_append, hsend]
  split_ifs
  · exact List.append_nil _
  · exact List.append_nil _

theorem drops_writerCalls (t : Exchange) (sent : List ProxyEvent) (held : Bool) :
    (t.writerCalls sent held).countP Action.isDrop = (if held && !t.holdsWriter then 1 else 0) ∧
      (t.writerCalls sent held).countP Action.isClone = 0 := by
  have hdrop : ∀ events : List ProxyEvent, (events.map Action.trySend).countP Action.isDrop = 0 :=
    fun events => List.countP_eq_zero.mpr fun a ha => by
      obtain ⟨event, -, rfl⟩ := List.mem_map.mp ha
      exact Bool.false_ne_true
  have hclone : ∀ events : List ProxyEvent, (events.map Action.trySend).countP Action.isClone = 0 :=
    fun events => List.countP_eq_zero.mpr fun a ha => by
      obtain ⟨event, -, rfl⟩ := List.mem_map.mp ha
      exact Bool.false_ne_true
  unfold writerCalls
  rw [List.countP_append, List.countP_append, hdrop, hclone, Nat.zero_add, Nat.zero_add]
  split_ifs
  · exact ⟨rfl, rfl⟩
  · exact ⟨rfl, rfl⟩

/-- A handle that was given back is not taken again. -/
theorem holdsWriter_of_step [Glob] [Digest] {e t : Exchange} {a : ExchangeAction} (h : e.step a = some t)
    (ht : t.holdsWriter = true) : e.holdsWriter = true := by
  cases step_effect h with
  | pollRequest hb => exact ht
  | dropRequest hb => exact ht
  | upstream hst | collected hst | cancelUpstream hst | cancelCollecting hst =>
    unfold holdsWriter
    rw [hst]
  | @pollResponse response now hst =>
    obtain ⟨status, version, headers, body | body⟩ := response
    · cases ht
    · unfold holdsWriter
      rw [hst]
  | @advance response body inner hst hb =>
    obtain ⟨status, version, headers, served⟩ := response
    obtain rfl : served = .observed body := hb
    unfold holdsWriter
    rw [hst]
  | @dropResponse response now hst =>
    obtain ⟨status, version, headers, body | body⟩ := response
    · cases ht
    · cases ht

theorem Good.sent_length {e : Exchange} (h : Good e) : e.shared.sent.length ≤ 1 := by
  rcases h.sent with hs | ⟨-, event, answer, hs, -, -⟩
  · rw [hs]
    exact Nat.zero_le 1
  · rw [hs]
    exact Nat.le_refl 1

theorem Good.sent_cancelled {e : Exchange} (h : Good e) (hc : e.stage = .cancelled) : e.shared.sent = [] := by
  have hstage := h.stage
  rw [hc] at hstage
  cases hstage with
  | cancelled hx => exact hx.sent

/-- An exchange without a handle has sent what it sends. -/
theorem sent_of_step [Glob] [Digest] {e t : Exchange} {a : ExchangeAction} (hg : Good e)
    (h : e.step a = some t) (he : e.holdsWriter = false) : t.shared.sent = e.shared.sent := by
  cases step_effect h with
  | @pollRequest body now hb => exact (pollFrame_request (hg.request body hb) e.shared now).2.sent
  | @dropRequest body now hb =>
    exact congrArg SharedExchangeCapture.sent (drop_request (hg.request body hb) e.shared now)
  | cancelUpstream hst => rfl
  | cancelCollecting hst => rfl
  | upstream hst | collected hst =>
    unfold holdsWriter at he
    rw [hst] at he
    cases he
  | @pollResponse response now hst =>
    obtain ⟨status, version, headers, body | body⟩ := response
    · rfl
    · unfold holdsWriter at he
      rw [hst] at he
      cases he
  | @advance response body inner hst hb => rfl
  | @dropResponse response now hst =>
    obtain ⟨status, version, headers, body | body⟩ := response
    · rfl
    · unfold holdsWriter at he
      rw [hst] at he
      cases he

end Exchange

/-- The exchanges in the order in which their requests came in. -/
structure Serving where
  svc : ProxyService
  exchanges : List Exchange
  writer : Writer

inductive ServingAction
  | accept (req : Request Body) (startedAt : OffsetDateTime) (eventId connectionId : Uuid)
      (now : OffsetDateTime)
  | exchange (i : ℕ) (a : ExchangeAction)
  | writer (a : Action)

namespace Serving

variable [Net] [Glob] [Digest]

/-- The handles that exchanges hold. -/
def held (s : Serving) : ℕ := s.exchanges.countP Exchange.holdsWriter

/-- The runtime starts with one handle, that of the service. -/
def start (cfg : RuntimeConfig) (stored : List ActiveModel) : Serving := ⟨⟨cfg⟩, [], .spawn cfg stored⟩

/-- Actions of a handle, which takes one that no exchange holds. -/
def needsHandle : Action → Bool
  | .trySend _ | .sendShutdown _ | .cloneHandle | .dropHandle => true
  | .recv | .tick | .flush _ | .drain | .timeout | .dropReceiver => false

/-- What a step does to the writer. -/
def writerActions (s : Serving) : ServingAction → List Action
  | .accept req startedAt eventId connectionId now =>
    .cloneHandle :: (Exchange.init s.svc req startedAt eventId connectionId now).writerCalls [] true
  | .exchange i a =>
    match s.exchanges[i]? with
    | some e => match e.step a with
      | some t => t.writerCalls e.shared.sent e.holdsWriter
      | none => []
    | none => []
  | .writer a => [a]

/-- What a step does to the exchanges; `none` where the action is not possible. -/
def exchangesAfter (s : Serving) : ServingAction → Option (List Exchange)
  | .accept req startedAt eventId connectionId now =>
    if s.held < s.writer.handles then
      some (s.exchanges ++ [.init s.svc req startedAt eventId connectionId now])
    else none
  | .exchange i a => do
    let e ← s.exchanges[i]?
    let t ← e.step a
    some (s.exchanges.set i t)
  | .writer a =>
    -- only exchanges send, and a handle that one of them holds is not touched from outside
    if Action.isSend a || (needsHandle a && s.writer.handles ≤ s.held) then none else some s.exchanges

def step (s : Serving) (a : ServingAction) : Option Serving := do
  let exchanges ← s.exchangesAfter a
  let writer ← run Writer.step s.writer (s.writerActions a)
  some { s with exchanges, writer }

variable {s t : Serving} {cfg : RuntimeConfig} {stored : List ActiveModel}

/-- The effect of each action. -/
inductive Effect (s : Serving) : ServingAction → Serving → Prop
  | accept {req startedAt eventId connectionId now w} (hh : s.held < s.writer.handles)
      (hw : run Writer.step s.writer (.cloneHandle ::
        (Exchange.init s.svc req startedAt eventId connectionId now).writerCalls [] true) = some w) :
      Effect s (.accept req startedAt eventId connectionId now) { s with
        exchanges := s.exchanges ++ [.init s.svc req startedAt eventId connectionId now], writer := w }
  | exchange {i a e t w} (he : s.exchanges[i]? = some e) (ht : e.step a = some t)
      (hw : run Writer.step s.writer (t.writerCalls e.shared.sent e.holdsWriter) = some w) :
      Effect s (.exchange i a) { s with exchanges := s.exchanges.set i t, writer := w }
  | writer {a w} (hsend : Action.isSend a = false)
      (hh : needsHandle a = true → s.held < s.writer.handles) (hw : s.writer.step a = some w) :
      Effect s (.writer a) { s with writer := w }

/-- **Inversion**: a step has one of the effects. -/
theorem step_effect {a : ServingAction} (h : s.step a = some t) : Effect s a t := by
  obtain ⟨exchanges, hex, h⟩ := Option.bind_eq_some_iff.mp h
  obtain ⟨w, hw, h⟩ := Option.bind_eq_some_iff.mp h
  obtain rfl := Option.some.inj h
  cases a with
  | accept req startedAt eventId connectionId now =>
    simp only [exchangesAfter] at hex
    split_ifs at hex with hh
    obtain rfl := Option.some.inj hex
    exact .accept hh hw
  | exchange i a =>
    obtain ⟨e, he, hex⟩ := Option.bind_eq_some_iff.mp hex
    obtain ⟨u, hu, hex⟩ := Option.bind_eq_some_iff.mp hex
    obtain rfl := Option.some.inj hex
    simp only [writerActions, he, hu] at hw
    exact .exchange he hu hw
  | writer a =>
    simp only [exchangesAfter] at hex
    split_ifs at hex with hh
    obtain rfl := Option.some.inj hex
    obtain ⟨hsend, hneeds⟩ := not_or.mp (fun h => hh (Bool.or_eq_true_iff.mpr h))
    refine .writer (by simpa using hsend) (fun hn => ?_) ?_
    · by_contra hle
      exact hneeds (by simp [hn, not_lt.mp hle])
    · obtain ⟨v, hv, hnil⟩ := run_cons_some hw
      obtain rfl := Option.some.inj hnil
      exact hv

/-- The events that a step throws away. -/
def discarded (s : Serving) : ServingAction → List ProxyEvent
  | .writer a => s.writer.discarded a
  | .accept .. | .exchange .. => []

/-- What the writer sees of a step. -/
theorem step_writer {a : ServingAction} (h : s.step a = some t) :
    run Writer.step s.writer (s.writerActions a) = some t.writer := by
  obtain ⟨exchanges, -, h⟩ := Option.bind_eq_some_iff.mp h
  obtain ⟨w, hw, h⟩ := Option.bind_eq_some_iff.mp h
  obtain rfl := Option.some.inj h
  exact hw

/-- **Simulation**: a run of the exchanges and the writer is a run of the writer. -/
theorem run_writer {as : List ServingAction} (h : run step s as = some t) :
    run Writer.step s.writer (gathered step writerActions s as) = some t.writer := by
  have hstep : ∀ s a t, step s a = some t →
      run Writer.step s.writer (s.writerActions a) = some t.writer := fun _ _ _ => step_writer
  exact run_simulates hstep h

omit [Net] [Glob] [Digest] in
/-- An exchange sends and drops its handle. -/
theorem ne_dropReceiver_of_writerCalls {e : Exchange} {sent : List ProxyEvent} {held : Bool} {a : Action}
    (ha : a ∈ e.writerCalls sent held) : a ≠ .dropReceiver := by
  unfold Exchange.writerCalls at ha
  rcases List.mem_append.mp ha with hsend | hdrop
  · obtain ⟨event, -, rfl⟩ := List.mem_map.mp hsend
    exact fun h => nomatch h
  · split_ifs at hdrop
    · obtain rfl := List.mem_singleton.mp hdrop
      exact fun h => nomatch h
    · exact absurd hdrop List.not_mem_nil

theorem thrown_step {thrown : List ProxyEvent} {a : ServingAction} (h : Thrown stored thrown s.writer)
    (hs : s.step a = some t) : Thrown stored (thrown ++ s.discarded a) t.writer := by
  have hcons := conserved_run h.conserved (step_writer hs)
  have hquiet : (∀ b ∈ s.writerActions a, b ≠ .dropReceiver) → s.discarded a = [] →
      Thrown stored (thrown ++ s.discarded a) t.writer := fun hb hnil => by
    rw [hnil, List.append_nil]
    exact h.keep hcons (keeps_run h.conserved hb (step_writer hs))
  cases a with
  | accept req startedAt eventId connectionId now =>
    refine hquiet (fun b hb => ?_) rfl
    rcases List.mem_cons.mp hb with rfl | hb
    · exact fun h => nomatch h
    · exact ne_dropReceiver_of_writerCalls hb
  | exchange i a =>
    refine hquiet (fun b hb => ?_) rfl
    cases step_effect hs with
    | exchange he ht hw =>
      simp only [writerActions, he, ht] at hb
      exact ne_dropReceiver_of_writerCalls hb
  | writer a =>
    by_cases ha : a = .dropReceiver
    · subst ha
      cases step_effect hs with
      | writer hsend hh hw => exact h.drop (Writer.step_effect hw)
    · refine hquiet (fun b hb => ?_) ?_
      · obtain rfl := List.mem_singleton.mp hb
        exact ha
      · cases a with
        | dropReceiver => exact absurd rfl ha
        | _ => rfl

theorem thrown_run {as : List ServingAction} (h : run step (start cfg stored) as = some s) :
    Thrown stored (gathered step discarded (start cfg stored) as) s.writer := by
  have hstart : Thrown stored [] (start cfg stored).writer :=
    ⟨conserved_spawn cfg, fun _ => rfl, fun hc => nomatch hc⟩
  have hrun := run_gathered (P := fun l s => Thrown stored l s.writer)
    (fun _ _ _ _ hthrown hst => thrown_step hthrown hst) hstart h
  rwa [List.nil_append] at hrun

theorem svc_run {as : List ServingAction} (h : run step (start cfg stored) as = some s) : s.svc = ⟨cfg⟩ := by
  refine run_invariant (P := fun s => s.svc = ⟨cfg⟩) (fun s a t hs hst => ?_) rfl h
  cases step_effect hst with
  | accept hh hw => exact hs
  | exchange he ht hw => exact hs
  | writer hsend hh hw => exact hs

/-! ### The exchanges are runs of their own -/

/-- An exchange of this identifier: a run that started with its request. -/
def Ran (svc : ProxyService) (eventId : Uuid) (e : Exchange) : Prop :=
  ∃ req startedAt connectionId now bs,
    run Exchange.step (.init svc req startedAt eventId connectionId now) bs = some e

theorem Ran.good {svc : ProxyService} {eventId : Uuid} {e : Exchange} (h : Ran svc eventId e) :
    Exchange.Good e := by
  obtain ⟨req, startedAt, connectionId, now, bs, hrun⟩ := h
  exact Exchange.good_run hrun

theorem Ran.step {svc : ProxyService} {eventId : Uuid} {e u : Exchange} {a : ExchangeAction}
    (h : Ran svc eventId e) (hs : e.step a = some u) : Ran svc eventId u := by
  obtain ⟨req, startedAt, connectionId, now, bs, hrun⟩ := h
  refine ⟨req, startedAt, connectionId, now, bs ++ [a], run_append_some hrun ?_⟩
  rw [run_cons, hs]
  rfl

/-- Its events carry the identifier. -/
theorem Ran.eventId {svc : ProxyService} {eventId : Uuid} {e : Exchange} (h : Ran svc eventId e) :
    ∀ event ∈ e.shared.sent, event.eventId = eventId := by
  obtain ⟨req, startedAt, connectionId, now, bs, hrun⟩ := h
  intro event hevent
  obtain ⟨outcome, endedAt, rb, sb, rfl, -⟩ := (Exchange.story_run hrun).told event hevent
  cases outcome with
  | rejected status err => rfl
  | failed err => rfl
  | handed head t err => cases err <;> rfl

/-- The identifiers of the requests that came in. -/
def opened (as : List ServingAction) : List Uuid :=
  as.filterMap fun
    | .accept _ _ eventId _ _ => some eventId
    | _ => none

/-- The events of all exchanges. -/
def sent (s : Serving) : List ProxyEvent := s.exchanges.flatMap fun e => e.shared.sent

/-- The invariant, over the run `as`. -/
structure Accounted (as : List ServingAction) (s : Serving) : Prop where
  ran : List.Forall₂ (Ran s.svc) (opened as) s.exchanges
  took : ∃ refused, refused.length = s.writer.droppedEvents ∧ s.sent.Perm (s.writer.accepted ++ refused)
  held : s.held ≤ s.writer.handles

theorem accounted_start (cfg : RuntimeConfig) (stored : List ActiveModel) : Accounted [] (start cfg stored) :=
  ⟨.nil, ⟨[], rfl, List.Perm.refl _⟩, Nat.zero_le _⟩

omit [Net] [Glob] [Digest] in
/-- New events are added on both sides. -/
theorem took_more {exchanges : List Exchange} {w : Writer} {new : List ProxyEvent}
    (hold : ∃ refused, refused.length = s.writer.droppedEvents ∧ s.sent.Perm (s.writer.accepted ++ refused))
    (hsent : (exchanges.flatMap fun e => e.shared.sent).Perm (s.sent ++ new))
    (hw : Took s.writer w new) : ∃ refused, refused.length = w.droppedEvents ∧
      (exchanges.flatMap fun e => e.shared.sent).Perm (w.accepted ++ refused) := by
  obtain ⟨refused, hlen, hperm⟩ := hold
  obtain ⟨refused', hlen', hperm'⟩ := hw
  refine ⟨refused' ++ refused, ?_, ?_⟩
  · rw [List.length_append, hlen, hlen']
    omega
  · calc exchanges.flatMap (fun e => e.shared.sent)
      List.Perm _ (s.sent ++ new) := hsent
      List.Perm _ ((s.writer.accepted ++ refused) ++ new) := hperm.append_right _
      List.Perm _ ((s.writer.accepted ++ new) ++ refused) := by
        rw [List.append_assoc, List.append_assoc]
        exact List.perm_append_comm.append_left _
      List.Perm _ ((w.accepted ++ refused') ++ refused) := hperm'.symm.append_right _
      _ = w.accepted ++ (refused' ++ refused) := List.append_assoc _ _ _

/-- **Step lemma**. -/
theorem accounted_step {as : List ServingAction} {a : ServingAction} (h : Accounted as s)
    (hs : s.step a = some t) : Accounted (as ++ [a]) t := by
  have hopened : opened (as ++ [a]) = opened as ++ opened [a] := List.filterMap_append
  cases step_effect hs with
  | @accept req startedAt eventId connectionId now w hh hw =>
    generalize he : Exchange.init s.svc req startedAt eventId connectionId now = e at hw ⊢
    have hran : Ran s.svc eventId e := ⟨req, startedAt, connectionId, now, [], by rw [he]; rfl⟩
    have htook := took_run hw
    have hhandles := handles_run hw
    obtain ⟨hdrop, hclone⟩ := e.drops_writerCalls [] true
    rw [List.flatMap_cons, e.offered_writerCalls] at htook
    rw [List.countP_cons, List.countP_cons, hdrop, hclone] at hhandles
    refine ⟨?_, took_more h.took (List.Perm.of_eq ?_) htook, ?_⟩
    · rw [hopened]
      exact List.rel_append h.ran (.cons hran .nil)
    · rw [List.flatMap_append, List.flatMap_singleton]
      rfl
    · show (s.exchanges ++ [e]).countP Exchange.holdsWriter ≤ w.handles
      have hheld : s.exchanges.countP Exchange.holdsWriter ≤ s.writer.handles := h.held
      rw [List.countP_append, List.countP_singleton]
      cases hholds : e.holdsWriter <;> simp [hholds, Action.isDrop, Action.isClone] at hhandles ⊢ <;> omega
  | @exchange i a e u w he hu hw =>
    obtain ⟨k, -, hk⟩ := Components.forall₂_of_mem h.ran (List.mem_of_getElem? he)
    have htook := took_run hw
    have hhandles := handles_run hw
    obtain ⟨hdrop, hclone⟩ := u.drops_writerCalls e.shared.sent e.holdsWriter
    rw [u.offered_writerCalls] at htook
    rw [hdrop, hclone] at hhandles
    refine ⟨?_, took_more h.took (Components.flatMap_set_perm he ?_) htook, ?_⟩
    · rw [hopened, show opened [.exchange i a] = [] from rfl, List.append_nil]
      exact Components.forall₂_set h.ran he fun k hk => hk.step hu
    · obtain ⟨new, hnew⟩ := Exchange.sent_step hk.good hu
      rw [← hnew, List.drop_left]
    · show (s.exchanges.set i u).countP Exchange.holdsWriter ≤ w.handles
      have hheld : s.exchanges.countP Exchange.holdsWriter ≤ s.writer.handles := h.held
      have hcount := Components.countP_set (b := u) (p := Exchange.holdsWriter) he
      have hkeeps := Exchange.holdsWriter_of_step hu
      cases hu' : u.holdsWriter <;> cases he' : e.holdsWriter <;>
        simp [hu', he'] at hhandles hcount hkeeps <;> omega
  | @writer a w hsend hh hw =>
    have htook := took_step (Writer.step_effect hw)
    have hhandles := handles_step (Writer.step_effect hw)
    have hnone : Action.offered a = [] := by
      cases a with
      | trySend event => cases hsend
      | _ => rfl
    rw [hnone] at htook
    refine ⟨?_, ?_, ?_⟩
    · rw [hopened, show opened [.writer a] = [] from rfl, List.append_nil]
      exact h.ran
    · refine took_more h.took (List.Perm.of_eq ?_) htook
      rw [List.append_nil]
      rfl
    · have hheld := h.held
      show s.held ≤ w.handles
      cases a with
      | dropHandle =>
        have := hh rfl
        simp [Action.isDrop, Action.isClone] at hhandles
        omega
      | cloneHandle =>
        simp [Action.isDrop, Action.isClone] at hhandles
        omega
      | _ =>
        simp [Action.isDrop, Action.isClone] at hhandles
        omega

theorem accounted_run {as : List ServingAction} (h : run step (start cfg stored) as = some s) :
    Accounted as s :=
  run_history (fun _ _ _ _ => accounted_step) (accounted_start cfg stored) h

/-! ### Keys -/

/-- The rows of earlier runs and the requests that came in all have different identifiers. -/
def FreshIds (stored : List ActiveModel) (as : List ServingAction) : Prop :=
  (stored.map ActiveModel.eventId ++ (opened as).map Uuid.toText).Nodup

instance (stored : List ActiveModel) (as : List ServingAction) : Decidable (FreshIds stored as) :=
  inferInstanceAs (Decidable (stored.map ActiveModel.eventId ++ (opened as).map Uuid.toText).Nodup)

/-- The keys of the events of all exchanges are new and different where the identifiers are. -/
theorem keys_nodup {as : List ServingAction} (h : Accounted as s) (hids : FreshIds stored as) :
    (stored.map ActiveModel.eventId ++ s.writer.accepted.map key).Nodup := by
  obtain ⟨refused, -, hperm⟩ := h.took
  have hsub : (s.sent.map ProxyEvent.eventId).Sublist (opened as) := by
    exact Components.map_flatMap_sublist h.ran (fun k e hk => hk.good.sent_length) fun k e hk => hk.eventId
  have hkeys : (s.sent.map key).Sublist ((opened as).map Uuid.toText) := by
    have hmap := hsub.map Uuid.toText
    rwa [List.map_map] at hmap
  have hsent : (stored.map ActiveModel.eventId ++ s.sent.map key).Nodup :=
    hids.sublist (hkeys.append_left _)
  have hall := ((hperm.map key).append_left (stored.map ActiveModel.eventId)).nodup_iff.mp hsent
  rw [List.map_append, ← List.append_assoc] at hall
  exact (List.nodup_append.mp hall).1

/-! ### Handles -/

omit [Net] in
/-- The writer never stands in the way of an exchange. -/
theorem run_writerCalls {w : Writer} {e u : Exchange} {a : ExchangeAction} (hg : Exchange.Good e)
    (hu : e.step a = some u) (hh : e.holdsWriter = true → w.handles ≠ 0) :
    ∃ w', run Writer.step w (u.writerCalls e.shared.sent e.holdsWriter) = some w' := by
  obtain ⟨w', hw', hhandles⟩ := run_sends (w := w) (u.shared.sent.drop e.shared.sent.length) (by
    cases he : e.holdsWriter with
    | false => exact .inl (by rw [Exchange.sent_of_step hg hu he, List.drop_length])
    | true => exact .inr (hh he))
  unfold Exchange.writerCalls
  by_cases hdrop : (e.holdsWriter && !u.holdsWriter) = true
  · have hne : w'.handles ≠ 0 := by
      rw [hhandles]
      exact hh (Bool.and_eq_true_iff.mp hdrop).1
    rw [if_pos hdrop, run_append, hw']
    exact ⟨_, by rw [Option.bind_some, run_cons, Writer.step, if_neg hne]; rfl⟩
  · rw [if_neg hdrop, List.append_nil]
    exact ⟨w', hw'⟩

/-- Nobody holds a handle any more, and these are the events so far. -/
structure Silent (sent accepted : List ProxyEvent) (dropped : ℕ) (s : Serving) : Prop where
  good : ∀ e ∈ s.exchanges, Exchange.Good e
  idle : ∀ e ∈ s.exchanges, e.holdsWriter = false
  handles : s.writer.handles = 0
  sent_eq : s.sent = sent
  accepted_eq : s.writer.accepted = accepted
  dropped_eq : s.writer.droppedEvents = dropped

theorem silent_step {sent accepted : List ProxyEvent} {dropped : ℕ} {a : ServingAction}
    (h : Silent sent accepted dropped s) (hs : s.step a = some t) : Silent sent accepted dropped t := by
  cases step_effect hs with
  | @accept req startedAt eventId connectionId now w hh hw =>
    rw [h.handles] at hh
    exact absurd hh (Nat.not_lt_zero _)
  | @exchange i a e u w he hu hw =>
    have hmem := List.mem_of_getElem? he
    have hidle := h.idle e hmem
    have hsent := Exchange.sent_of_step (h.good e hmem) hu hidle
    have hnil : u.writerCalls e.shared.sent e.holdsWriter = [] := by
      unfold Exchange.writerCalls
      rw [hsent, hidle, List.drop_length]
      rfl
    rw [hnil] at hw
    obtain rfl := Option.some.inj hw
    refine ⟨fun e' he' => ?_, fun e' he' => ?_, h.handles, ?_, h.accepted_eq, h.dropped_eq⟩
    · rcases List.mem_or_eq_of_mem_set he' with hold | rfl
      · exact h.good e' hold
      · exact Exchange.good_step (h.good e hmem) hu
    · rcases List.mem_or_eq_of_mem_set he' with hold | rfl
      · exact h.idle e' hold
      · by_contra hholds
        have := Exchange.holdsWriter_of_step hu (by simpa using hholds)
        rw [hidle] at this
        cases this
    · rw [← h.sent_eq]
      exact Components.flatMap_set_eq he hsent
  | @writer a w hsend hh hw =>
    have hneeds : needsHandle a = false := by
      by_contra hn
      have hlt := hh (by simpa using hn)
      rw [h.handles] at hlt
      exact absurd hlt (Nat.not_lt_zero _)
    have heff := Writer.step_effect hw
    have hhandles := handles_step heff
    have htook := took_step heff
    have hquiet : Action.offered a = [] ∧ [a].countP Action.isDrop = 0 ∧ [a].countP Action.isClone = 0 := by
      cases a with
      | trySend _ | sendShutdown _ | cloneHandle | dropHandle => cases hneeds
      | _ => exact ⟨rfl, rfl, rfl⟩
    rw [hquiet.1] at htook
    rw [hquiet.2.1, hquiet.2.2, h.handles] at hhandles
    obtain ⟨hacc, hdrop⟩ := eq_of_took htook (effect_accepted heff)
    exact ⟨h.good, h.idle, hhandles, h.sent_eq, hacc.trans h.accepted_eq, hdrop.trans h.dropped_eq⟩

/-! ### A clean stop -/

/-- The writer receives a shutdown message when the exchanges are as in `s`, drains, succeeds in the final
flush and returns, while the exchanges go on. -/
inductive CleanStop (cfg : RuntimeConfig) (stored : List ActiveModel) (s u : Serving) :
    List ServingAction → Prop
  | mk {bs cs ds : List ServingAction} {tx : Transaction} {p q : Serving} {v : Writer} {done : ℕ}
      (before : run step (start cfg stored) bs = some s) (received : s.step (.writer .recv) = some p)
      (message : p.writer.control = .draining done) (drained : run step p cs = some q)
      (final : q.writer.control = .flushing (.finish (some done))) (flushed : q.writer.flush tx = .ok v)
      (after : run step q (.writer (.flush tx) :: ds) = some u)
      (returned : u.writer.control = .returned) :
      CleanStop cfg stored s u (bs ++ .writer .recv :: (cs ++ .writer (.flush tx) :: ds))

/-- For the writer it is a clean shutdown. -/
theorem CleanStop.shutdown {u : Serving} {as : List ServingAction} (h : CleanStop cfg stored s u as) :
    ∃ bs, CleanShutdown cfg stored s.writer u.writer bs := by
  obtain ⟨before, received, message, drained, final, flushed, after, returned⟩ := h
  have hrecv := step_writer received
  have hafter := run_writer after
  obtain ⟨_, hq, hrest⟩ := run_cons_some after
  rw [gathered, hq] at hafter
  obtain ⟨_, hrecv, hnil⟩ := run_cons_some hrecv
  obtain rfl := Option.some.inj hnil
  exact ⟨_, .mk (run_writer before) hrecv message (run_writer drained) final flushed hafter returned⟩

theorem CleanStop.before {u : Serving} {as : List ServingAction} (h : CleanStop cfg stored s u as) :
    ∃ bs, run step (start cfg stored) bs = some s := by
  obtain ⟨before, -, -, -, -, -, -, -⟩ := h
  exact ⟨_, before⟩

theorem CleanStop.run {u : Serving} {as : List ServingAction} (h : CleanStop cfg stored s u as) :
    run step (start cfg stored) as = some u := by
  obtain ⟨before, received, message, drained, final, flushed, after, returned⟩ := h
  refine run_append_some before ?_
  rw [run_cons, received]
  exact run_append_some drained after

/-- What the writer accepted before the message is in the table in the end. -/
theorem CleanStop.row_of_accepted {u : Serving} {as : List ServingAction} (h : CleanStop cfg stored s u as)
    {event : ProxyEvent} (hacc : event ∈ s.writer.accepted) :
    ∃ row ∈ u.writer.table, eventToActiveModel event = .ok row := by
  obtain ⟨bs, hshut⟩ := h.shutdown
  obtain ⟨rows, htable, hrows⟩ := (conserved_run (conserved_spawn cfg) hshut.run).rows
  obtain ⟨row, hrow, hmodel⟩ :=
    Components.forall₂_of_mem hrows.flip (hshut.accepted_written.subset hacc)
  exact ⟨row, htable ▸ List.mem_append_right stored hrow, hmodel⟩

end Serving

/-! ### The exchanges and the table -/

section Runs

open Serving

variable [Net] [Glob] [Digest] {cfg : RuntimeConfig} {stored : List ActiveModel} {as : List ServingAction}
  {s : Serving}

/-- **End to end**: over every interleaving of exchanges and writer steps, a closed exchange has sent one
event, a cancelled one none, and the events of all exchanges are, each once, those of the rows added to the
table, those that wait in the buffer and in the queue, those that were in them when the writer returned, and
those counted as dropped. -/
theorem exchanges_accounted (hrun : run Serving.step (start cfg stored) as = some s) :
    (∀ e ∈ s.exchanges, e.shared.sent.length ≤ 1 ∧ (e.stage = .closed → e.shared.sent.length = 1) ∧
      (e.stage = .cancelled → e.shared.sent = [])) ∧
    ∃ written refused, RowsAfter stored written s.writer.table ∧
      refused.length = s.writer.droppedEvents ∧
      s.sent.Perm (written ++ s.writer.waiting ++
        gathered Serving.step Serving.discarded (start cfg stored) as ++ refused) := by
  have hacc := accounted_run hrun
  have hthrown := thrown_run hrun
  constructor
  · intro e he
    obtain ⟨k, -, hk⟩ := Components.forall₂_of_mem hacc.ran he
    refine ⟨hk.good.sent_length, fun hc => ?_, fun hc => hk.good.sent_cancelled hc⟩
    obtain ⟨event, hsent⟩ := hk.good.sent_closed hc
    rw [hsent]
    rfl
  · obtain ⟨refused, hlen, hperm⟩ := hacc.took
    refine ⟨s.writer.written, refused, hthrown.conserved.rows, hlen, ?_⟩
    rw [hthrown.accepted]
    exact hperm

omit [Net] [Glob] [Digest] in
/-- The keys of the table: those that were stored before, and those of the events written. -/
theorem keys_table {w : Writer} (hcons : Conserved stored w) :
    w.table.map ActiveModel.eventId = stored.map ActiveModel.eventId ++ w.written.map key := by
  obtain ⟨rows, htable, hrows⟩ := hcons.rows
  rw [htable, List.map_append, keys_of_rows hrows]

theorem nodup_table_keys (hrun : run Serving.step (start cfg stored) as = some s)
    (hids : FreshIds stored as) :
    (s.writer.table.map ActiveModel.eventId ++ s.writer.buffer.map key).Nodup := by
  have hcons : Conserved stored s.writer := conserved_run (conserved_spawn cfg) (run_writer hrun)
  rw [keys_table hcons, List.append_assoc, ← List.map_append]
  exact (keys_nodup (accounted_run hrun) hids).sublist ((hcons.taken.sublist.map key).append_left _)

/-- **No key is used twice**: where the requests got identifiers that differ from each other and from those
of the rows stored before, the rows of the table and the events of the buffer, which the next flush inserts,
all have different primary keys; so do the events that still wait in the queue. -/
theorem keys_distinct (hrun : run Serving.step (start cfg stored) as = some s) (hids : FreshIds stored as) :
    (s.writer.table.map ActiveModel.eventId ++ s.writer.buffer.map key).Nodup ∧
      (s.writer.control ≠ .returned →
        (s.writer.table.map ActiveModel.eventId ++ s.writer.buffer.map key ++
          s.writer.queued.map key).Nodup) := by
  refine ⟨nodup_table_keys hrun hids, fun hc => ?_⟩
  have hcons : Conserved stored s.writer := conserved_run (conserved_spawn cfg) (run_writer hrun)
  rw [keys_table hcons, List.append_assoc, List.append_assoc, ← List.map_append, ← List.map_append,
    ← List.append_assoc]
  show (stored.map ActiveModel.eventId ++ (s.writer.taken ++ s.writer.queued).map key).Nodup
  rw [hcons.conserved hc]
  exact keys_nodup (accounted_run hrun) hids

/-- **The channel closes last**: no step of an exchange waits for the writer, and once no handle is left,
so that the writer leaves its loop, no exchange sends anything in any run from there. -/
theorem channel_closes_last (hrun : run Serving.step (start cfg stored) as = some s) :
    (∀ i e a u, s.exchanges[i]? = some e → e.step a = some u →
      ∃ t, s.step (.exchange i a) = some t ∧ t.exchanges = s.exchanges.set i u) ∧
    (s.writer.handles = 0 → ∀ bs t, run Serving.step s bs = some t →
      t.sent = s.sent ∧ t.writer.accepted = s.writer.accepted ∧
        t.writer.droppedEvents = s.writer.droppedEvents) := by
  have hacc := accounted_run hrun
  have hgood : ∀ e ∈ s.exchanges, Exchange.Good e := fun e he => by
    obtain ⟨k, -, hk⟩ := Components.forall₂_of_mem hacc.ran he
    exact hk.good
  constructor
  · intro i e a u he hu
    have hmem := List.mem_of_getElem? he
    have hheld := hacc.held
    obtain ⟨w, hw⟩ := run_writerCalls (w := s.writer) (hgood e hmem) hu fun hholds => by
      have hpos : 0 < s.held := Components.countP_pos he hholds
      omega
    have hex : s.exchangesAfter (.exchange i a) = some (s.exchanges.set i u) := by
      simp only [exchangesAfter, he, hu, Option.bind_eq_bind, Option.bind_some]
    have hactions : s.writerActions (.exchange i a) = u.writerCalls e.shared.sent e.holdsWriter := by
      simp only [writerActions, he, hu]
    refine ⟨{ s with exchanges := s.exchanges.set i u, writer := w }, ?_, rfl⟩
    unfold Serving.step
    rw [hex, hactions, hw]
    rfl
  · intro hh bs t hbs
    have hidle : ∀ e ∈ s.exchanges, e.holdsWriter = false := fun e he => by
      have hheld := hacc.held
      rw [hh] at hheld
      have hzero := List.countP_eq_zero.mp (Nat.le_zero.mp hheld) e he
      simpa using hzero
    have hsilent := run_invariant (fun _ _ _ => silent_step)
      (⟨hgood, hidle, hh, rfl, rfl, rfl⟩ :
        Silent s.sent s.writer.accepted s.writer.droppedEvents s) hbs
    exact ⟨hsilent.sent_eq, hsilent.accepted_eq, hsilent.dropped_eq⟩

/-- **A clean stop keeps the log**: every event that an exchange had sent when the writer received the
shutdown message is a row at the end, or was counted as dropped. -/
theorem cleanStop_keeps {u : Serving} (h : CleanStop cfg stored s u as) :
    ∃ refused : List ProxyEvent, refused.length = s.writer.droppedEvents ∧
      ∀ e ∈ s.exchanges, ∀ event ∈ e.shared.sent, event ∈ refused ∨
        ∃ row ∈ u.writer.table, eventToActiveModel event = .ok row := by
  obtain ⟨bs, hbefore⟩ := h.before
  obtain ⟨refused, hlen, hperm⟩ := (accounted_run hbefore).took
  refine ⟨refused, hlen, fun e he event hevent => ?_⟩
  have hmem : event ∈ s.sent := List.mem_flatMap.mpr ⟨e, he, hevent⟩
  rcases List.mem_append.mp (hperm.mem_iff.mp hmem) with hacc | href
  · exact .inr (h.row_of_accepted hacc)
  · exact .inl href

end Runs

/-- One request, answered with an empty 204 that the client reads and drops. -/
def sampleVisit : List ServingAction :=
  [.accept sampleRequest sampleTime ⟨1⟩ ⟨2⟩ sampleTime, .exchange 0 sampleUpstream,
    .exchange 0 (.pollResponse sampleTime), .exchange 0 (.dropResponse sampleTime)]

def sampleServing (as : List ServingAction) : Option Serving :=
  let _ := sampleNet; let _ := sampleGlob; let _ := sampleDigest
  run Serving.step (Serving.start sampleConfig []) as

theorem exchanges_accounted_sample : ∃ s e, sampleServing sampleVisit = some s ∧ s.exchanges = [e] ∧
    e.shared.sent.length = 1 := by
  obtain ⟨s, e, hrun, hex, hclosed⟩ : ∃ s e, sampleServing sampleVisit = some s ∧ s.exchanges = [e] ∧
      e.stage = .closed := ⟨_, _, rfl, rfl, rfl⟩
  have h := @exchanges_accounted sampleNet sampleGlob sampleDigest _ _ _ _ hrun
  exact ⟨s, e, hrun, hex, (h.1 e (hex ▸ List.mem_singleton.mpr rfl)).2.1 hclosed⟩

/-- The same with a shutdown message behind the event. -/
def sampleStop : List ServingAction :=
  (sampleVisit ++ [.writer (.sendShutdown 0), .writer .recv]) ++ .writer .recv ::
    ([.writer .drain, .writer .timeout] ++
      .writer (.flush ⟨.ok (), fun _ => .ok (), .ok ()⟩) :: [.writer .dropReceiver])

theorem keys_distinct_sample : ∃ s, sampleServing sampleStop = some s ∧
    (s.writer.table.map ActiveModel.eventId).Nodup := by
  obtain ⟨s, hrun⟩ : ∃ s, sampleServing sampleStop = some s := ⟨_, rfl⟩
  have h := @keys_distinct sampleNet sampleGlob sampleDigest _ _ _ _ hrun (by decide)
  exact ⟨s, hrun, (List.nodup_append.mp h.1).1⟩

theorem channel_closes_last_sample : ∃ s, sampleServing (sampleVisit ++ [.writer .dropHandle]) = some s ∧
    s.writer.handles = 0 ∧ ∀ bs t, @run _ _ (@Serving.step sampleNet sampleGlob sampleDigest) s bs = some t →
      t.sent = s.sent := by
  obtain ⟨s, hrun, hh⟩ : ∃ s, sampleServing (sampleVisit ++ [.writer .dropHandle]) = some s ∧
      s.writer.handles = 0 := ⟨_, rfl, rfl⟩
  have h := (@channel_closes_last sampleNet sampleGlob sampleDigest _ _ _ _ hrun).2 hh
  exact ⟨s, hrun, hh, fun bs t ht => (h bs t ht).1⟩

theorem cleanStop_keeps_sample : ∃ s u event,
    @Serving.CleanStop sampleNet sampleGlob sampleDigest sampleConfig [] s u sampleStop ∧ s.sent = [event] ∧
      ∃ row ∈ u.writer.table, eventToActiveModel event = .ok row := by
  obtain ⟨s, u, e, event, hstop, hex, hsent, hdrop⟩ : ∃ s u e event,
      @Serving.CleanStop sampleNet sampleGlob sampleDigest sampleConfig [] s u sampleStop ∧
        s.exchanges = [e] ∧ e.shared.sent = [event] ∧ s.writer.droppedEvents = 0 :=
    ⟨_, _, _, _, @Serving.CleanStop.mk sampleNet sampleGlob sampleDigest _ _ _ _ _ _ _ _ _ _ _ _ rfl rfl rfl
      rfl rfl rfl rfl rfl, rfl, rfl, rfl⟩
  obtain ⟨refused, hlen, hall⟩ := @cleanStop_keeps sampleNet sampleGlob sampleDigest _ _ _ _ _ hstop
  rw [hdrop, List.length_eq_zero_iff] at hlen
  refine ⟨s, u, event, hstop, ?_, ?_⟩
  · rw [Serving.sent, hex, List.flatMap_singleton, hsent]
  · have hrow := hall e (hex ▸ List.mem_singleton.mpr rfl) event (hsent ▸ List.mem_singleton.mpr rfl)
    rw [hlen] at hrow
    exact hrow.resolve_left List.not_mem_nil

end KidProxy
