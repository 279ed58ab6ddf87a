import Mathlib.Data.List.Basic

/-!
# Lib.Channel — a bounded first-in first-out channel

A `Channel` holds at most `capacity` messages, oldest first; the bound is a field.  Sending appends,
receiving takes the head, and closing (the receiver is dropped) discards what is queued and refuses
every later send.
-/

variable {α : Type*}

/-- A bounded channel with a single receiver. -/
structure Channel (α : Type*) where
  queue : List α
  capacity : ℕ
  /-- The receiver has been dropped. -/
  closed : Bool
  bounded : queue.length ≤ capacity

namespace Channel

inductive SendError
  | full
  | closed
  deriving DecidableEq, Repr

/-- The open, empty channel. -/
def new (capacity : ℕ) : Channel α := ⟨[], capacity, false, Nat.zero_le _⟩

def trySend (c : Channel α) (a : α) : Except SendError (Channel α) :=
  if c.closed then .error .closed
  else if h : c.queue.length < c.capacity then
    .ok { c with queue := c.queue ++ [a], bounded := by rw [List.length_append]; exact h }
  else .error .full

/-- The oldest message, if there is one, and what is left. -/
def tryRecv (c : Channel α) : Option (α × Channel α) :=
  c.queue.head?.map fun a =>
    (a, { c with queue := c.queue.tail
                 bounded := by rw [List.length_tail]; exact Nat.le_trans (Nat.sub_le _ _) c.bounded })

/-- Dropping the receiver drops the queued messages. -/
def close (c : Channel α) : Channel α :=
  { c with queue := [], closed := true, bounded := Nat.zero_le _ }

@[simp] theorem new_closed (n : ℕ) : (new n : Channel α).closed = false := rfl

@[simp] theorem close_closed (c : Channel α) : c.close.closed = true := rfl

/-- An accepted message goes to the end of an open channel that had room. -/
theorem trySend_ok {c c' : Channel α} {a : α} (h : c.trySend a = .ok c') :
    c.closed = false ∧ c.queue.length < c.capacity ∧ c'.queue = c.queue ++ [a] ∧
      c'.capacity = c.capacity ∧ c'.closed = false := by
  unfold trySend at h
  split_ifs at h with hc hl
  obtain rfl := Except.ok.inj h
  exact ⟨by simpa using hc, hl, rfl, rfl, by simpa using hc⟩

theorem trySend_of_lt {c : Channel α} {a : α} (hc : c.closed = false)
    (hl : c.queue.length < c.capacity) : ∃ c', c.trySend a = .ok c' := by
  simp [trySend, hc, hl]

/-- A message of which the channel says that it is closed finds it closed. -/
theorem trySend_closed {c : Channel α} {a : α} (h : c.trySend a = .error .closed) :
    c.closed = true := by
  unfold trySend at h
  split at h
  · assumption
  · split at h <;> cases h

/-- Receiving takes the head of the queue. -/
theorem tryRecv_some {c c' : Channel α} {a : α} (h : c.tryRecv = some (a, c')) :
    c.queue = a :: c'.queue ∧ c'.capacity = c.capacity ∧ c'.closed = c.closed := by
  unfold tryRecv at h
  obtain ⟨b, hb, hp⟩ := Option.map_eq_some_iff.mp h
  obtain ⟨rfl, rfl⟩ := Prod.mk.inj hp
  exact ⟨(List.cons_head?_tail hb).symm, rfl, rfl⟩

theorem tryRecv_none {c : Channel α} : c.tryRecv = none ↔ c.queue = [] := by
  unfold tryRecv
  rw [Option.map_eq_none_iff, List.head?_eq_none_iff]

theorem tryRecv_of_cons {c : Channel α} {a : α} {q : List α} (h : c.queue = a :: q) :
    ∃ c', c.tryRecv = some (a, c') ∧ c'.queue = q := by
  cases hr : c.tryRecv with
  | none => rw [tryRecv_none, h] at hr; exact absurd hr (List.cons_ne_nil a q)
  | some p =>
    obtain ⟨b, c'⟩ := p
    have hq := (tryRecv_some hr).1
    rw [h] at hq
    obtain ⟨rfl, rfl⟩ := List.cons_eq_cons.mp hq
    exact ⟨c', rfl, rfl⟩

end Channel
