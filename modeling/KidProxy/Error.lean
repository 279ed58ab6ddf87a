/-!
# Error — the error kinds of the event log and `anyhow::Error`
-/

namespace KidProxy

inductive ErrorKind
  | config
  | frontendTls
  | backendTls
  | dns
  | connect
  | timeout
  | upstreamProtocol
  | clientProtocol
  | sqliteWrite
  | internal
  deriving DecidableEq, Repr

def ErrorKind.asStr : ErrorKind → String
  | .config => "config"
  | .frontendTls => "tls_frontend"
  | .backendTls => "tls_backend"
  | .dns => "dns"
  | .connect => "connect"
  | .timeout => "timeout"
  | .upstreamProtocol => "upstream_protocol"
  | .clientProtocol => "client_protocol"
  | .sqliteWrite => "sqlite_write"
  | .internal => "internal"

inductive ProxyResult
  | inflight
  | success
  | clientRejected
  | upstreamError
  | streamError
  deriving DecidableEq, Repr

def ProxyResult.asStr : ProxyResult → String
  | .inflight => "inflight"
  | .success => "success"
  | .clientRejected => "client_rejected"
  | .upstreamError => "upstream_error"
  | .streamError => "stream_error"

structure ErrorInfo where
  kind : ErrorKind
  text : String
  deriving DecidableEq, Repr

/-! ### `anyhow` -/

/-- An `anyhow::Error`: the outermost message, which is all that `to_string` shows, and what it was
wrapped around. -/
structure AnyError where
  message : String
  causes : List String
  deriving DecidableEq, Repr

namespace AnyError

/-- `anyhow!(message)`. -/
def msg (message : String) : AnyError := ⟨message, []⟩

def context (message : String) (err : AnyError) : AnyError := ⟨message, err.message :: err.causes⟩

end AnyError

variable {α β : Type}

/-- `result.context(message)`. -/
def context (message : String) : Except AnyError α → Except AnyError α
  | .ok a => .ok a
  | .error err => .error (err.context message)

/-- `option.context(message)`. -/
def contextSome (message : String) : Option α → Except AnyError α
  | some a => .ok a
  | none => .error (.msg message)

theorem contextSome_eq_ok {message : String} {o : Option α} {a : α} :
    contextSome message o = .ok a ↔ o = some a := by
  cases o <;> simp [contextSome]

@[simp] theorem context_eq_ok {message : String} {r : Except AnyError α} {a : α} :
    context message r = .ok a ↔ r = .ok a := by
  cases r <;> simp [context]

/-- What a chain of `?` that succeeded went through. -/
theorem bind_eq_ok {ε : Type} {x : Except ε α} {f : α → Except ε β} {b : β} :
    (x >>= f) = .ok b ↔ ∃ a, x = .ok a ∧ f a = .ok b := by
  cases x <;> simp [bind, Except.bind]

/-- What holds after a chain of `?` that succeeded, link by link. -/
theorem forall_bind_ok {ε : Type} {x : Except ε α} {f : α → Except ε β} {P : β → Prop}
    (h : ∀ a, x = .ok a → ∀ b, f a = .ok b → P b) : ∀ b, (x >>= f) = .ok b → P b := by
  intro b hb
  obtain ⟨a, ha, hb⟩ := bind_eq_ok.mp hb
  exact h a ha b hb

/-- Where a chain of `?` that failed ended. -/
theorem bind_eq_error {ε : Type} {x : Except ε α} {f : α → Except ε β} {e : ε} :
    (x >>= f) = .error e ↔ x = .error e ∨ ∃ a, x = .ok a ∧ f a = .error e := by
  cases x <;> simp [bind, Except.bind]

/-! ### Panics -/

/-- How a call ends that does not come to a value: it returns an error, or it panics. -/
inductive Fault
  | error (err : AnyError)
  | panicked (message : String)
  deriving DecidableEq, Repr

def Fault.context (message : String) : Fault → Fault
  | .error err => .error (err.context message)
  | .panicked text => .panicked text

/-- A call that cannot panic, among calls that can. -/
def returning : Except AnyError α → Except Fault α
  | .ok a => .ok a
  | .error err => .error (.error err)

@[simp] theorem returning_eq_ok {r : Except AnyError α} {a : α} : returning r = .ok a ↔ r = .ok a := by
  cases r <;> simp [returning]

theorem returning_ne_panicked {r : Except AnyError α} {text : String} :
    returning r ≠ .error (.panicked text) := by
  cases r <;> simp [returning]

@[simp] theorem mapError_context_eq_ok {message : String} {r : Except Fault α} {a : α} :
    r.mapError (Fault.context message) = .ok a ↔ r = .ok a := by
  cases r with
  | ok b => exact Iff.rfl
  | error fault => exact ⟨fun h => (nomatch h), fun h => (nomatch h)⟩

@[simp] theorem mapError_context_eq_panicked {message text : String} {r : Except Fault α} :
    r.mapError (Fault.context message) = .error (.panicked text) ↔ r = .error (.panicked text) := by
  rcases r with (err | text') | a
  · exact ⟨fun h => (nomatch h), fun h => (nomatch h)⟩
  · exact Iff.rfl
  · exact ⟨fun h => (nomatch h), fun h => (nomatch h)⟩

end KidProxy
