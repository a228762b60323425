import BatchFrontier.Fault

/-!
# Computations with a trace

A computation leaves a trace of what it does to the world around it: lines it logs, status lines,
calls to contracts, requests to a node. The trace is kept when the computation ends with a fault.
-/

namespace BatchFrontier

/-- The weight of a logged line. -/
inductive Level where
  | debug
  | info
  | warning
  | error
  deriving DecidableEq, Repr

/-- The part of the library that logs a line. -/
inductive Topic where
  | calldata
  | state
  deriving DecidableEq, Repr

/-- What a transaction is shaped with before it is signed. -/
structure TransactionFields where
  /-- The checksummed address of the sender. -/
  sender : String
  chain : Value
  nonce : Nat
  gas : Nat
  gasPrice : Nat
  deriving Repr

/-- Something that a computation does. -/
inductive Event where
  /-- A line in the log. -/
  | logged (level : Level) (topic : Topic) (message : Text)
  /-- A line for the person at the terminal. -/
  | status (line : Text)
  /-- A connection to a node is set up. -/
  | opened (url timeout : Value)
  /-- A function of a contract, or of the node, is called. -/
  | called (callee function : String) (arguments : List Value)
  /-- A transaction is shaped. -/
  | shaped (fields : TransactionFields)
  /-- The node is asked by a method other than a call. -/
  | asked (method : String)
  /-- A call is sent to the node. -/
  | requested (address : String) (data : List UInt8)
  deriving Repr

/-- A computation that has ended: its trace and its result. -/
structure Traced (α : Type) where
  events : List Event
  result : Except Fault α
  deriving Repr

namespace Traced

variable {α β : Type}

/-- A computation that does nothing. -/
def ofResult (r : Except Fault α) : Traced α := ⟨[], r⟩

/-- A single event. -/
def emit (e : Event) : Traced Unit := ⟨[e], .ok ()⟩

/-- A computation that fails at once. -/
def fail (f : Fault) : Traced α := ⟨[], .error f⟩

/-- One computation after another; a fault of the first ends both. -/
def andThen (x : Traced α) (next : α → Traced β) : Traced β :=
  match x.result with
  | .ok a => ⟨x.events ++ (next a).events, (next a).result⟩
  | .error f => ⟨x.events, .error f⟩

instance : Monad Traced where
  pure a := ⟨[], .ok a⟩
  bind := andThen

instance : MonadLift (Except Fault) Traced where
  monadLift := ofResult

/-- A line in the log. -/
def log (level : Level) (topic : Topic) (message : Text) : Traced Unit :=
  emit (.logged level topic message)

/-- Continues from the outcome of a computation, whether a value or a fault. -/
def resume (x : Traced α) (next : Except Fault α → Traced β) : Traced β :=
  ⟨x.events ++ (next x.result).events, (next x.result).result⟩

@[simp] theorem pure_events (a : α) : (pure a : Traced α).events = [] := rfl

@[simp] theorem pure_result (a : α) : (pure a : Traced α).result = .ok a := rfl

@[simp] theorem fail_events (f : Fault) : (fail f : Traced α).events = [] := rfl

@[simp] theorem fail_result (f : Fault) : (fail f : Traced α).result = .error f := rfl

@[simp] theorem emit_events (e : Event) : (emit e).events = [e] := rfl

@[simp] theorem emit_result (e : Event) : (emit e).result = .ok () := rfl

theorem bind_of_ok {x : Traced α} {a : α} (next : α → Traced β) (h : x.result = .ok a) :
    x >>= next = ⟨x.events ++ (next a).events, (next a).result⟩ := by
  simp [bind, andThen, h]

theorem bind_of_error {x : Traced α} {f : Fault} (next : α → Traced β)
    (h : x.result = .error f) : x >>= next = ⟨x.events, .error f⟩ := by
  simp [bind, andThen, h]

@[simp] theorem ofResult_events (r : Except Fault α) : (ofResult r).events = [] := rfl

@[simp] theorem ofResult_result (r : Except Fault α) : (ofResult r).result = r := rfl

@[simp] theorem lift_events (r : Except Fault α) : (liftM r : Traced α).events = [] := rfl

@[simp] theorem lift_result (r : Except Fault α) : (liftM r : Traced α).result = r := rfl

@[simp] theorem resume_events (x : Traced α) (next : Except Fault α → Traced β) :
    (x.resume next).events = x.events ++ (next x.result).events := rfl

@[simp] theorem resume_result (x : Traced α) (next : Except Fault α → Traced β) :
    (x.resume next).result = (next x.result).result := rfl

/-- The result of two computations comes from the results of each. -/
theorem bind_result (x : Traced α) (next : α → Traced β) :
    (x >>= next).result = x.result.bind fun a => (next a).result := by
  cases h : x.result <;> simp [bind, andThen, h, Except.bind]

/-- Nothing follows a computation that failed. -/
theorem fail_bind (f : Fault) (next : α → Traced β) : fail f >>= next = fail f := rfl

theorem pure_bind (a : α) (next : α → Traced β) : pure a >>= next = next a := by
  simp [bind_of_ok next (pure_result a)]

/-- The order in which three computations are put together does not matter. -/
theorem bind_assoc {γ : Type} (x : Traced α) (f : α → Traced β) (g : β → Traced γ) :
    x >>= f >>= g = x >>= fun a => f a >>= g := by
  cases hx : x.result with
  | error _ => simp [bind, andThen, hx]
  | ok a => cases hf : (f a).result <;> simp [bind, andThen, hx, hf]

end Traced

end BatchFrontier
