import RecordMapper.Model.Hooks

/-!
# Calls

A call of a model's operation: it talks to an engine, calls hooks, draws default values, and ends
with a result or an error. What it did stays done when it fails.

* `World` is what a call works on: the engine's state, the time, the number of values drawn for each
  field, and the trace of what happened so far.
* `Call.attempt` gives an error as a value.
* `Call.ask` puts a statement to the engine, and `Call.note` records the call of a hook.
-/

namespace RecordMapper

/-- Something that happened during a call. -/
inductive Event where
  /-- The engine received a statement. -/
  | statement (s : Statement)
  /-- A hook was called. -/
  | hook (call : HookCall)
deriving DecidableEq, Repr

/-- The number of default values drawn so far for each field. -/
abbrev Draws : Type := List (String × Nat)

namespace Draws

/-- The number of values drawn for a field. -/
def count (draws : Draws) (field : String) : Nat :=
  ((draws.find? fun entry => entry.1 == field).map (·.2)).getD 0

/-- Counts one more value for a field. -/
def add (draws : Draws) (field : String) : Draws :=
  (field, draws.count field + 1) :: draws.filter fun entry => entry.1 != field

end Draws

/-- What calls work on, for an engine with states `σ`. -/
structure World (σ : Type) where
  /-- The state of the engine. -/
  engine : σ
  /-- The time. -/
  now : Instant
  /-- The default values drawn so far. -/
  draws : Draws := []
  /-- What happened so far. -/
  trace : List Event := []

/-- A call that ends with a result of type `α` or an error. -/
abbrev Call (σ : Type) : Type → Type := ExceptT Error (StateM (World σ))

namespace Call

variable {σ α : Type}

/-- The outcome of a call and the world after it. -/
def outcome (c : Call σ α) (w : World σ) : Except Error α × World σ :=
  c.run w

/-- The result of a computation that needs no world. -/
def lift (result : Except Error α) : Call σ α :=
  match result with
  | .ok a => pure a
  | .error e => throw e

/-- The outcome of a call as a value; the call that gives it never fails. -/
def attempt (c : Call σ α) : Call σ (Except Error α) :=
  ExceptT.mk do
    let result ← c.run
    return .ok result

/-- Adds an event to the trace. -/
def record (e : Event) : Call σ Unit :=
  modify fun w => { w with trace := w.trace ++ [e] }

/-- Puts a statement to an engine. -/
def ask (engine : Engine σ) (s : Statement) : Call σ Answer := do
  record (.statement s)
  modifyGet fun w =>
    let (answer, state) := engine s w.engine
    (answer, { w with engine := state })

/-- Calls a hook that changes what it receives, if one is registered. -/
def change (hook : Option (α → Except Error α)) (call : α → HookCall) (payload : α) :
    Call σ α :=
  match hook with
  | none => pure payload
  | some f => do
    record (.hook (call payload))
    lift (f payload)

/-- Calls a hook that only looks at what it receives, if one is registered. -/
def notify (hook : Option (α → Except Error Unit)) (call : α → HookCall) (payload : α) :
    Call σ Unit :=
  match hook with
  | none => pure ()
  | some f => do
    record (.hook (call payload))
    lift (f payload)

/-- The time. -/
def now : Call σ Instant := do
  return (← get).now

end Call

end RecordMapper
