import RecordMapper.Proofs.Model.Stages

/-!
# Runs against an engine

What a call and an engine say to each other.

* `Engine.exchanges` are the answers of an engine to statements one after another.
* `Call.Runs engine c w xs result w'`: in the world `w` the call ends with `result` in `w'`, and
  `xs` is all that it exchanged with the engine. Runs are put together by `Runs.bind`.
* `Call.Runs.issued`: the exchanges of a run are those of the statements that the call issues.
* `Model.runs_execute` and `Model.runs_fetch` are the runs of a single statement.
-/

namespace RecordMapper

namespace Engine

variable {σ : Type}

/-- The answers to statements one after another. -/
def exchanges (engine : Engine σ) : List Statement → σ → List (Statement × Answer)
  | [], _ => []
  | s :: rest, state => (s, (engine s state).1) :: exchanges engine rest (engine s state).2

/-- The state after statements one after another. -/
def after (engine : Engine σ) : List Statement → σ → σ
  | [], state => state
  | s :: rest, state => after engine rest (engine s state).2

theorem exchanges_append (engine : Engine σ) (statements more : List Statement) (state : σ) :
    engine.exchanges (statements ++ more) state
      = engine.exchanges statements state
        ++ engine.exchanges more (engine.after statements state) := by
  induction statements generalizing state with
  | nil => rfl
  | cons s rest ih => simp only [List.cons_append, exchanges, after, ih]

theorem after_append (engine : Engine σ) (statements more : List Statement) (state : σ) :
    engine.after (statements ++ more) state
      = engine.after more (engine.after statements state) := by
  induction statements generalizing state with
  | nil => rfl
  | cons s rest ih => exact ih _

end Engine

namespace Call

variable {σ α β : Type} {engine : Engine σ}

/-- A run of a call, with everything that it exchanges with the engine. -/
structure Runs (engine : Engine σ) (c : Call σ α) (w : World σ)
    (xs : List (Statement × Answer)) (result : Except Error α) (w' : World σ) : Prop where
  /-- How the call ends. -/
  outcome : c.outcome w = (result, w')
  /-- The statements are what is added to the trace. -/
  trace : w'.trace = w.trace ++ xs.map fun x => .statement x.1
  /-- The answers are those of the engine. -/
  exchanges : engine.exchanges (xs.map (·.1)) w.engine = xs
  /-- The engine is where the statements leave it. -/
  after : engine.after (xs.map (·.1)) w.engine = w'.engine
  /-- The clock stands still. -/
  now : w'.now = w.now

namespace Runs

variable {c : Call σ α} {w w' w'' : World σ} {xs ys : List (Statement × Answer)}

/-- A stage that says nothing to the engine. -/
theorem quiet (draws : Draws) {result : Except Error α}
    (h : c.outcome w = (result, { w with draws })) : Runs engine c w [] result { w with draws } :=
  ⟨h, by simp, rfl, rfl, rfl⟩

theorem pure (a : α) (w : World σ) : Runs engine (pure a) w [] (.ok a) w :=
  quiet w.draws rfl

theorem lift (result : Except Error α) (w : World σ) : Runs engine (lift result) w [] result w :=
  quiet w.draws (outcome_lift result w)

theorem ask (engine : Engine σ) (s : Statement) (w : World σ) :
    Runs engine (ask engine s) w [(s, (engine s w.engine).1)] (.ok (engine s w.engine).1)
      { w with engine := (engine s w.engine).2, trace := w.trace ++ [.statement s] } :=
  ⟨rfl, rfl, rfl, rfl, rfl⟩

/-- **A run goes on** where the stage before ended. -/
theorem bind {a : α} {f : α → Call σ β} {result : Except Error β}
    (hc : Runs engine c w xs (.ok a) w') (hf : Runs engine (f a) w' ys result w'') :
    Runs engine (c >>= f) w (xs ++ ys) result w'' where
  outcome := by rw [outcome_bind_ok hc.outcome, hf.outcome]
  trace := by rw [hf.trace, hc.trace, List.map_append, List.append_assoc]
  exchanges := by
    rw [List.map_append, Engine.exchanges_append, hc.exchanges, hc.after, hf.exchanges]
  after := by rw [List.map_append, Engine.after_append, hc.after, hf.after]
  now := hf.now.trans hc.now

/-- A run ends where a stage fails. -/
theorem bind_error {e : Error} (hc : Runs engine c w xs (.error e) w') (f : α → Call σ β) :
    Runs engine (c >>= f) w xs (.error e) w' where
  outcome := outcome_bind_error hc.outcome f
  trace := hc.trace
  exchanges := hc.exchanges
  after := hc.after
  now := hc.now

/-- A stage whose failure is caught. -/
theorem attempt {result : Except Error α} (hc : Runs engine c w xs result w') :
    Runs engine (attempt c) w xs (.ok result) w' where
  outcome := by rw [outcome_attempt, hc.outcome]
  trace := hc.trace
  exchanges := hc.exchanges
  after := hc.after
  now := hc.now

/-- The statements that a call issues are those of its run. -/
theorem statements {result : Except Error α} (h : Runs engine c w xs result w') :
    c.issued w = xs.map (·.1) := by
  rw [Call.issued, h.outcome, h.trace, List.drop_left, List.filterMap_map]
  simp [Function.comp_def, Event.statement?]

/-- **The exchanges of a run** are those of the statements that the call issues. -/
theorem issued {result : Except Error α} (h : Runs engine c w xs result w') :
    engine.exchanges (c.issued w) w.engine = xs := by
  rw [h.statements, h.exchanges]

end Runs

end Call

namespace Model

variable {σ : Type} {m : Model σ} {w : World σ} {state : σ}

open Call

/-- The world after a statement that left the engine in a state. -/
def answered (w : World σ) (s : Statement) (state : σ) : World σ :=
  { w with engine := state, trace := w.trace ++ [.statement s] }

/-- A statement that the engine accepts. -/
theorem runs_execute {s : Statement} {reply : Reply}
    (h : m.engine s.wire w.engine = (.ok reply, state)) :
    Runs m.engine (m.execute s) w [(s.wire, .ok reply)] (.ok reply) (answered w s.wire state) := by
  have asked := Runs.ask m.engine s.wire w
  rw [h] at asked
  exact asked.bind (.pure reply _)

/-- A statement that the engine rejects. -/
theorem runs_execute_rejected {s : Statement} {rejection : Rejection}
    (h : m.engine s.wire w.engine = (.error rejection, state)) :
    Runs m.engine (m.execute s) w [(s.wire, .error rejection)]
      (.error (m.failure s.wire rejection)) (answered w s.wire state) := by
  have asked := Runs.ask m.engine s.wire w
  rw [h] at asked
  exact asked.bind (Runs.lift (.error _) _)

/-- The records that the engine gives for a query. -/
theorem runs_fetch {q : Query} {reply : Reply}
    (h : m.engine q.find.statement.wire w.engine = (.ok reply, state)) :
    Runs m.engine (m.fetch q) w [(q.find.statement.wire, .ok reply)]
      (.ok (reply.rows.map m.schema.hydrate)) (answered w q.find.statement.wire state) :=
  (runs_execute h).bind (.pure _ _)

end Model

end RecordMapper
