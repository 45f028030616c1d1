import RecordMapper.Proofs.Model.Runs

/-!
# What happens during a call

The statements and the hooks of a call in the order in which they happen, for every answer of the
engine and everything that hooks do.

* `Happening` is a statement with its answer, or the call of a hook.
* `Call.Unfolds engine c w steps result w'`: in the world `w` the call ends with `result` in `w'`,
  and `steps` is all that happens. `Unfolds.bind` puts the stages of a call together.
* `Model.Unfolding m c w R`: what happens and how the call ends are as `R` says.
  `Unfolding.execute_bind`, `Unfolding.change_bind` and their kind lead from the first stage of a
  call to the rest of it.
-/

namespace RecordMapper

/-- Something that happens during a call. -/
inductive Happening where
  /-- A statement is put to the engine and answered. -/
  | said (s : Statement) (answer : Answer)
  /-- A hook is called. -/
  | called (call : HookCall)

namespace Happening

/-- What the trace keeps. -/
def event : Happening → Event
  | .said s _ => .statement s
  | .called call => .hook call

/-- The statement with its answer. -/
def exchange? : Happening → Option (Statement × Answer)
  | .said s answer => some (s, answer)
  | .called _ => none

end Happening

/-- The statements among some happenings, with their answers. -/
def exchanged (steps : List Happening) : List (Statement × Answer) :=
  steps.filterMap Happening.exchange?

@[simp] theorem exchanged_nil : exchanged [] = [] := rfl

@[simp] theorem exchanged_said (s : Statement) (answer : Answer) (steps : List Happening) :
    exchanged (.said s answer :: steps) = (s, answer) :: exchanged steps := rfl

@[simp] theorem exchanged_called (call : HookCall) (steps : List Happening) :
    exchanged (.called call :: steps) = exchanged steps := rfl

@[simp] theorem exchanged_append (steps more : List Happening) :
    exchanged (steps ++ more) = exchanged steps ++ exchanged more :=
  List.filterMap_append

namespace Call

variable {σ α β : Type} {engine : Engine σ}

/-- The world after the call of a hook. -/
def noted (w : World σ) (call : HookCall) : World σ :=
  { w with trace := w.trace ++ [.hook call] }

theorem outcome_hooked (call : HookCall) (answer : Except Error α) (w : World σ) :
    outcome (record (.hook call) >>= fun _ => lift answer) w = (answer, noted w call) := by
  have recorded : outcome (record (.hook call) : Call σ Unit) w = (.ok (), noted w call) := rfl
  rw [outcome_bind_ok recorded, outcome_lift]

/-- A call with everything that happens. -/
structure Unfolds (engine : Engine σ) (c : Call σ α) (w : World σ) (steps : List Happening)
    (result : Except Error α) (w' : World σ) : Prop where
  /-- How the call ends. -/
  outcome : c.outcome w = (result, w')
  /-- The happenings are what is added to the trace. -/
  trace : w'.trace = w.trace ++ steps.map Happening.event
  /-- The answers are those of the engine. -/
  exchanges : engine.exchanges ((exchanged steps).map (·.1)) w.engine = exchanged steps
  /-- The engine is where the statements leave it. -/
  after : engine.after ((exchanged steps).map (·.1)) w.engine = w'.engine
  /-- The clock stands still. -/
  now : w'.now = w.now

namespace Unfolds

variable {c : Call σ α} {w w' w'' : World σ} {steps more : List Happening}

/-- A stage in which nothing happens. -/
theorem quiet (draws : Draws) {result : Except Error α}
    (h : c.outcome w = (result, { w with draws })) :
    Unfolds engine c w [] result { w with draws } :=
  ⟨h, by simp, rfl, rfl, rfl⟩

/-- A call that only talks to the engine. -/
theorem of_runs {xs : List (Statement × Answer)} {result : Except Error α}
    (h : Runs engine c w xs result w') :
    Unfolds engine c w (xs.map fun x => .said x.1 x.2) result w' := by
  have same : exchanged (xs.map fun x => .said x.1 x.2) = xs := by
    rw [exchanged, List.filterMap_map]
    exact List.filterMap_some
  refine ⟨h.outcome, ?_, by rw [same, h.exchanges], by rw [same, h.after], h.now⟩
  rw [h.trace, List.map_map]
  rfl

/-- **A call goes on** where the stage before ended. -/
theorem bind {a : α} {f : α → Call σ β} {result : Except Error β}
    (hc : Unfolds engine c w steps (.ok a) w') (hf : Unfolds engine (f a) w' more result w'') :
    Unfolds engine (c >>= f) w (steps ++ more) result w'' where
  outcome := by rw [outcome_bind_ok hc.outcome, hf.outcome]
  trace := by rw [hf.trace, hc.trace, List.map_append, List.append_assoc]
  exchanges := by
    rw [exchanged_append, List.map_append, Engine.exchanges_append, hc.exchanges, hc.after,
      hf.exchanges]
  after := by rw [exchanged_append, List.map_append, Engine.after_append, hc.after, hf.after]
  now := hf.now.trans hc.now

/-- A call ends where a stage fails. -/
theorem bind_error {e : Error} (hc : Unfolds engine c w steps (.error e) w') (f : α → Call σ β) :
    Unfolds engine (c >>= f) w steps (.error e) w' where
  outcome := outcome_bind_error hc.outcome f
  trace := hc.trace
  exchanges := hc.exchanges
  after := hc.after
  now := hc.now

/-- A hook that is called, with its answer. -/
theorem hooked (call : HookCall) (answer : Except Error α) (w : World σ) :
    Unfolds engine (record (.hook call) >>= fun _ => lift answer) w [.called call] answer
      (noted w call) :=
  ⟨outcome_hooked call answer w, rfl, rfl, rfl, rfl⟩

end Unfolds

end Call

namespace Model

variable {σ α β : Type} {m : Model σ} {w : World σ}

open Call

/-- What happens during a call, and how the call ends, are as `R` says. -/
def Unfolding (m : Model σ) (c : Call σ α) (w : World σ)
    (R : List Happening → Except Error α → Prop) : Prop :=
  ∃ steps result w', Unfolds m.engine c w steps result w' ∧ R steps result

namespace Unfolding

variable {c : Call σ α} {f : α → Call σ β} {R : List Happening → Except Error α → Prop}
  {S : List Happening → Except Error β → Prop}

theorem mono {R' : List Happening → Except Error α → Prop} (h : m.Unfolding c w R)
    (imp : ∀ steps result, R steps result → R' steps result) : m.Unfolding c w R' := by
  obtain ⟨steps, result, w', run, holds⟩ := h
  exact ⟨steps, result, w', run, imp steps result holds⟩

theorem quiet (draws : Draws) {result : Except Error α}
    (ends : c.outcome w = (result, { w with draws })) (h : R [] result) : m.Unfolding c w R :=
  ⟨[], result, _, .quiet draws ends, h⟩

theorem pure {a : α} (h : R [] (.ok a)) : m.Unfolding (Pure.pure a) w R :=
  quiet w.draws rfl h

theorem throw {e : Error} (h : R [] (.error e)) : m.Unfolding (MonadExcept.throw e) w R :=
  quiet w.draws rfl h

/-- **A call goes on** where its first stage ended. -/
theorem bind (hc : m.Unfolding c w R) (error : ∀ steps e, R steps (.error e) → S steps (.error e))
    (ok : ∀ steps a w', R steps (.ok a) →
      m.Unfolding (f a) w' fun more result => S (steps ++ more) result) :
    m.Unfolding (c >>= f) w S := by
  obtain ⟨steps, result, w', run, holds⟩ := hc
  cases result with
  | error e => exact ⟨steps, _, w', run.bind_error f, error steps e holds⟩
  | ok a =>
    obtain ⟨more, result, w'', next, rest⟩ := ok steps a w' holds
    exact ⟨steps ++ more, result, w'', run.bind next, rest⟩

/-- A first stage in which nothing happens. -/
theorem quiet_bind (draws : Draws) {a : α} (ends : c.outcome w = (.ok a, { w with draws }))
    (h : m.Unfolding (f a) { w with draws } S) : m.Unfolding (c >>= f) w S := by
  obtain ⟨more, result, w', next, rest⟩ := h
  exact ⟨more, result, w', (Unfolds.quiet draws ends).bind next, rest⟩

/-- A first stage that is computed without the engine. -/
theorem lift_bind {result : Except Error α} (error : ∀ e, result = .error e → S [] (.error e))
    (ok : ∀ a, result = .ok a → m.Unfolding (f a) w S) :
    m.Unfolding (Call.lift result >>= f) w S := by
  cases result with
  | error e => exact quiet w.draws rfl (error e rfl)
  | ok a => exact quiet_bind w.draws rfl (ok a rfl)

/-- Completing a record draws values. -/
theorem prepareInsert_bind {data : Record} {f : Record → Call σ β}
    (h : m.Unfolding (f (m.schema.complete w.now data w.draws).1)
      { w with draws := (m.schema.complete w.now data w.draws).2 } S) :
    m.Unfolding (m.prepareInsert data >>= f) w S :=
  quiet_bind _ rfl h

/-- **A statement is put to the engine** and rejected, or answered. -/
theorem execute_bind {s : Statement} {f : Reply → Call σ β}
    (rejected : ∀ r, S [.said s.wire (.error r)] (.error (m.failure s.wire r)))
    (accepted : ∀ reply w', w'.now = w.now →
      m.Unfolding (f reply) w' fun more result => S (.said s.wire (.ok reply) :: more) result) :
    m.Unfolding (m.execute s >>= f) w S := by
  rcases answer : m.engine s.wire w.engine with ⟨r | reply, state⟩
  · have run := Unfolds.of_runs (runs_execute_rejected answer)
    exact ⟨_, _, _, run.bind_error f, rejected r⟩
  · have run := Unfolds.of_runs (runs_execute answer)
    obtain ⟨more, result, w', next, rest⟩ := accepted reply (answered w s.wire state) rfl
    exact ⟨_, result, w', run.bind next, rest⟩

/-- A hook that is called and answers. -/
theorem hooked_bind {call : HookCall} {answer : Except Error α}
    (refused : ∀ e, answer = .error e → S [.called call] (.error e))
    (passed : ∀ a, answer = .ok a →
      m.Unfolding (f a) (noted w call) fun more result =>
        S (.called call :: more) result) :
    m.Unfolding ((record (.hook call) >>= fun _ => Call.lift answer) >>= f) w S := by
  have run : Unfolds m.engine _ w _ _ _ := .hooked call answer w
  cases answer with
  | error e => exact ⟨_, _, _, run.bind_error f, refused e rfl⟩
  | ok a =>
    obtain ⟨more, result, w', next, rest⟩ := passed a rfl
    exact ⟨_, result, w', run.bind next, rest⟩

/-- **A hook may change what it receives**, or refuse; none is called where none is registered. -/
theorem change_bind {hook : Option (α → Except Error α)} {call : α → HookCall} {payload : α}
    (unregistered : hook = none → m.Unfolding (f payload) w S)
    (refused : ∀ g e, hook = some g → g payload = .error e → S [.called (call payload)] (.error e))
    (changed : ∀ g a, hook = some g → g payload = .ok a →
      m.Unfolding (f a) (noted w (call payload)) fun more result =>
        S (.called (call payload) :: more) result) :
    m.Unfolding (Call.change hook call payload >>= f) w S := by
  cases hook with
  | none => exact quiet_bind w.draws rfl (unregistered rfl)
  | some g => exact hooked_bind (refused g · rfl) (changed g · rfl)

/-- **A hook only looks at what it receives**, and may refuse. -/
theorem notify_bind {hook : Option (α → Except Error Unit)} {call : α → HookCall} {payload : α}
    {f : Unit → Call σ β} (unregistered : hook = none → m.Unfolding (f ()) w S)
    (refused : ∀ g e, hook = some g → g payload = .error e → S [.called (call payload)] (.error e))
    (passed : ∀ g, hook = some g → g payload = .ok () →
      m.Unfolding (f ()) (noted w (call payload)) fun more result =>
        S (.called (call payload) :: more) result) :
    m.Unfolding (Call.notify hook call payload >>= f) w S := by
  cases hook with
  | none => exact quiet_bind w.draws rfl (unregistered rfl)
  | some g => exact hooked_bind (refused g · rfl) fun _ answer => passed g rfl answer

end Unfolding

end Model

end RecordMapper
