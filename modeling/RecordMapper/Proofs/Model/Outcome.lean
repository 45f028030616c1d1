import RecordMapper.Model.Call

/-!
# Outcomes of calls

What a call does, stage by stage, and what it leaves in the trace.

* `Call.outcome_bind` runs two calls in a row: the second one goes on in the world that the first
  one leaves, and only if that had a result.
* `Call.Growing`: a call only adds to the trace. `Call.issued` are the statements that it adds, and
  `Call.first?` is the first of them.
* `Call.first?_ask_bind`: a statement that is put to the engine is the first one, whatever comes
  after it.
-/

namespace RecordMapper

/-- A computation in two stages that has a result. -/
theorem bind_eq_ok {α β : Type} {x : Except Error α} {f : α → Except Error β} {b : β} :
    x >>= f = .ok b ↔ ∃ a, x = .ok a ∧ f a = .ok b := by
  constructor
  · intro h
    cases x with
    | error e => cases h
    | ok a => exact ⟨a, rfl, h⟩
  · rintro ⟨a, rfl, h⟩
    exact h

/-- The statement of an event. -/
def Event.statement? : Event → Option Statement
  | .statement s => some s
  | .hook _ => none

namespace Call

variable {σ α β : Type}

/-! ## Outcomes -/

@[simp] theorem outcome_pure (a : α) (w : World σ) :
    outcome (pure a : Call σ α) w = (.ok a, w) := rfl

@[simp] theorem outcome_throw (e : Error) (w : World σ) :
    outcome (throw e : Call σ α) w = (.error e, w) := rfl

/-- **One call after another.** -/
theorem outcome_bind (c : Call σ α) (f : α → Call σ β) (w : World σ) :
    outcome (c >>= f) w = match outcome c w with
      | (.ok a, w') => outcome (f a) w'
      | (.error e, w') => (.error e, w') := by
  show (match outcome c w with | (result, w') => ExceptT.bindCont f result w') = _
  rcases outcome c w with ⟨e | a, w'⟩ <;> rfl

@[simp] theorem outcome_lift (result : Except Error α) (w : World σ) :
    outcome (lift result) w = (result, w) := by
  cases result <;> rfl

theorem lift_bind (result : Except Error α) (f : α → Except Error β) :
    (lift (result >>= f) : Call σ β) = lift result >>= fun a => lift (f a) := by
  cases result <;> rfl

@[simp] theorem outcome_ask (engine : Engine σ) (s : Statement) (w : World σ) :
    outcome (ask engine s) w
      = (.ok (engine s w.engine).1,
          { w with engine := (engine s w.engine).2, trace := w.trace ++ [.statement s] }) := rfl

@[simp] theorem outcome_now (w : World σ) : outcome (now : Call σ Instant) w = (.ok w.now, w) := rfl

@[simp] theorem outcome_attempt (c : Call σ α) (w : World σ) :
    outcome (attempt c) w = (.ok (outcome c w).1, (outcome c w).2) := rfl

/-- Calls with the same outcome in every world are the same. -/
theorem ext {c d : Call σ α} (h : ∀ w, outcome c w = outcome d w) : c = d :=
  funext h

/-- A call that goes on after a result. -/
theorem outcome_bind_ok {c : Call σ α} {w w' : World σ} {a : α} (h : outcome c w = (.ok a, w'))
    (f : α → Call σ β) : outcome (c >>= f) w = outcome (f a) w' := by
  rw [outcome_bind, h]

/-- A call that ends with an error. -/
theorem outcome_bind_error {c : Call σ α} {w w' : World σ} {e : Error}
    (h : outcome c w = (.error e, w')) (f : α → Call σ β) :
    outcome (c >>= f) w = (.error e, w') := by
  rw [outcome_bind, h]

/-! ## Traces -/

/-- A call that only adds to the trace. -/
def Growing (c : Call σ α) : Prop :=
  ∀ w, ∃ more, (outcome c w).2.trace = w.trace ++ more

theorem growing_pure (a : α) : Growing (pure a : Call σ α) := fun _ => ⟨[], by simp⟩

theorem growing_throw (e : Error) : Growing (throw e : Call σ α) := fun _ => ⟨[], by simp⟩

theorem growing_lift (result : Except Error α) : Growing (lift result : Call σ α) :=
  fun _ => ⟨[], by simp⟩

theorem growing_ask (engine : Engine σ) (s : Statement) : Growing (ask engine s) :=
  fun _ => ⟨[.statement s], rfl⟩

theorem Growing.bind {c : Call σ α} {f : α → Call σ β} (hc : Growing c)
    (hf : ∀ a, Growing (f a)) : Growing (c >>= f) := by
  intro w
  obtain ⟨more, hw⟩ := hc w
  rcases h : outcome c w with ⟨e | a, w'⟩
  · rw [outcome_bind_error h]
    rw [h] at hw
    exact ⟨more, hw⟩
  · rw [outcome_bind_ok h]
    rw [h] at hw
    obtain ⟨rest, hr⟩ := hf a w'
    exact ⟨more ++ rest, by rw [hr, hw, List.append_assoc]⟩

/-! ## Issued statements -/

/-- The statements that a call puts to the engine. -/
def issued (c : Call σ α) (w : World σ) : List Statement :=
  ((outcome c w).2.trace.drop w.trace.length).filterMap Event.statement?

/-- The first statement that a call puts to the engine. -/
def first? (c : Call σ α) (w : World σ) : Option Statement :=
  (issued c w).head?

/-- A stage that leaves the trace alone issues nothing. -/
theorem first?_quiet_bind {c : Call σ α} {w w' : World σ} {a : α}
    (h : outcome c w = (.ok a, w')) (quiet : w'.trace = w.trace) (f : α → Call σ β) :
    first? (c >>= f) w = first? (f a) w' := by
  rw [first?, first?, issued, issued, outcome_bind_ok h, quiet]

theorem first?_lift_bind (result : Except Error α) (f : α → Call σ β) (w : World σ) :
    first? (lift result >>= f) w = match result with
      | .ok a => first? (f a) w
      | .error _ => none := by
  cases result with
  | ok a => rfl
  | error e =>
    have stops : outcome (lift (.error e) >>= f) w = (.error e, w) :=
      outcome_bind_error (outcome_lift _ w) f
    simp [first?, issued, stops]

/-- **A statement that is put to the engine is the first one**, whatever comes after it. -/
theorem first?_ask_bind (engine : Engine σ) (s : Statement) {f : Answer → Call σ α}
    (hf : ∀ answer, Growing (f answer)) (w : World σ) :
    first? (ask engine s >>= f) w = some s := by
  obtain ⟨more, hm⟩ := hf (engine s w.engine).1
    { w with engine := (engine s w.engine).2, trace := w.trace ++ [.statement s] }
  rw [first?, issued, outcome_bind_ok (outcome_ask engine s w), hm, List.append_assoc,
    List.drop_left]
  rfl

end Call

end RecordMapper
