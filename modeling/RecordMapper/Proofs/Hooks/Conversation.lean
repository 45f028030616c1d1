import RecordMapper.Proofs.Hooks.Pursuit
import RecordMapper.Proofs.Model.Together

/-!
# Conversations around hooks

What a call says to the engine and is answered, whatever hooks are called in between.

* `Model.Says m P c`: the conversation of the call `c` has the property `P`, in every world.
* `says_execute_bind`, `says_change_bind` and their kind lead from the first stage of a call to the
  rest of it; `says_bind` puts calls together where `P` is kept by conversations one after another.
* `Says.exchanges` and `Says.issued` lead back to the statements that a call issues.
-/

namespace RecordMapper

namespace Call

variable {σ α : Type} {engine : Engine σ} {c : Call σ α} {w w' : World σ}
  {steps : List Happening} {result : Except Error α}

namespace Unfolds

/-- A call whose failure is caught. -/
theorem attempt (h : Unfolds engine c w steps result w') :
    Unfolds engine (attempt c) w steps (.ok result) w' where
  outcome := by rw [outcome_attempt, h.outcome]
  trace := h.trace
  exchanges := h.exchanges
  after := h.after
  now := h.now

/-- A call that is started with others. -/
theorem start (h : Unfolds engine c w steps result w') (waits : Bool) :
    Unfolds engine (Call.start waits c) w steps ((Call.start waits c).outcome w).1 w' where
  outcome := by rw [outcome_start, h.outcome]
  trace := h.trace
  exchanges := h.exchanges
  after := h.after
  now := h.now

/-- The statements that a call issues are those among the happenings. -/
theorem statements (h : Unfolds engine c w steps result w') :
    c.issued w = (exchanged steps).map (·.1) := by
  rw [Call.issued, h.outcome, h.trace, List.drop_left, List.filterMap_map, exchanged,
    List.map_filterMap]
  refine List.filterMap_congr fun step _ => ?_
  cases step <;> rfl

/-- The exchanges are those of the statements that the call issues. -/
theorem issued (h : Unfolds engine c w steps result w') :
    engine.exchanges (c.issued w) w.engine = exchanged steps := by
  rw [h.statements, h.exchanges]

end Unfolds

end Call

namespace Model

variable {σ α β : Type} {m : Model σ} {P : Conversation → Prop}

open Call

/-- The conversation of a call has a property, in every world and whatever hooks do. -/
def Says (m : Model σ) (P : Conversation → Prop) (c : Call σ α) : Prop :=
  ∀ w, m.Unfolding c w fun steps _ => P (exchanged steps)

/-- The conversation is that of the statements that the call issues. -/
theorem Says.exchanges {c : Call σ α} (h : m.Says P c) (w : World σ) :
    P (m.engine.exchanges (c.issued w) w.engine) := by
  obtain ⟨steps, result, w', run, holds⟩ := h w
  rw [run.issued]
  exact holds

/-- Each statement that a call issues has a property that every exchange has. -/
theorem Says.issued {Q : Statement → Prop} {c : Call σ α}
    (h : m.Says (fun xs => ∀ x ∈ xs, Q x.1) c) (w : World σ) : ∀ s ∈ c.issued w, Q s := by
  obtain ⟨steps, result, w', run, holds⟩ := h w
  intro s hs
  rw [run.statements] at hs
  obtain ⟨x, hx, rfl⟩ := List.mem_map.1 hs
  exact holds x hx

/-! ## Calls that say nothing -/

theorem says_pure (nil : P []) (a : α) : m.Says P (pure a) :=
  fun _ => .pure nil

theorem says_lift (nil : P []) (result : Except Error α) : m.Says P (lift result) := by
  cases result with
  | ok a => exact says_pure nil a
  | error e => exact fun w => .throw nil

/-! ## First stages -/

variable {f : α → Call σ β}

theorem says_lift_bind {result : Except Error α} (nil : P [])
    (rest : ∀ a, result = .ok a → m.Says P (f a)) : m.Says P (lift result >>= f) :=
  fun w => .lift_bind (fun _ _ => nil) fun a ha => rest a ha w

theorem says_now_bind {f : Instant → Call σ β} (rest : ∀ now, m.Says P (f now)) :
    m.Says P (now >>= f) :=
  fun w => .quiet_bind w.draws (outcome_now w) (rest w.now w)

theorem says_prepareInsert_bind {data : Record} {f : Record → Call σ β}
    (rest : ∀ data, m.Says P (f data)) : m.Says P (m.prepareInsert data >>= f) :=
  fun _ => .prepareInsert_bind (rest _ _)

/-- The rest of a call works on what the hook gives. -/
theorem says_change_bind {hook : Option (α → Except Error α)} {call : α → HookCall} {payload : α}
    (nil : P []) (rest : ∀ a, consult hook payload = .ok a → m.Says P (f a)) :
    m.Says P (change hook call payload >>= f) := by
  refine fun w => .change_bind (fun none => ?_) (fun _ _ _ _ => nil) fun g a some given => ?_
  · exact rest payload (by rw [none]; rfl) w
  · exact rest a (by rw [some]; exact given) _

theorem says_notify_bind {hook : Option (α → Except Error Unit)} {call : α → HookCall}
    {payload : α} {f : Unit → Call σ β} (nil : P []) (rest : m.Says P (f ())) :
    m.Says P (notify hook call payload >>= f) :=
  fun w => .notify_bind (fun _ => rest w) (fun _ _ _ _ => nil) fun _ _ _ => rest _

/-- **A statement is put to the engine**; the conversation goes on where it was accepted. -/
theorem says_execute_bind {s : Statement} {f : Reply → Call σ β}
    (rejected : ∀ r, P [(s.wire, .error r)])
    (accepted : ∀ reply, m.Says (fun xs => P ((s.wire, .ok reply) :: xs)) (f reply)) :
    m.Says P (m.execute s >>= f) :=
  fun _ => .execute_bind rejected fun reply w' _ => accepted reply w'

/-! ## Calls one after the other -/

/-- **Calls one after the other**, for a property of conversations one after the other. -/
theorem says_bind {c : Call σ α} (append : ∀ xs ys, P xs → P ys → P (xs ++ ys))
    (hc : m.Says P c) (hf : ∀ a, m.Says P (f a)) : m.Says P (c >>= f) := by
  refine fun w => (hc w).bind (fun _ _ holds => holds) fun steps a w' holds => ?_
  refine (hf a w').mono fun more result later => ?_
  rw [exchanged_append]
  exact append _ _ holds later

/-- A call whose failure is caught. -/
theorem says_attempt {c : Call σ α} (h : m.Says P c) : m.Says P (attempt c) := by
  intro w
  obtain ⟨steps, result, w', run, holds⟩ := h w
  exact ⟨steps, .ok result, w', run.attempt, holds⟩

/-! ## Calls that are started together -/

theorem Says.start (waits : Bool) {c : Call σ α} (h : m.Says P c) : m.Says P (start waits c) := by
  intro w
  obtain ⟨steps, result, w', run, holds⟩ := h w
  exact ⟨steps, _, w', run.start waits, holds⟩

/-- **Calls that are started together** say what each of them says, whatever the schedule. -/
theorem says_together (nil : P []) (append : ∀ xs ys, P xs → P ys → P (xs ++ ys))
    {calls : List (Call σ α)} (schedule : Schedule) (h : ∀ c ∈ calls, m.Says P c) :
    m.Says P (together schedule calls) :=
  together_induction (Q := fun c => m.Says P c) (says_lift nil) (says_bind append)
    fun c hc _ => (h c hc).start _

end Model

end RecordMapper
