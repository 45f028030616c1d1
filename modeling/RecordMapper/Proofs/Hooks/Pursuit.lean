import RecordMapper.Proofs.Hooks.Course

/-!
# Going through a plan

The rules by which a call is led through the stages of a plan.

* `consult` is what a hook makes of what it receives; `announced` are the calls of hooks after a
  statement.
* `Model.Pursues`: what happens goes through a plan, and a result is as it should be.
  `pursues_change`, `pursues_execute` and their kind add one stage in front.
-/

namespace RecordMapper

/-! ## What hooks say and see -/

/-- What a hook makes of what it receives; without one it stays as it is. -/
def consult {α : Type} (hook : Option (α → Except Error α)) (payload : α) : Except Error α :=
  match hook with
  | none => .ok payload
  | some g => g payload

/-- Whether a hook is called after a statement. -/
def HookCall.isAfter : HookCall → Bool
  | .afterCreate _ | .afterUpdate _ | .afterDelete _ | .afterFind _ => true
  | .beforeCreate _ | .beforeUpdate _ _ | .beforeDelete _ | .beforeFind _ => false

/-- The calls of hooks after a statement. -/
def announced (steps : List Happening) : List HookCall :=
  steps.filterMap fun
    | .called call => if call.isAfter then some call else none
    | .said _ _ => none

namespace Model

variable {σ α β : Type} {m : Model σ} {w : World σ}

open Call

/-! ## Going through a plan -/

/-- What happens goes through a plan, and a result is as `P` says. -/
def Pursues (m : Model σ) (now : Instant) (plan : List Stage) (P : List Happening → α → Prop)
    (steps : List Happening) (result : Except Error α) : Prop :=
  m.Course now plan steps (failure? result) ∧ ∀ a, result = .ok a → P steps a

variable {now : Instant} {plan : List Stage} {P : List Happening → β → Prop}

theorem pursues_pure {b : β} (h : P [] b) :
    m.Unfolding (Pure.pure b : Call σ β) w (m.Pursues now [] P) :=
  .pure ⟨.done, fun _ hb => Except.ok.inj hb ▸ h⟩

/-- The stage of a hook that may change what it receives. -/
theorem pursues_change {hook : Option (α → Except Error α)} {call : α → HookCall} {payload : α}
    {f : α → Call σ β} {kind : HookKind} (same : ∀ a, (call a).kind = kind)
    (has : m.hooks.has kind = hook.isSome)
    (refusal : m.hooks.refusal? (call payload) = hook.bind fun g => failure? (g payload))
    (apart : ∀ steps b, P steps b → P (.called (call payload) :: steps) b)
    (rest : ∀ a w', w'.now = w.now → consult hook payload = .ok a →
      m.Unfolding (f a) w' (m.Pursues now plan P)) :
    m.Unfolding (Call.change hook call payload >>= f) w
      (m.Pursues now (.hook kind :: plan) P) := by
  refine .change_bind (fun none => ?_) (fun g e some refuses => ?_) fun g a some changes => ?_
  · refine (rest payload w rfl (by rw [none]; rfl)).mono fun steps result ⟨course, good⟩ =>
      ⟨?_, good⟩
    exact .unregistered (by rw [has, none]; rfl) course
  · refine ⟨?_, fun b hb => by cases hb⟩
    rw [← same payload]
    refine .refused (.hook (by rw [same, has, some]; rfl)) ?_ plan
    rw [refusal?, refusal, some, Option.bind_some, refuses]
    rfl
  · refine (rest a (noted w (call payload)) rfl (by rw [some]; exact changes)).mono
      fun steps result ⟨course, good⟩ => ⟨?_, fun b hb => apart steps b (good b hb)⟩
    rw [← same payload]
    refine .passed (.hook (by rw [same, has, some]; rfl)) ?_ course
    rw [refusal?, refusal, some, Option.bind_some, changes]
    rfl

/-- The stage of a hook that only looks at what it receives. -/
theorem pursues_notify {hook : Option (α → Except Error Unit)} {call : α → HookCall} {payload : α}
    {f : Unit → Call σ β} {kind : HookKind} (same : ∀ a, (call a).kind = kind)
    (has : m.hooks.has kind = hook.isSome)
    (refusal : m.hooks.refusal? (call payload) = hook.bind fun g => failure? (g payload))
    (unregistered : m.hooks.has kind = false → m.Unfolding (f ()) w (m.Pursues now plan P))
    (registered : m.hooks.has kind = true → ∀ w',
      m.Unfolding (f ()) w' (m.Pursues now plan fun steps => P (.called (call payload) :: steps))) :
    m.Unfolding (Call.notify hook call payload >>= f) w
      (m.Pursues now (.hook kind :: plan) P) := by
  refine .notify_bind (fun none => ?_) (fun g e some refuses => ?_) fun g some passes => ?_
  · have hidden : m.hooks.has kind = false := by rw [has, none]; rfl
    exact (unregistered hidden).mono fun steps result ⟨course, good⟩ =>
      ⟨.unregistered hidden course, good⟩
  · refine ⟨?_, fun b hb => by cases hb⟩
    rw [← same payload]
    refine .refused (.hook (by rw [same, has, some]; rfl)) ?_ plan
    rw [refusal?, refusal, some, Option.bind_some, refuses]
    rfl
  · have shown : m.hooks.has kind = true := by rw [has, some]; rfl
    refine (registered shown _).mono fun steps result ⟨course, good⟩ => ⟨?_, good⟩
    rw [← same payload]
    refine .passed (.hook (by rw [same, shown])) ?_ course
    rw [refusal?, refusal, some, Option.bind_some, passes]
    rfl

/-- The stage of a statement. -/
theorem pursues_execute {s : Statement} {f : Reply → Call σ β} {kind : StatementKind}
    (writes : m.Writes now kind s.wire)
    (rest : ∀ reply w', w'.now = w.now → m.Unfolding (f reply) w'
      (m.Pursues now plan fun steps => P (.said s.wire (.ok reply) :: steps))) :
    m.Unfolding (m.execute s >>= f) w (m.Pursues now (.statement kind :: plan) P) := by
  refine .execute_bind (fun r => ⟨?_, fun b hb => by cases hb⟩) fun reply w' clock => ?_
  · exact .refused (.statement writes _) rfl plan
  · exact (rest reply w' clock).mono fun steps result ⟨course, good⟩ =>
      ⟨.passed (.statement writes _) rfl course, good⟩

/-- The stage of a check. -/
theorem pursues_check {result : Except Error α} {f : α → Call σ β} {check : Check}
    (raises : ∀ e, result = .error e → m.Raises check e)
    (rest : ∀ a, result = .ok a → m.Unfolding (f a) w (m.Pursues now plan P)) :
    m.Unfolding (Call.lift result >>= f) w (m.Pursues now (.check check :: plan) P) := by
  refine .lift_bind (fun e fails => ⟨?_, fun b hb => by cases hb⟩) fun a passes => ?_
  · exact .failed (raises e fails) plan
  · exact (rest a passes).mono fun steps result ⟨course, good⟩ => ⟨.checked check course, good⟩

/-- A check that has gone well. -/
theorem pursues_checked (check : Check) {c : Call σ β}
    (h : m.Unfolding c w (m.Pursues now plan P)) :
    m.Unfolding c w (m.Pursues now (.check check :: plan) P) :=
  h.mono fun _ _ ⟨course, good⟩ => ⟨.checked check course, good⟩

/-- A check that fails. -/
theorem pursues_failed {check : Check} {e : Error} (raises : m.Raises check e) :
    m.Unfolding (throw e : Call σ β) w (m.Pursues now (.check check :: plan) P) :=
  .throw ⟨.failed raises plan, fun _ h => by cases h⟩

end Model

end RecordMapper
