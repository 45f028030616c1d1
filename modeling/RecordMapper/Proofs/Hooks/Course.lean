import Mathlib.Data.List.Forall2
import RecordMapper.Proofs.Hooks.Unfolding
import RecordMapper.Proofs.Model.Checks
import RecordMapper.Proofs.Upsert.Path

/-!
# The course of an operation

An operation as a plan of stages, which are gone through in order up to the first that fails.

* `Stage` is the call of a hook, a statement, or a check in between that needs neither.
* `Model.Course`: some happenings go through a plan. A hook that is not registered is passed over;
  the stage that fails ends the course, and its error is the one that is given.
* `Course.inOrder`, `Course.complete` and `Course.stops` say the same of the happenings as a list:
  they are those of the first stages of the plan that can be seen, of all of them where nothing
  fails, and all but the last one went well.
-/

namespace RecordMapper

/-! ## Stages -/

/-- The events for which hooks are registered. -/
inductive HookKind where
  | beforeCreate
  | afterCreate
  | beforeUpdate
  | afterUpdate
  | beforeDelete
  | afterDelete
  | beforeFind
  | afterFind
deriving DecidableEq, Repr

/-- The event of a call. -/
def HookCall.kind : HookCall → HookKind
  | .beforeCreate _ => .beforeCreate
  | .afterCreate _ => .afterCreate
  | .beforeUpdate _ _ => .beforeUpdate
  | .afterUpdate _ => .afterUpdate
  | .beforeDelete _ => .beforeDelete
  | .afterDelete _ => .afterDelete
  | .beforeFind _ => .beforeFind
  | .afterFind _ => .afterFind

/-- The statements that operations issue. -/
inductive StatementKind where
  | insert
  | select
  /-- The selection of one row by its key. -/
  | selectById
  | update
  | delete
deriving DecidableEq, Repr

/-- The checks that need no engine. -/
inductive Check where
  /-- The columns that are named are fields. -/
  | columns
  /-- Something is assigned. -/
  | assignment
  /-- The record is valid. -/
  | record
  /-- The engine says which row it inserted. -/
  | identifier
  /-- The row can be read back. -/
  | found
deriving DecidableEq, Repr

/-- A stage of an operation. -/
inductive Stage where
  | hook (kind : HookKind)
  | statement (kind : StatementKind)
  | check (check : Check)
deriving DecidableEq, Repr

/-- The error of a computation that fails. -/
def failure? {α : Type} : Except Error α → Option Error
  | .ok _ => none
  | .error e => some e

namespace Hooks

/-- Whether a hook is registered for an event. -/
def has (h : Hooks) : HookKind → Bool
  | .beforeCreate => h.beforeCreate.isSome
  | .afterCreate => h.afterCreate.isSome
  | .beforeUpdate => h.beforeUpdate.isSome
  | .afterUpdate => h.afterUpdate.isSome
  | .beforeDelete => h.beforeDelete.isSome
  | .afterDelete => h.afterDelete.isSome
  | .beforeFind => h.beforeFind.isSome
  | .afterFind => h.afterFind.isSome

/-- The error with which a hook refuses a call. -/
def refusal? (h : Hooks) : HookCall → Option Error
  | .beforeCreate data => h.beforeCreate.bind fun f => failure? (f data)
  | .afterCreate record => h.afterCreate.bind fun f => failure? (f record)
  | .beforeUpdate data filter => h.beforeUpdate.bind fun f => failure? (f data filter)
  | .afterUpdate record => h.afterUpdate.bind fun f => failure? (f record)
  | .beforeDelete filter => h.beforeDelete.bind fun f => failure? (f filter)
  | .afterDelete count => h.afterDelete.bind fun f => failure? (f count)
  | .beforeFind query => h.beforeFind.bind fun f => failure? (f query)
  | .afterFind records => h.afterFind.bind fun f => failure? (f records)

end Hooks

namespace Model

variable {σ : Type}

/-- The statements of a kind, at a time. What is inserted, assigned or deleted has passed its
checks; a hook may make any query of a selection. -/
def Writes (m : Model σ) (now : Instant) : StatementKind → Statement → Prop
  | .insert, s => ∃ data, m.schema.validate .create data = .ok () ∧
      s = m.insertion (m.schema.encode data)
  | .select, s => ∃ q : Query, s = q.find.statement.wire
  | .selectById, s => ∃ id, s = m.selectById id
  | .update, s => ∃ data filter t, m.updateTemplate now data filter = .ok t ∧ s = t.statement.wire
  | .delete, s => ∃ filter, m.checkFilter filter = .ok () ∧
      s = (m.query.addFilter filter).delete.statement.wire

/-- The errors of a check. -/
def Raises (m : Model σ) : Check → Error → Prop
  | .columns, e => m.Undeclared e
  | .assignment, e => e = .noFieldsToUpdate
  | .record, e => ∃ violations, e = .validation violations
  | .identifier, e => e = .missingRow (.noIdentifier m.table)
  | .found, e => ∃ id, e = .missingRow (.notFound m.table id)

/-- What happens at a stage. -/
inductive Fits (m : Model σ) (now : Instant) : Stage → Happening → Prop
  /-- The registered hook is called. -/
  | hook {call : HookCall} (registered : m.hooks.has call.kind = true) :
    Fits m now (.hook call.kind) (.called call)
  /-- A statement of the kind is put to the engine. -/
  | statement {kind : StatementKind} {s : Statement} (writes : m.Writes now kind s)
      (answer : Answer) : Fits m now (.statement kind) (.said s answer)

/-- The error of what happened, if the engine or the hook refused. -/
def refusal? (m : Model σ) : Happening → Option Error
  | .said _ (.ok _) => none
  | .said s (.error r) => some (m.failure s r)
  | .called call => m.hooks.refusal? call

/-- Whether a stage leaves something in the trace. -/
def shows (m : Model σ) : Stage → Bool
  | .hook kind => m.hooks.has kind
  | .statement _ => true
  | .check _ => false

/-- The stages of a plan that can be seen. -/
def visible (m : Model σ) (plan : List Stage) : List Stage :=
  plan.filter m.shows

/-! ## Courses -/

/-- Happenings that go through a plan, and the error of the stage that fails. -/
inductive Course (m : Model σ) (now : Instant) :
    List Stage → List Happening → Option Error → Prop
  /-- All stages are gone through. -/
  | done : Course m now [] [] none
  /-- No hook is registered. -/
  | unregistered {kind : HookKind} {plan : List Stage} {steps : List Happening}
      {failure : Option Error} (h : m.hooks.has kind = false)
      (rest : Course m now plan steps failure) : Course m now (.hook kind :: plan) steps failure
  /-- A hook or a statement is accepted. -/
  | passed {stage : Stage} {step : Happening} {plan : List Stage} {steps : List Happening}
      {failure : Option Error} (fits : m.Fits now stage step) (accepted : m.refusal? step = none)
      (rest : Course m now plan steps failure) :
    Course m now (stage :: plan) (step :: steps) failure
  /-- A hook or a statement is refused; nothing comes after it. -/
  | refused {stage : Stage} {step : Happening} {e : Error} (fits : m.Fits now stage step)
      (refusal : m.refusal? step = some e) (plan : List Stage) :
    Course m now (stage :: plan) [step] (some e)
  /-- A check goes well. -/
  | checked (check : Check) {plan : List Stage} {steps : List Happening} {failure : Option Error}
      (rest : Course m now plan steps failure) : Course m now (.check check :: plan) steps failure
  /-- A check fails; nothing comes after it. -/
  | failed {check : Check} {e : Error} (raises : m.Raises check e) (plan : List Stage) :
    Course m now (.check check :: plan) [] (some e)

namespace Course

variable {m : Model σ} {now : Instant} {plan plan' : List Stage} {steps more : List Happening}
  {failure : Option Error} {e : Error}

/-- A course that goes on with another plan. -/
theorem append (h : m.Course now plan steps none) (h' : m.Course now plan' more failure) :
    m.Course now (plan ++ plan') (steps ++ more) failure := by
  generalize nothing : (none : Option Error) = finished at h
  induction h with
  | done => exact h'
  | unregistered none _ ih => exact .unregistered none (ih nothing)
  | passed fits accepted _ ih => exact .passed fits accepted (ih nothing)
  | refused => cases nothing
  | checked check _ ih => exact .checked check (ih nothing)
  | failed => cases nothing

theorem shows_of_fits {stage : Stage} {step : Happening} (h : m.Fits now stage step) :
    m.shows stage = true := by
  cases h with
  | hook registered => exact registered
  | statement => rfl

/-- **What happens is that of the first stages**, and of all where nothing fails. -/
theorem inOrder (h : m.Course now plan steps failure) :
    ∃ passed rest, m.visible plan = passed ++ rest ∧ List.Forall₂ (m.Fits now) passed steps ∧
      (failure = none → rest = []) := by
  induction h with
  | done => exact ⟨[], [], rfl, .nil, fun _ => rfl⟩
  | @unregistered kind _ _ _ none _ ih =>
    have hidden : ¬ m.shows (.hook kind) = true := Bool.eq_false_iff.1 none
    obtain ⟨passed, rest, all, fits, ends⟩ := ih
    exact ⟨passed, rest, by rw [visible, List.filter_cons_of_neg hidden]; exact all, fits, ends⟩
  | passed fits _ _ ih =>
    obtain ⟨passed, rest, all, later, ends⟩ := ih
    refine ⟨_ :: passed, rest, ?_, .cons fits later, ends⟩
    rw [visible, List.filter_cons_of_pos (shows_of_fits fits)]
    exact congrArg (_ :: ·) all
  | refused fits _ plan =>
    refine ⟨[_], m.visible plan, ?_, .cons fits .nil, fun none => by cases none⟩
    rw [visible, List.filter_cons_of_pos (shows_of_fits fits)]
    rfl
  | checked check _ ih =>
    obtain ⟨passed, rest, all, fits, ends⟩ := ih
    exact ⟨passed, rest, all, fits, ends⟩
  | @failed check e _ plan =>
    exact ⟨[], m.visible (.check check :: plan), rfl, .nil, fun none => by cases none⟩

/-- **All but the last went well**: what is refused is the last thing that happens and gives its
error, or a check of the plan fails after everything went well. -/
theorem stops (h : m.Course now plan steps failure) :
    (failure = none ∧ ∀ step ∈ steps, m.refusal? step = none) ∨
      (∃ before step, steps = before ++ [step] ∧ (∀ s ∈ before, m.refusal? s = none) ∧
        m.refusal? step = failure ∧ failure ≠ none) ∨
      ((∀ step ∈ steps, m.refusal? step = none) ∧
        ∃ check e, .check check ∈ plan ∧ m.Raises check e ∧ failure = some e) := by
  induction h with
  | done => exact .inl ⟨rfl, by simp⟩
  | unregistered _ _ ih | checked _ _ ih =>
    refine ih.imp_right (Or.imp_right ?_)
    rintro ⟨well, check, e, member, raises, ends⟩
    exact ⟨well, check, e, List.mem_cons_of_mem _ member, raises, ends⟩
  | @passed stage step _ _ _ _ accepted _ ih =>
    rcases ih with ⟨none, well⟩ | ⟨before, last, rfl, well, ends⟩ | ⟨well, check, e, member, fails⟩
    · exact .inl ⟨none, by simpa [accepted] using well⟩
    · exact .inr (.inl ⟨step :: before, last, rfl, by simpa [accepted] using well, ends⟩)
    · exact .inr (.inr ⟨by simpa [accepted] using well, check, e,
        List.mem_cons_of_mem _ member, fails⟩)
  | refused _ refusal _ => exact .inr (.inl ⟨[], _, rfl, by simp, refusal, by simp⟩)
  | failed raises _ =>
    exact .inr (.inr ⟨by simp, _, _, List.mem_cons_self, raises, rfl⟩)

end Course

end Model

end RecordMapper
