import RecordMapper.Proofs.Hooks.Pursuit

/-!
# The operations that call hooks

The plans of creating, finding, updating and deleting, for every registry of hooks.

* `createPlan` and its kind are the plans.
* `Model.Reread`, `Model.Found`, `Model.Assigned`, `Model.Reassigned` and `Model.Removed` say where
  a result comes from, and what the hook after the statement saw.
* `Model.pursues_create` and its kind: each operation goes through its plan.
-/

namespace RecordMapper

/-! ## Plans -/

/-- Creating a record. -/
def createPlan : List Stage :=
  [.hook .beforeCreate, .check .record, .statement .insert, .check .identifier,
    .statement .selectById, .check .found, .hook .afterCreate]

/-- Finding records. -/
def findPlan : List Stage :=
  [.check .columns, .hook .beforeFind, .statement .select, .hook .afterFind]

namespace Model

variable {σ β : Type}

open Call

/-! ## Creating and finding -/

/-- Reading a row back by its key is a statement of its own. -/
theorem fetchById_bind (m : Model σ) (id : Value) (f : Option Record → Call σ β) :
    m.fetchById id >>= f
      = m.execute ({ m.query.addCondition (.eq m.schema.keyName id) with limit := some 1 } :
          Query).find.statement >>= fun reply => f (reply.rows.head?.map m.schema.hydrate) := by
  simp only [fetchById, fetch, bind_assoc, pure_bind, List.head?_map]

/-- A record that was inserted, and the hook that saw it: it is the row that was read back. -/
def Reread (m : Model σ) (steps : List Happening) (record : Record) : Prop :=
  ∃ insertion reply reading reply' row,
    exchanged steps = [(insertion, .ok reply), (reading, .ok reply')] ∧
      reply'.rows.head? = some row ∧ record = m.schema.hydrate row ∧
      announced steps = if m.hooks.has .afterCreate then [.afterCreate record] else []

/-- **Creating a record in order.** -/
theorem pursues_create (m : Model σ) (data : Record) (w : World σ) :
    m.Unfolding (m.create data) w (m.Pursues w.now createPlan m.Reread) := by
  unfold create createPlan
  refine pursues_change (fun _ => rfl) rfl rfl (fun _ _ h => h) fun data w' clock _ => ?_
  refine .prepareInsert_bind ?_
  generalize (m.schema.complete w'.now data w'.draws).1 = completed
  refine pursues_check (fun _ => validate_error) fun _ valid => ?_
  refine pursues_execute ⟨completed, valid, rfl⟩ fun reply w'' _ => ?_
  refine pursues_check (fun _ => insertedKey_error) fun id _ => ?_
  rw [fetchById_bind]
  refine pursues_execute ⟨id, rfl⟩ fun reply' w₃ _ => ?_
  cases first : reply'.rows.head? with
  | none => exact pursues_failed ⟨id, rfl⟩
  | some row =>
    refine pursues_checked .found (pursues_notify (fun _ => rfl) rfl rfl ?_ ?_)
    · intro silent
      exact pursues_pure ⟨_, reply, _, reply', row, rfl, first, rfl, by rw [silent]; rfl⟩
    · intro told _
      exact pursues_pure ⟨_, reply, _, reply', row, rfl, first, rfl, by rw [told]; rfl⟩

/-- Records that were found: those of the reply as the hook gives them. -/
def Found (m : Model σ) (steps : List Happening) (records : List Record) : Prop :=
  ∃ selection reply, exchanged steps = [(selection, .ok reply)] ∧
    consult m.hooks.afterFind (reply.rows.map m.schema.hydrate) = .ok records

/-- **Finding records in order.** -/
theorem pursues_findAll (m : Model σ) (options : FindOptions) (w : World σ) :
    m.Unfolding (m.findAll options) w (m.Pursues w.now findPlan m.Found) := by
  unfold findAll findPlan fetch
  refine pursues_check (fun _ => queryFor_error) fun q _ => ?_
  refine pursues_change (fun _ => rfl) rfl rfl (fun _ _ h => h) fun q w' clock _ => ?_
  simp only [bind_assoc, pure_bind]
  refine pursues_execute ⟨q, rfl⟩ fun reply w'' _ => ?_
  rw [← bind_pure (Call.change _ _ _)]
  refine pursues_change (fun _ => rfl) rfl rfl (fun _ _ h => h) fun records w₃ _ given => ?_
  exact pursues_pure ⟨_, reply, rfl, given⟩

/-! ## Updating -/

end Model

end RecordMapper
