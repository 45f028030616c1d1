import RecordMapper.Model.Create
import RecordMapper.Model.Find
import RecordMapper.Model.Update
import RecordMapper.Proofs.Model.Outcome

/-!
# Operations in stages

The operations of a model without hooks as stages: first what needs no engine, then a statement,
then the rest.

* `Model.findAll_eq`, `Model.update_eq` and `Model.delete_eq` are the operations without the stages
  that call hooks; `Model.queryFor` and `Model.updateTemplate` are all that decides their statement.
* `Model.first?_create` and its kind give the statement with which an operation begins, whatever the
  engine answers and whatever the operation does then.
-/

namespace RecordMapper

/-- A statement as it reaches the engine, its parameters in the form in which they are bound. -/
def Statement.wire (s : Statement) : Statement :=
  ⟨s.sql, s.params.map Value.param⟩

namespace Model

variable {σ α : Type} {m : Model σ}

open Call

/-! ## Without hooks -/

theorem beforeCreate_eq (hm : m.hooks = {}) (data : Record) :
    (change m.hooks.beforeCreate .beforeCreate data : Call σ Record) = pure data := by
  rw [hm]
  rfl

theorem afterCreate_eq (hm : m.hooks = {}) (record : Record) :
    (notify m.hooks.afterCreate .afterCreate record : Call σ Unit) = pure () := by
  rw [hm]
  rfl

theorem beforeUpdate_eq (hm : m.hooks = {}) (data : Record) (filter : Filter) :
    m.beforeUpdate data filter = pure (data, filter) := by
  rw [beforeUpdate, hm]
  rfl

theorem afterUpdate_eq (hm : m.hooks = {}) (record : Record) :
    (notify m.hooks.afterUpdate .afterUpdate record : Call σ Unit) = pure () := by
  rw [hm]
  rfl

/-- Inserts a record that is in its stored form, and reads it back. -/
def store (m : Model σ) (data : Record) : Call σ Record := do
  let reply ← m.execute (Insert.one m.table data).statement
  let id ← lift (m.insertedKey data reply.info)
  match ← m.fetchById id with
  | none => throw (.missingRow (.notFound m.table id))
  | some record => return record

theorem create_eq (hm : m.hooks = {}) (data : Record) :
    m.create data = m.prepareInsert data >>= fun data =>
      lift (m.schema.validate .create data) >>= fun _ => m.store (m.schema.encode data) := by
  simp only [create, beforeCreate_eq hm, pure_bind, afterCreate_eq hm]
  rfl

theorem beforeFind_eq (hm : m.hooks = {}) (q : Query) :
    (change m.hooks.beforeFind .beforeFind q : Call σ Query) = pure q := by
  rw [hm]
  rfl

theorem afterFind_eq (hm : m.hooks = {}) (records : List Record) :
    (change m.hooks.afterFind .afterFind records : Call σ (List Record)) = pure records := by
  rw [hm]
  rfl

theorem findAll_eq (hm : m.hooks = {}) (options : FindOptions) :
    m.findAll options = lift (m.queryFor options) >>= m.fetch := by
  simp only [findAll, beforeFind_eq hm, afterFind_eq hm, pure_bind, bind_pure]

/-- Find options with a query have passed the checks. -/
theorem queryFor_checked {options : FindOptions} {q : Query} (h : m.queryFor options = .ok q) :
    m.checkFilter options.filter = .ok () ∧ m.checkColumns "select" options.select = .ok () ∧
      m.checkColumns "order_by" (options.order.map (·.column)) = .ok () ∧
      q = { m.query with
        select := options.select
        conditions := options.filter ++
          (if m.schema.hidesDeleted && !options.withDeleted then [.isNull deletedAt] else [])
        orderBy := options.order
        limit := options.limit
        offset := options.offset } := by
  obtain ⟨_, filter, h⟩ := bind_eq_ok.1 h
  obtain ⟨_, select, h⟩ := bind_eq_ok.1 h
  obtain ⟨_, order, h⟩ := bind_eq_ok.1 h
  exact ⟨filter, select, order, (Except.ok.inj h).symm⟩

/-- The query of find options, where their columns are fields. -/
theorem queryFor_ok {options : FindOptions} {q : Query} (h : m.queryFor options = .ok q) :
    q = { m.query with
      select := options.select
      conditions := options.filter ++
        (if m.schema.hidesDeleted && !options.withDeleted then [.isNull deletedAt] else [])
      orderBy := options.order
      limit := options.limit
      offset := options.offset } :=
  (queryFor_checked h).2.2.2

/-- What decides the statement of an update. -/
def updateTemplate (m : Model σ) (now : Instant) (data : Record) (filter : Filter) :
    Except Error Template :=
  let data := m.assignable data
  if data.isEmpty then .error .noFieldsToUpdate
  else do
    let data := m.stamped now data
    m.schema.validate .partialUpdate data
    m.checkFilter filter
    (m.query.addFilter filter).update (m.schema.encode data)

/-- An update with a statement assigns something, and has passed the checks. -/
theorem updateTemplate_checked {now : Instant} {data : Record} {filter : Filter} {t : Template}
    (h : m.updateTemplate now data filter = .ok t) :
    m.schema.validate .partialUpdate (m.stamped now (m.assignable data)) = .ok () ∧
      m.checkFilter filter = .ok () ∧
      (m.query.addFilter filter).update (m.schema.encode (m.stamped now (m.assignable data)))
        = .ok t := by
  unfold updateTemplate at h
  simp only at h
  split at h
  · cases h
  · obtain ⟨_, valid, h⟩ := bind_eq_ok.1 h
    obtain ⟨_, checked, h⟩ := bind_eq_ok.1 h
    exact ⟨valid, checked, h⟩

/-- The statement of an update, where it has one. -/
theorem updateTemplate_ok {now : Instant} {data : Record} {filter : Filter} {t : Template}
    (h : m.updateTemplate now data filter = .ok t) :
    (m.query.addFilter filter).update (m.schema.encode (m.stamped now (m.assignable data)))
      = .ok t :=
  (updateTemplate_checked h).2.2

/-- An update without the hook: the assigned fields are checked and put to the engine. -/
def assign (m : Model σ) (data : Record) (filter : Filter) : Call σ ReplyInfo := do
  let t ← lift (m.updateTemplate (← Call.now) data filter)
  return (← m.execute t.statement).info

theorem update_stages (m : Model σ) (data : Record) (filter : Filter) :
    m.update data filter
      = m.beforeUpdate data filter >>= fun (data, filter) => m.assign data filter := by
  refine bind_congr fun (data, filter) => Call.ext fun w => ?_
  simp only [assign, updateTemplate]
  rw [outcome_bind_ok (outcome_now w)]
  by_cases empty : (m.assignable data).isEmpty = true
  · simp only [empty, if_true]
    rfl
  · simp only [empty, Bool.false_eq_true, if_false, lift_bind, bind_assoc]
    rw [outcome_bind_ok (outcome_now w)]

theorem update_eq (hm : m.hooks = {}) (data : Record) (filter : Filter) :
    m.update data filter = do
      let t ← lift (m.updateTemplate (← Call.now) data filter)
      return (← m.execute t.statement).info := by
  rw [update_stages, beforeUpdate_eq hm, pure_bind]
  rfl

theorem delete_eq (hm : m.hooks = {}) (filter : Filter) :
    m.delete filter = do
      lift (m.checkFilter filter)
      return (← m.execute (m.query.addFilter filter).delete.statement).info.changes := by
  have before : (change m.hooks.beforeDelete .beforeDelete filter : Call σ Filter)
      = pure filter := by
    rw [hm]
    rfl
  have deleted : ∀ n, (notify m.hooks.afterDelete .afterDelete n : Call σ Unit) = pure () := by
    rw [hm]
    exact fun n => rfl
  simp only [delete, before, deleted, pure_bind]

/-! ## First statements -/

theorem growing_execute (m : Model σ) (s : Statement) : Growing (m.execute s) := by
  refine (growing_ask m.engine s.wire).bind fun answer => ?_
  cases answer with
  | ok reply => exact growing_pure reply
  | error rejection => exact growing_throw _

theorem growing_fetch (m : Model σ) (q : Query) : Growing (m.fetch q) :=
  (growing_execute m q.find.statement).bind fun _ => growing_pure _

theorem growing_fetchById (m : Model σ) (id : Value) : Growing (m.fetchById id) :=
  (growing_fetch m _).bind fun _ => growing_pure _

theorem first?_execute_bind (m : Model σ) (s : Statement) {f : Reply → Call σ α}
    (hf : ∀ reply, Growing (f reply)) (w : World σ) :
    first? (m.execute s >>= f) w = some s.wire := by
  rw [execute, bind_assoc]
  refine first?_ask_bind m.engine s.wire (fun answer => ?_) w
  cases answer with
  | ok reply => exact (growing_pure reply).bind hf
  | error rejection => exact (growing_throw _).bind hf

/-- Storing a record begins by inserting it. -/
theorem first?_store (m : Model σ) (data : Record) (w : World σ) :
    first? (m.store data) w = some (Insert.one m.table data).statement.wire := by
  refine first?_execute_bind m _ (fun reply => ?_) w
  refine (growing_lift _).bind fun id => (growing_fetchById m id).bind fun found => ?_
  cases found with
  | none => exact growing_throw _
  | some record => exact growing_pure record

/-- A creation begins by inserting the completed record, if that passes validation. -/
theorem first?_create (hm : m.hooks = {}) {data : Record} {w : World σ} {s : Statement}
    (h : first? (m.create data) w = some s) :
    s = (Insert.one m.table
      (m.schema.encode (m.schema.complete w.now data w.draws).1)).statement.wire := by
  have prepared : outcome (m.prepareInsert data) w
      = (.ok (m.schema.complete w.now data w.draws).1,
          { w with draws := (m.schema.complete w.now data w.draws).2 }) := rfl
  rw [create_eq hm, first?_quiet_bind prepared rfl, first?_lift_bind] at h
  cases hv : m.schema.validate .create (m.schema.complete w.now data w.draws).1 with
  | error e => simp [hv] at h
  | ok _ =>
    rw [hv] at h
    exact (Option.some_inj.1 ((first?_store m _ _).symm.trans h)).symm

/-- An update begins with the statement that `Model.updateTemplate` decides. -/
theorem first?_update (hm : m.hooks = {}) {data : Record} {filter : Filter} {w : World σ}
    {s : Statement} (h : first? (m.update data filter) w = some s) :
    ∃ t, m.updateTemplate w.now data filter = .ok t ∧ s = t.statement.wire := by
  rw [update_eq hm, first?_quiet_bind (outcome_now w) rfl, first?_lift_bind] at h
  cases ht : m.updateTemplate w.now data filter with
  | error e => simp [ht] at h
  | ok t =>
    rw [ht] at h
    simp only [first?_execute_bind m _ fun reply => growing_pure _] at h
    exact ⟨t, rfl, (Option.some_inj.1 h).symm⟩

/-- A deletion begins by deleting the rows of its filter. -/
theorem first?_delete (hm : m.hooks = {}) {filter : Filter} {w : World σ} {s : Statement}
    (h : first? (m.delete filter) w = some s) :
    s = (m.query.addFilter filter).delete.statement.wire := by
  rw [delete_eq hm, first?_lift_bind] at h
  cases hc : m.checkFilter filter with
  | error e => simp [hc] at h
  | ok _ =>
    rw [hc] at h
    simp only [first?_execute_bind m _ fun reply => growing_pure _] at h
    exact (Option.some_inj.1 h).symm

/-- Finding records begins by selecting the rows of its query. -/
theorem first?_findAll (hm : m.hooks = {}) {options : FindOptions} {w : World σ} {s : Statement}
    (h : first? (m.findAll options) w = some s) :
    ∃ q, m.queryFor options = .ok q ∧ s = q.find.statement.wire := by
  rw [findAll_eq hm, first?_lift_bind] at h
  cases hq : m.queryFor options with
  | error e => simp [hq] at h
  | ok q =>
    rw [hq] at h
    simp only [fetch, first?_execute_bind m _ fun reply => growing_pure _] at h
    exact ⟨q, rfl, (Option.some_inj.1 h).symm⟩

/-- Counting records begins by counting the rows of its query. -/
theorem first?_count {filter : Filter} {w : World σ} {s : Statement}
    (h : first? (m.count filter) w = some s) :
    ∃ q, m.queryFor { filter } = .ok q ∧ s = q.count.statement.wire := by
  rw [count, first?_lift_bind] at h
  cases hq : m.queryFor { filter } with
  | error e => simp [hq] at h
  | ok q =>
    rw [hq] at h
    refine ⟨q, rfl, (Option.some_inj.1
      ((first?_execute_bind m _ (fun reply => ?_) _).symm.trans h)).symm⟩
    cases reply.first? with
    | none => exact growing_pure 0
    | some row => exact growing_lift _

end Model

end RecordMapper
