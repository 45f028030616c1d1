import RecordMapper.Model.Tables
import RecordMapper.Proofs.Model.Together
import RecordMapper.Proofs.Sql.Declared
import RecordMapper.Proofs.Sql.Plain
import RecordMapper.Proofs.Storage

/-!
# Operations that go straight on

The operations of a model without hooks that never catch a failure.

* `Model.Composes` are the statements of drafts over declared columns, if the schema is plain.
* `Model.straight_create` and its kind run through the operations: each of them composes all its
  statements so, and reports every rejection.
* `Operation` are these operations, with their arguments. `Operation.straight` is what holds of all
  that put one statement after another; `Model.follows_stats` is about the statements of a summary,
  which are put together.
* `Model.straight_createTable` and `Model.straight_dropTable`: creating and dropping the table
  report every rejection as well.
-/

namespace RecordMapper

namespace Model

variable {σ : Type} {m : Model σ}

open Call

/-! ## Declared queries -/

/-- A statement that is composed over declared columns, if the schema is plain. -/
def Composes (m : Model σ) (s : Statement) : Prop :=
  m.schema.Plain →
    ∃ d t, Draft.Declared m.schema d ∧ d.template = .ok t ∧ s = t.statement.wire

theorem composes_find {q : Query} (h : m.schema.Plain → q.Declared m.schema) :
    m.Composes q.find.statement.wire :=
  fun plain => ⟨.find q, q.find, h plain, rfl, rfl⟩

theorem composes_count {q : Query} (h : m.schema.Plain → q.Declared m.schema) :
    m.Composes q.count.statement.wire :=
  fun plain => ⟨.count q, q.count, h plain, rfl, rfl⟩

/-- A query of some rows. -/
theorem declared_filter {filter : Filter}
    (h : ∀ c ∈ filter, m.schema.hasField c.field = true) :
    Query.Declared m.schema (m.query.addFilter filter) where
  table := rfl
  select := by simp [query, Query.addFilter]
  joins := rfl
  conditions := by simpa [query, Query.addFilter] using h
  groupBy := by simp [query, Query.addFilter]
  having := rfl
  orderBy := by simp [query, Query.addFilter]

/-- **The query of find options** is over declared columns. -/
theorem declared_queryFor {options : FindOptions} {q : Query} (h : m.queryFor options = .ok q)
    (plain : m.schema.Plain) : q.Declared m.schema := by
  obtain ⟨filter, select, order, rfl⟩ := queryFor_checked h
  refine ⟨rfl, fun text ht => .inl (hasField_of_checkColumns select text ht), rfl, ?_,
    by simp [query], rfl,
    fun o ho => .inl (hasField_of_checkColumns order o.column (List.mem_map_of_mem ho))⟩
  intro c hc
  rcases List.mem_append.1 hc with given | alive
  · exact hasField_of_checkFilter filter c given
  · split at alive
    · next hides =>
      obtain rfl := List.mem_singleton.1 alive
      simp only [Schema.hidesDeleted, Bool.and_eq_true] at hides
      exact plain.mark hides.1.1
    · cases alive

/-- A query of find options that name no columns selects and orders by none. -/
theorem select_queryFor {filter : Filter} {q : Query} (h : m.queryFor { filter } = .ok q) :
    q.select = [] ∧ q.orderBy = [] ∧ q.groupBy = [] := by
  rw [queryFor_ok h]
  exact ⟨rfl, rfl, rfl⟩

/-! ## Statements -/

theorem straight_fetch {q : Query} (h : m.schema.Plain → q.Declared m.schema) :
    m.Straight m.Composes (m.fetch q) :=
  (straight_execute (composes_find h)).bind fun _ => .pure _

theorem straight_fetchCount {q : Query} (h : m.schema.Plain → q.Declared m.schema) :
    m.Straight m.Composes (m.fetchCount q) := by
  refine (straight_execute (composes_count h)).bind fun reply => ?_
  cases reply.first? with
  | none => exact .pure 0
  | some row => exact .lift _

theorem straight_fetchById (m : Model σ) (id : Value) :
    m.Straight m.Composes (m.fetchById id) := by
  refine (straight_fetch fun _ => ?_).bind fun _ => .pure _
  have keyed : Query.Declared m.schema (m.query.addFilter [.eq m.schema.keyName id]) :=
    declared_filter (by simpa [Condition.eq, Condition.ofValue] using m.schema.hasField_keyName)
  exact { keyed with }

theorem straight_now_bind {α : Type} {P : Statement → Prop} {f : Instant → Call σ α}
    (h : ∀ now, m.Straight P (f now)) : m.Straight P (Call.now >>= f) :=
  Straight.now.bind h

/-! ## Creating and finding -/

theorem straight_create (hm : m.hooks = {}) (data : Record) :
    m.Straight m.Composes (m.create data) := by
  rw [create_eq hm]
  refine (Straight.prepareInsert m data).bind fun data => Straight.lift_bind fun _ valid => ?_
  have composed : m.Composes (Insert.one m.table (m.schema.encode data)).statement.wire := by
    refine fun _ => ⟨.insert m.table (m.schema.encode data), _, ⟨rfl, fun name hn => ?_⟩, rfl, rfl⟩
    rw [Schema.fields_encode] at hn
    exact Schema.hasField_of_validate valid hn
  refine (straight_execute composed).bind fun reply => Straight.lift_bind fun id _ => ?_
  refine (straight_fetchById m id).bind fun found => ?_
  cases found with
  | none => exact .lift (.error _)
  | some record => exact .pure record

theorem straight_findAll (hm : m.hooks = {}) (options : FindOptions) :
    m.Straight m.Composes (m.findAll options) := by
  rw [findAll_eq hm]
  exact Straight.lift_bind fun q hq => straight_fetch (declared_queryFor hq)

theorem straight_findOne (hm : m.hooks = {}) (options : FindOptions) :
    m.Straight m.Composes (m.findOne options) :=
  (straight_findAll hm _).bind fun _ => .pure _

theorem straight_count (m : Model σ) (filter : Filter) :
    m.Straight m.Composes (m.count filter) :=
  Straight.lift_bind fun _ hq => straight_fetchCount (declared_queryFor hq)

theorem straight_paginate (hm : m.hooks = {}) (page perPage : UInt64) (options : FindOptions) :
    m.Straight m.Composes (m.paginate page perPage options) := by
  unfold paginate
  simp only [beforeFind_eq hm, afterFind_eq hm, pure_bind]
  split
  · exact .lift (.error _)
  · refine Straight.lift_bind fun q hq => ?_
    refine (straight_fetchCount fun plain => ?_).bind fun total =>
      (straight_fetch fun plain => ?_).bind fun records => .pure _
    · exact { declared_queryFor hq plain with orderBy := by simp [Query.clearPaging] }
    · exact { declared_queryFor hq plain with }

/-! ## Changing and deleting -/

theorem straight_update (hm : m.hooks = {}) (data : Record) (filter : Filter) :
    m.Straight m.Composes (m.update data filter) := by
  rw [update_eq hm]
  refine straight_now_bind fun now => Straight.lift_bind fun t ht => ?_
  refine (straight_execute fun _ => ?_).bind fun _ => .pure _
  obtain ⟨valid, checked, written⟩ := updateTemplate_checked ht
  refine ⟨.update (m.query.addFilter filter) _, t,
    ⟨declared_filter (hasField_of_checkFilter checked), fun name hn => ?_⟩, written, rfl⟩
  rw [Schema.fields_encode] at hn
  exact Schema.hasField_of_validate valid hn

theorem straight_updateById (hm : m.hooks = {}) (id : Value) (data : Record) :
    m.Straight m.Composes (m.updateById id data) := by
  unfold updateById
  simp only [afterUpdate_eq hm, pure_bind]
  refine (straight_update hm data _).bind fun _ => (straight_fetchById m id).bind fun found => ?_
  cases found with
  | none => exact .pure none
  | some record => exact .pure (some record)

theorem straight_delete (hm : m.hooks = {}) (filter : Filter) :
    m.Straight m.Composes (m.delete filter) := by
  rw [delete_eq hm]
  refine Straight.lift_bind fun _ checked => ?_
  exact (straight_execute fun _ => ⟨.delete (m.query.addFilter filter), _,
    declared_filter (hasField_of_checkFilter checked), rfl, rfl⟩).bind fun _ => .pure _

theorem straight_softDelete (hm : m.hooks = {}) (filter : Filter) :
    m.Straight m.Composes (m.softDelete filter) :=
  (Straight.lift _).bind fun _ => straight_now_bind fun _ =>
    (straight_update hm _ _).bind fun _ => .pure _

theorem straight_restore (hm : m.hooks = {}) (filter : Filter) :
    m.Straight m.Composes (m.restore filter) :=
  (Straight.lift _).bind fun _ => (straight_update hm _ _).bind fun _ => .pure _

/-! ## Aggregates -/

theorem straight_aggregateValue (m : Model σ) (function : AggregateFunction) (field : String)
    (filter : Filter) : m.Straight m.Composes (m.aggregateValue function field filter) := by
  refine Straight.lift_bind fun _ checked => Straight.lift_bind fun q hq => ?_
  refine (straight_fetch fun plain => ?_).bind fun _ => .pure _
  have named : Aggregate.isIdentifier "value" = true := by decide
  have sound : Aggregate.Over m.schema ⟨function, field, "value"⟩ :=
    ⟨hasField_of_checkAggregate checked, named⟩
  have written : function.sql field ++ " AS value"
      = Aggregate.sql ⟨function, field, "value"⟩ := by
    simp only [Aggregate.sql, Aggregate.expression, String.append_assoc]
    rfl
  exact { declared_queryFor hq plain with
    select := fun text ht => .inr ⟨_, sound, (List.mem_singleton.1 ht).trans written⟩
    orderBy := by simp [(select_queryFor hq).2.1] }

theorem straight_sum (m : Model σ) (field : String) (filter : Filter) :
    m.Straight m.Composes (m.sum field filter) :=
  (straight_aggregateValue m .sum field filter).bind fun _ => .pure _

theorem straight_avg (m : Model σ) (field : String) (filter : Filter) :
    m.Straight m.Composes (m.avg field filter) :=
  (straight_aggregateValue m .avg field filter).bind fun _ => .pure _

theorem straight_min (m : Model σ) (field : String) (filter : Filter) :
    m.Straight m.Composes (m.min field filter) :=
  (straight_aggregateValue m .min field filter).bind fun _ => .pure _

theorem straight_max (m : Model σ) (field : String) (filter : Filter) :
    m.Straight m.Composes (m.max field filter) :=
  (straight_aggregateValue m .max field filter).bind fun _ => .pure _

theorem straight_countAggregate (m : Model σ) (function : AggregateFunction) (field : String)
    (filter : Filter) : m.Straight m.Composes (m.countAggregate function field filter) := by
  refine (straight_aggregateValue m function field filter).bind fun v => ?_
  split
  · exact .pure 0
  · exact .lift _

/-- The calls that a summary is made of. -/
theorem straight_summaries (m : Model σ) (field : String) (filter : Filter) :
    ∀ c ∈ m.summaries field filter, m.Straight m.Composes c := by
  simp only [summaries, List.forall_mem_cons, List.not_mem_nil, false_imp_iff, implies_true,
    and_true]
  exact ⟨(straight_countAggregate m .count field filter).bind fun _ => .pure _,
    (straight_sum m field filter).bind fun _ => .pure _,
    (straight_avg m field filter).bind fun _ => .pure _,
    (straight_min m field filter).bind fun _ => .pure _,
    (straight_max m field filter).bind fun _ => .pure _⟩

theorem puts_stats (m : Model σ) (field : String) (filter : Filter) (schedule : Schedule) :
    m.Puts m.Composes (m.stats field filter schedule) :=
  (Puts.together schedule fun c hc => (straight_summaries m field filter c hc).puts).bind
    fun _ => (Straight.pure _).puts

/-- Where every answer is there at once, a summary goes straight on. -/
theorem straight_stats (m : Model σ) (field : String) (filter : Filter) {schedule : Schedule}
    (prompt : ∀ place, schedule.waits place = false) :
    m.Straight m.Composes (m.stats field filter schedule) :=
  (Straight.together prompt (straight_summaries m field filter)).bind fun _ => .pure _

/-- **A summary** reports the first failure that comes in. -/
theorem follows_stats (m : Model σ) (field : String) (filter : Filter) (schedule : Schedule)
    (w : World σ) :
    m.Follows (m.stats field filter schedule) w
      (m.Gathers schedule (m.summaries field filter) w) := by
  refine (follows_together (fun c hc => ?_) schedule w).bind (fun xs e gathers => ?_)
    fun xs entries w' gathers _ => .pure ?_
  · exact (straight_summaries m field filter c hc).reports
  · exact gathers.map fun entries => entries.foldl (fun summary enter => enter summary) {}
  · rw [List.append_nil]
    exact gathers.map fun entries => entries.foldl (fun summary enter => enter summary) {}

/-- Only fields have distinct values and percentiles. -/
theorem hasField_of_checkValues {field : String} (h : m.checkAggregate .min field = .ok ()) :
    m.schema.hasField field = true :=
  (hasField_of_checkAggregate h).resolve_right (by simp)

/-- The ordering by a field of a plain schema. -/
theorem declared_byField {field : String} (plain : m.schema.Plain)
    (h : m.schema.hasField field = true) :
    ∀ o ∈ Order.byField field, m.schema.hasField o.column = true := by
  rw [Order.byField_of_isIdentifier (plain.fields field h)]
  simpa using h

theorem straight_distinct (m : Model σ) (field : String) (filter : Filter) :
    m.Straight m.Composes (m.distinct field filter) := by
  refine Straight.lift_bind fun _ checked => Straight.lift_bind fun q hq => ?_
  have declared := hasField_of_checkValues checked
  refine (straight_fetch fun plain => ?_).bind fun _ => .pure _
  refine { declared_queryFor hq plain with
    select := fun text ht => .inl (by rw [List.mem_singleton.1 ht]; exact declared)
    orderBy := fun o ho => .inl (declared_byField plain declared o ?_) }
  simpa [Query.addOrders, (select_queryFor hq).2.1] using ho

theorem straight_aggregate (m : Model σ) (aggregates : List Aggregate)
    (options : AggregateOptions) :
    m.Straight m.Composes (m.aggregate aggregates options) := by
  refine Straight.lift_bind fun _ checked => Straight.lift_bind fun q hq => ?_
  obtain ⟨sound, groups, orders⟩ := checkAggregates_checked checked
  obtain ⟨-, noOrder, noGroup⟩ := select_queryFor hq
  refine straight_fetch fun plain => { declared_queryFor hq plain with
    select := fun text ht => ?_
    groupBy := by simpa [Query.addGroups, Query.addOrders, noGroup] using groups
    orderBy := fun o ho => ?_ }
  · rcases List.mem_append.1 ht with column | aggregate
    · exact .inl (groups text column)
    · obtain ⟨a, ha, rfl⟩ := List.mem_map.1 aggregate
      exact .inr ⟨a, ⟨(sound a ha).1, (sound a ha).2⟩, rfl⟩
  · have ordered : o ∈ options.order := by
      simpa [Query.addGroups, Query.addOrders, noOrder] using ho
    rcases orders o ordered with column | ⟨a, ha, label⟩
    · exact .inl (groups _ column)
    · exact .inr ⟨a, ⟨(sound a ha).1, (sound a ha).2⟩,
        List.mem_append_right _ (List.mem_map_of_mem ha), label.symm⟩

theorem straight_percentile (m : Model σ) (field : String) (p : Binary64) (filter : Filter) :
    m.Straight m.Composes (m.percentile field p filter) := by
  unfold percentile
  split
  · exact .lift (.error _)
  · refine Straight.lift_bind fun _ checked => Straight.lift_bind fun q hq => ?_
    have declared := hasField_of_checkValues checked
    have counted : m.schema.Plain →
        Query.Declared m.schema (q.addCondition (.isNotNull field)) := by
      intro plain
      refine { declared_queryFor hq plain with conditions := fun c hc => ?_ }
      rcases List.mem_append.1 hc with given | added
      · exact (declared_queryFor hq plain).conditions c given
      · rw [List.mem_singleton.1 added]
        exact declared
    refine (straight_fetchCount counted).bind fun count => ?_
    split
    · exact .pure none
    · refine (straight_fetch fun plain => ?_).bind fun _ => .pure _
      refine { counted plain with
        select := fun text ht => .inl (by rw [List.mem_singleton.1 ht]; exact declared)
        orderBy := fun o ho => .inl (declared_byField plain declared o ?_) }
      simpa [Query.addOrders, Query.addCondition, (select_queryFor hq).2.1] using ho

/-! ## The table -/

theorem straight_runAll (m : Model σ) (statements : List String) :
    m.Straight (fun _ => True) (m.runAll statements) :=
  Straight.forM fun _ _ => (straight_execute trivial).bind fun _ => .pure ()

theorem straight_createTable (m : Model σ) : m.Straight (fun _ => True) m.createTable :=
  straight_now_bind fun _ => straight_runAll m _

theorem straight_dropTable (m : Model σ) : m.Straight (fun _ => True) m.dropTable :=
  straight_now_bind fun _ => straight_runAll m _

end Model

/-! ## All operations -/

/-- An operation that catches no failure, with its arguments. -/
inductive Operation where
  | create (data : Record)
  | findAll (options : FindOptions)
  | findOne (options : FindOptions)
  | findById (id : Value)
  | count (filter : Filter)
  | exists? (filter : Filter)
  | paginate (page perPage : UInt64) (options : FindOptions)
  | update (data : Record) (filter : Filter)
  | updateById (id : Value) (data : Record)
  | delete (filter : Filter)
  | deleteById (id : Value)
  | softDelete (filter : Filter)
  | restore (filter : Filter)
  | aggregateValue (function : AggregateFunction) (field : String) (filter : Filter)
  | sum (field : String) (filter : Filter)
  | avg (field : String) (filter : Filter)
  | min (field : String) (filter : Filter)
  | max (field : String) (filter : Filter)
  | countValues (field : String) (filter : Filter)
  | countDistinct (field : String) (filter : Filter)
  | stats (field : String) (filter : Filter) (schedule : Schedule)
  | distinct (field : String) (filter : Filter)
  | aggregate (aggregates : List Aggregate) (options : AggregateOptions)
  | groupBy (field : String) (filter : Filter)
  | percentile (field : String) (p : Binary64) (filter : Filter)
  | median (field : String) (filter : Filter)

namespace Operation

variable {σ α : Type}

/-- A call without its result. -/
def ending (c : Call σ α) : Call σ Unit := do
  let _ ← c

/-- The call of an operation; how it ends is kept, but not its result. -/
def run (m : Model σ) : Operation → Call σ Unit
  | .create data => ending (m.create data)
  | .findAll options => ending (m.findAll options)
  | .findOne options => ending (m.findOne options)
  | .findById id => ending (m.findById id)
  | .count filter => ending (m.count filter)
  | .exists? filter => ending (m.exists? filter)
  | .paginate page perPage options => ending (m.paginate page perPage options)
  | .update data filter => ending (m.update data filter)
  | .updateById id data => ending (m.updateById id data)
  | .delete filter => ending (m.delete filter)
  | .deleteById id => ending (m.deleteById id)
  | .softDelete filter => ending (m.softDelete filter)
  | .restore filter => ending (m.restore filter)
  | .aggregateValue function field filter => ending (m.aggregateValue function field filter)
  | .sum field filter => ending (m.sum field filter)
  | .avg field filter => ending (m.avg field filter)
  | .min field filter => ending (m.min field filter)
  | .max field filter => ending (m.max field filter)
  | .countValues field filter => ending (m.countValues field filter)
  | .countDistinct field filter => ending (m.countDistinct field filter)
  | .stats field filter schedule => ending (m.stats field filter schedule)
  | .distinct field filter => ending (m.distinct field filter)
  | .aggregate aggregates options => ending (m.aggregate aggregates options)
  | .groupBy field filter => ending (m.groupBy field filter)
  | .percentile field p filter => ending (m.percentile field p filter)
  | .median field filter => ending (m.median field filter)

theorem straight_ending {m : Model σ} {P : Statement → Prop} {c : Call σ α}
    (h : m.Straight P c) : m.Straight P (ending c) :=
  h.bind fun _ => .pure ()

/-- An operation that waits for the answer to a statement before it puts the next one. The
statements of a summary do not wait for each other, unless every answer is there at once. -/
def OneByOne : Operation → Prop
  | .stats _ _ schedule => ∀ place, schedule.waits place = false
  | _ => True

/-- **Operations go straight on.** -/
theorem straight {m : Model σ} (hm : m.hooks = {}) {op : Operation} (waits : op.OneByOne) :
    m.Straight m.Composes (op.run m) := by
  cases op <;> apply straight_ending
  case create data => exact Model.straight_create hm data
  case findAll options => exact Model.straight_findAll hm options
  case findOne options => exact Model.straight_findOne hm options
  case findById id => exact Model.straight_findOne hm _
  case count filter => exact Model.straight_count m filter
  case exists? filter => exact (Model.straight_count m filter).bind fun _ => .pure _
  case paginate page perPage options => exact Model.straight_paginate hm page perPage options
  case update data filter => exact Model.straight_update hm data filter
  case updateById id data => exact Model.straight_updateById hm id data
  case delete filter => exact Model.straight_delete hm filter
  case deleteById id => exact (Model.straight_delete hm _).bind fun _ => .pure _
  case softDelete filter => exact Model.straight_softDelete hm filter
  case restore filter => exact Model.straight_restore hm filter
  case aggregateValue function field filter =>
    exact Model.straight_aggregateValue m function field filter
  case sum field filter => exact Model.straight_sum m field filter
  case avg field filter => exact Model.straight_avg m field filter
  case min field filter => exact Model.straight_min m field filter
  case max field filter => exact Model.straight_max m field filter
  case countValues field filter => exact Model.straight_countAggregate m .count field filter
  case countDistinct field filter =>
    exact Model.straight_countAggregate m .countDistinct field filter
  case stats field filter schedule => exact Model.straight_stats m field filter waits
  case distinct field filter => exact Model.straight_distinct m field filter
  case aggregate aggregates options => exact Model.straight_aggregate m aggregates options
  case groupBy field filter => exact Model.straight_aggregate m _ _
  case percentile field p filter => exact Model.straight_percentile m field p filter
  case median field filter => exact Model.straight_percentile m field _ filter

/-- **Operations compose their statements over declared columns**, whether they wait or not. -/
theorem puts {m : Model σ} (hm : m.hooks = {}) (op : Operation) :
    m.Puts m.Composes (op.run m) := by
  cases op
  case stats field filter schedule =>
    exact (Model.puts_stats m field filter schedule).bind fun _ => (Model.Straight.pure ()).puts
  all_goals exact (straight hm (by exact trivial)).puts

end Operation

end RecordMapper
