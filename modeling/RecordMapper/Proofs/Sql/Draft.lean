import RecordMapper.Proofs.Sql.Slots
import RecordMapper.Proofs.Sql.Spelling
import RecordMapper.Sql.Insert
import RecordMapper.Sql.Query

/-!
# Drafts

Every kind of statement that is composed, with what each of them takes from its caller.

* `Draft.template` is the statement that is written. Only an update that assigns nothing has none
  (`Draft.template_cases`).
* `Draft.slots` are the parts that carry operands: the assigned values, the conditions on rows and
  the conditions on groups. `Draft.lays` finds them in the statement, in this order.
* `Draft.copied` are the caller's texts that are copied into the statement. `Draft.placeholders_sql`
  counts the placeholders: those of the parameters and those of these texts.
-/

namespace RecordMapper

/-- A statement that is to be composed. -/
inductive Draft where
  /-- The rows of a query. -/
  | find (q : Query)
  /-- The number of rows of a query. -/
  | count (q : Query)
  /-- Fields of a record assigned to the rows of a query. -/
  | update (q : Query) (set : Record)
  /-- The rows of a query deleted. -/
  | delete (q : Query)
  /-- One record inserted. -/
  | insert (table : String) (r : Record)
  /-- Rows inserted over the same columns. -/
  | insertRows (table : String) (columns : List String) (rows : List Record)

/-! ## Operands and texts of conditions -/

/-- The values that a condition binds. A test for null binds none, be it written as an equality, and
neither does an operand that does not fit its operator. -/
def Condition.operands (c : Condition) : List Value :=
  match c.operator, c.operand with
  | .compare .eq, .single .null | .compare .ne, .single .null => []
  | .compare _, .single v | .member _, .single v => [v]
  | .member _, .list values => values
  | .between, .list [low, high] => [low, high]
  | _, _ => []

/-- The text that a condition copies: its column, unless no row meets it. -/
def Condition.copied (c : Condition) : List String :=
  if c.predicate = .never then [] else [c.field]

/-- The texts that a filter copies. -/
def Filter.copied (filter : Filter) : List String :=
  filter.flatMap Condition.copied

theorem Condition.values_predicate (c : Condition) : c.predicate.values = c.operands := by
  obtain ⟨field, op, operand⟩ := c
  cases op with
  | compare c =>
    cases operand with
    | none | list => cases c <;> rfl
    | single v => cases c <;> cases v <;> rfl
  | member negated =>
    match operand with
    | .none | .single _ | .list [] | .list (_ :: _) => rfl
  | between =>
    match operand with
    | .none | .single _ | .list [] | .list [_] | .list [_, _] | .list (_ :: _ :: _ :: _) => rfl
  | null negated => cases operand <;> rfl

theorem Condition.params_template (c : Condition) : c.template.params = c.operands := by
  rw [Condition.template, Predicate.params_template, values_predicate]

/-- The values that a filter binds. -/
def Filter.operands (filter : Filter) : List Value :=
  filter.flatMap Condition.operands

namespace Query

/-- The texts that name the rows' source. -/
def source (q : Query) : List String :=
  q.table :: q.joins.flatMap fun j => [j.table, j.on]

/-- The texts that a selection copies, without ordering and window. -/
def copied (q : Query) : List String :=
  q.select ++ q.source ++ Filter.copied q.conditions ++ q.groupBy ++ Filter.copied q.having

/-- Whether equal or grouped rows are counted, as the rows of a subquery. -/
def counted (q : Query) : Bool :=
  q.distinct || !q.groupBy.isEmpty

theorem count_of_counted {q : Query} (h : q.counted = true) :
    q.count = .raw "SELECT COUNT(*) AS count FROM (" ++ q.core ++ .raw ") AS counted" :=
  if_pos h

theorem count_of_not_counted {q : Query} (h : q.counted = false) :
    q.count = .raw ("SELECT COUNT(*) AS count FROM " ++ q.table ++ q.joinsSql) ++ q.whereClause :=
  if_neg (Bool.eq_false_iff.1 h)

end Query

namespace Draft

/-! ## What a draft takes from its caller -/

/-- The statement that is written. -/
def template : Draft → Except Error Template
  | .find q => .ok q.find
  | .count q => .ok q.count
  | .update q set => q.update set
  | .delete q => .ok q.delete
  | .insert table r => .ok (Insert.one table r)
  | .insertRows table columns rows => .ok (Insert.many table columns rows)

/-- The slots of assigned values. -/
def assignments : Draft → List Template
  | .update _ set => set.entries.map fun entry => .raw (entry.1 ++ " = ") ++ .bind entry.2
  | .insert _ r => r.entries.map fun entry => .bind entry.2
  | .insertRows _ columns rows => rows.flatMap fun row => (Insert.rowValues columns row).map .bind
  | .find _ | .count _ | .delete _ => []

/-- The assigned values. -/
def assigned : Draft → List Value
  | .update _ set => set.entries.map (·.2)
  | .insert _ r => r.entries.map (·.2)
  | .insertRows _ columns rows => rows.flatMap (Insert.rowValues columns)
  | .find _ | .count _ | .delete _ => []

/-- The conditions on rows. -/
def conditions : Draft → Filter
  | .find q | .count q | .update q _ | .delete q => q.conditions
  | .insert _ _ | .insertRows _ _ _ => []

/-- The conditions on groups. -/
def having : Draft → Filter
  | .find q => q.having
  | .count q => if q.counted then q.having else []
  | .update _ _ | .delete _ | .insert _ _ | .insertRows _ _ _ => []

/-- The slots: assigned values, conditions on rows, conditions on groups. -/
def slots (d : Draft) : List Template :=
  d.assignments ++ d.conditions.map Condition.template ++ d.having.map Condition.template

/-- The operands of the slots, one list for each slot. -/
def operands (d : Draft) : List (List Value) :=
  d.assigned.map ([·]) ++ d.conditions.map Condition.operands ++ d.having.map Condition.operands

/-- The caller's texts that are copied. -/
def copied : Draft → List String
  | .find q => q.copied ++ q.orderBy.map (·.column)
  | .count q => if q.counted then q.copied else q.source ++ Filter.copied q.conditions
  | .update q set => q.table :: set.fields ++ Filter.copied q.conditions
  | .delete q => q.table :: Filter.copied q.conditions
  | .insert table r => table :: r.fields
  | .insertRows table columns _ => table :: columns

end Draft

/-! ## Slots of clauses -/

theorem Filter.lays_clause (keyword : String) (filter : Filter) :
    (Filter.clause keyword filter).Lays (filter.map Condition.template) := by
  cases filter with
  | nil => exact .empty
  | cons c rest => exact .append (.gap _) (.join Condition.template " AND " (c :: rest))

theorem Query.lays_where (q : Query) :
    q.whereClause.Lays (q.conditions.map Condition.template) :=
  Filter.lays_clause "WHERE" q.conditions

theorem Query.lays_core (q : Query) :
    q.core.Lays (q.conditions.map Condition.template ++ q.having.map Condition.template) :=
  ((Template.Lays.gap _).append q.lays_where).append
    ((Template.Lays.gap _).append (Filter.lays_clause "HAVING" q.having))

theorem Insert.lays_tuple (values : List Value) :
    (Insert.tuple values).Lays (values.map .bind) := by
  have h := ((Template.Lays.gap "(").append (.join Template.bind ", " values)).append (.gap ")")
  rwa [List.nil_append, List.append_nil] at h

namespace Draft

/-! ## Slots of statements -/

/-- An update that assigns nothing has no statement, and everything else has one. -/
theorem template_cases (d : Draft) :
    (∃ q set, d = .update q set ∧ set.isEmpty = true ∧ d.template = .error .noFieldsToUpdate) ∨
      ∃ t, d.template = .ok t := by
  cases d with
  | update q set =>
    cases h : set.isEmpty with
    | true => exact .inl ⟨q, set, rfl, h, by simp [template, Query.update, h]⟩
    | false => exact .inr ⟨_, by simp [template, Query.update, h]; rfl⟩
  | _ => exact .inr ⟨_, rfl⟩

theorem lays_count (q : Query) : q.count.Lays (slots (.count q)) := by
  cases h : q.counted with
  | true =>
    have lays := ((Template.Lays.gap "SELECT COUNT(*) AS count FROM (").append q.lays_core).append
      (.gap ") AS counted")
    rw [Query.count_of_counted h]
    simpa [slots, assignments, conditions, having, h] using lays
  | false =>
    have lays := (Template.Lays.gap ("SELECT COUNT(*) AS count FROM " ++ q.table
      ++ q.joinsSql)).append q.lays_where
    rw [Query.count_of_not_counted h]
    simpa [slots, assignments, conditions, having, h] using lays

theorem lays_update {q : Query} {set : Record} {t : Template} (h : q.update set = .ok t) :
    t.Lays (slots (.update q set)) := by
  unfold Query.update at h
  split at h
  · cases h
  · cases h
    rw [slots, having, List.map_nil, List.append_nil]
    exact ((Template.Lays.gap ("UPDATE " ++ q.table ++ " SET ")).append
      (.join (fun entry => .raw (entry.1 ++ " = ") ++ .bind entry.2) ", " set.entries)).append
        q.lays_where

theorem lays_insert (table : String) (r : Record) :
    (Insert.one table r).Lays (slots (.insert table r)) := by
  have none : slots (.insert table r) = r.entries.map fun entry => .bind entry.2 := by
    simp [slots, assignments, conditions, having]
  rw [none]
  unfold Insert.one
  split
  · next h =>
    have empty : r.entries = [] := by simpa [Record.isEmpty] using h
    rw [empty]
    exact .gap _
  · have h := (Template.Lays.gap ("INSERT INTO " ++ table ++ " ("
      ++ ", ".intercalate r.fields ++ ") VALUES ")).append (Insert.lays_tuple (r.entries.map (·.2)))
    rwa [List.nil_append, List.map_map] at h

theorem lays_insertRows (table : String) (columns : List String) (rows : List Record) :
    (Insert.many table columns rows).Lays (slots (.insertRows table columns rows)) := by
  have tuples := Template.Lays.joined ", " (fun row =>
    Insert.lays_tuple (Insert.rowValues columns row)) rows
  have h := (Template.Lays.gap ("INSERT INTO " ++ table ++ " (" ++ ", ".intercalate columns
    ++ ") VALUES ")).append tuples
  simpa [slots, assignments, conditions, having, Insert.many] using h

theorem map_params_slots (d : Draft) : d.slots.map Template.params = d.operands := by
  have filtered : ∀ filter : Filter,
      (filter.map Condition.template).map Template.params = filter.map Condition.operands := by
    intro filter
    rw [List.map_map]
    exact List.map_congr_left fun c _ => c.params_template
  have assigned : d.assignments.map Template.params = d.assigned.map ([·]) := by
    cases d with
    | insertRows table columns rows =>
      simp only [assignments, Draft.assigned, List.map_flatMap, List.map_map]
      rfl
    | _ => simp [assignments, Draft.assigned]
  rw [slots, List.map_append, List.map_append, assigned, filtered, filtered, operands]

theorem flatten_operands (d : Draft) :
    d.operands.flatten
      = d.assigned ++ Filter.operands d.conditions ++ Filter.operands d.having := by
  have single : (d.assigned.map ([·])).flatten = d.assigned := by
    rw [← List.flatMap_def]
    simp
  rw [operands, List.flatten_append, List.flatten_append, single]
  rfl

/-- **A statement consists of its slots and of copied texts.** -/
theorem lays {d : Draft} {t : Template} (h : d.template = .ok t) : t.Lays d.slots := by
  cases d with
  | find q =>
    cases h
    have core := q.lays_core.append (.gap (q.orderSql ++ q.windowSql))
    rwa [List.append_nil] at core
  | count q =>
    cases h
    exact lays_count q
  | update q set => exact lays_update h
  | delete q =>
    cases h
    have lays := (Template.Lays.gap ("DELETE FROM " ++ q.table)).append q.lays_where
    simpa [slots, assignments, conditions, having, Query.delete] using lays
  | insert table r =>
    cases h
    exact lays_insert table r
  | insertRows table columns rows =>
    cases h
    exact lays_insertRows table columns rows

/-- **The parameters of a statement** are the operands of its slots, one slot after the other. -/
theorem params_template {d : Draft} {t : Template} (h : d.template = .ok t) :
    t.params = d.operands.flatten := by
  rw [(lays h).params, List.flatMap_def, map_params_slots]

end Draft

end RecordMapper
