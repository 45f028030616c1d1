import RecordMapper.Proofs.Model.Checks
import RecordMapper.Proofs.Model.Selections

/-!
# What aggregates ask for

Which aggregates are put to an engine, with what query, and what is said then.

* `Model.Measures` is what is checked of the column of one aggregate, and `Model.Filters` of its
  filter; `Model.Tabulates` is what is checked of several aggregates. The checks pass exactly then
  (`Model.checkAggregate_eq_ok`, `Model.checkAggregates_eq_ok`) and else fail with an error about an
  argument.
* `Model.rowsOf` is the query of the rows of a filter. `Model.measure` and `Model.tabulation` are
  those of one aggregate and of several ones.
* `Model.Follows.rows_bind` leads past the checks, from the columns to the query. `Model.Fetched` is
  what is said for the rows of one query, where the arguments have to be right.
  `Model.follows_aggregateValue` and `Model.follows_aggregate` prove it of aggregates.
-/

namespace RecordMapper

/-- An error about an argument. -/
def Error.IsArgument (e : Error) : Prop :=
  ∃ fault, e = .invalidArgument fault

/-- A check that goes on with another one. -/
theorem andThen_eq_ok {x y : Except Error Unit} :
    (x >>= fun _ => y) = .ok () ↔ x = .ok () ∧ y = .ok () := by
  rw [bind_eq_ok]
  exact ⟨fun ⟨_, first, second⟩ => ⟨first, second⟩, fun ⟨first, second⟩ => ⟨(), first, second⟩⟩

/-- The names of the result columns of several aggregates: the group columns, then the aliases. -/
def AggregateOptions.columns (options : AggregateOptions) (aggregates : List Aggregate) :
    List String :=
  options.groupBy ++ aggregates.map (·.label)

/-- The ordering by one column. -/
theorem Query.orderSql_single {q : Query} {column : String} (h : q.orderBy = [⟨column, .asc⟩]) :
    q.orderSql = " ORDER BY " ++ column ++ " ASC" := by
  rw [orderSql, h, String.append_assoc]
  exact congrArg (" ORDER BY " ++ ·) String.append_assoc

namespace Model

variable {σ α : Type} {m : Model σ} {function : AggregateFunction} {field : String}
  {filter : Filter} {aggregates : List Aggregate} {options : AggregateOptions} {e : Error}

/-! ## What is checked -/

/-- An aggregate is of a field, or counts the rows. -/
def Measures (m : Model σ) (function : AggregateFunction) (field : String) : Prop :=
  m.schema.hasField field = true ∨ (field = "*" ∧ function = .count)

/-- A filter is on fields. -/
def Filters (m : Model σ) (filter : Filter) : Prop :=
  ∀ c ∈ filter, m.schema.hasField c.field = true

/-- Several aggregates are asked for as they may be. -/
structure Tabulates (m : Model σ) (aggregates : List Aggregate) (options : AggregateOptions) :
    Prop where
  /-- There are any. -/
  some : aggregates ≠ []
  /-- Each is of a field, or counts the rows. -/
  measures : ∀ a ∈ aggregates, m.Measures a.function a.field
  /-- The aliases are identifiers. -/
  labels : ∀ a ∈ aggregates, Aggregate.isIdentifier a.label = true
  /-- The rows are grouped by fields. -/
  groups : ∀ column ∈ options.groupBy, m.schema.hasField column = true
  /-- The groups are ordered by columns of the result. -/
  orders : ∀ o ∈ options.order, o.column ∈ options.columns aggregates

theorem checkAggregate_eq_ok :
    m.checkAggregate function field = .ok () ↔ m.Measures function field := by
  refine ⟨hasField_of_checkAggregate, fun measures => ?_⟩
  unfold checkAggregate
  split
  · rfl
  · next column => exact checkColumn_eq_ok.2 (measures.resolve_right column)

/-- Values are those of a column. -/
theorem checkValues_eq_ok :
    m.checkAggregate .min field = .ok () ↔ m.schema.hasField field = true := by
  rw [checkAggregate_eq_ok, Measures, or_iff_left]
  exact fun rows => nomatch rows.2

/-- One of several aggregates is checked for its column and its alias. -/
theorem checkLabel_eq_ok {a : Aggregate} : (do
      m.checkAggregate a.function a.field
      if !Aggregate.isIdentifier a.label then throw (.invalidArgument (.invalidAlias a.label)) :
        Except Error Unit) = .ok () ↔
    m.Measures a.function a.field ∧ Aggregate.isIdentifier a.label = true := by
  rw [andThen_eq_ok, checkAggregate_eq_ok]
  cases Aggregate.isIdentifier a.label with
  | false => exact iff_of_false (fun fails => nomatch fails.2) fun fails => nomatch fails.2
  | true => exact and_congr_right' (iff_of_true rfl rfl)

/-- An ordering of aggregates is checked for its column. -/
theorem checkOrder_eq_ok {o : Order} :
    (if options.groupBy.contains o.column || aggregates.any (fun a => a.label == o.column) then
        .ok ()
      else .error (.invalidArgument (.unknownAggregateOrder o.column)) : Except Error Unit) = .ok ()
      ↔ o.column ∈ options.columns aggregates := by
  rw [AggregateOptions.columns]
  split
  · next named => simpa using named
  · next unknown => simpa using unknown

/-- **Aggregates pass the checks** exactly if they are asked for as they may be. -/
theorem checkAggregates_eq_ok :
    m.checkAggregates aggregates options = .ok () ↔ m.Tabulates aggregates options := by
  unfold checkAggregates
  cases aggregates with
  | nil => exact iff_of_false (fun fails => nomatch fails) fun checked => checked.some rfl
  | cons first rest =>
    simp only [List.isEmpty_cons, Bool.false_eq_true, if_false]
    rw [andThen_eq_ok, andThen_eq_ok, forM_eq_ok, forM_eq_ok, forM_eq_ok]
    simp only [checkLabel_eq_ok, checkValues_eq_ok, checkOrder_eq_ok]
    constructor
    · rintro ⟨each, groups, orders⟩
      exact ⟨List.cons_ne_nil _ _, fun a ha => (each a ha).1, fun a ha => (each a ha).2, groups,
        orders⟩
    · rintro ⟨-, measures, labels, groups, orders⟩
      exact ⟨fun a ha => ⟨measures a ha, labels a ha⟩, groups, orders⟩

/-! ## How the checks fail -/

theorem Undeclared.isArgument (h : m.Undeclared e) : e.IsArgument := by
  obtain ⟨column, place, -, rfl⟩ := h
  exact ⟨_, rfl⟩

theorem checkAggregate_error (h : m.checkAggregate function field = .error e) :
    e.IsArgument := by
  unfold checkAggregate checkColumn at h
  split at h
  · cases h
  · split at h <;> cases h
    exact ⟨_, rfl⟩

theorem checkAggregates_error (h : m.checkAggregates aggregates options = .error e) :
    e.IsArgument := by
  unfold checkAggregates at h
  split at h
  · cases h
    exact ⟨_, rfl⟩
  rcases bind_eq_error h with each | ⟨-, -, h⟩
  · obtain ⟨a, -, fails⟩ := forM_eq_error each
    rcases bind_eq_error fails with field | ⟨-, -, label⟩
    · exact checkAggregate_error field
    · split at label <;> cases label
      exact ⟨_, rfl⟩
  rcases bind_eq_error h with groups | ⟨-, -, h⟩
  · obtain ⟨column, -, fails⟩ := forM_eq_error groups
    exact checkAggregate_error fails
  · obtain ⟨o, -, fails⟩ := forM_eq_error h
    split at fails <;> cases fails
    exact ⟨_, rfl⟩

/-! ## Queries -/

/-- The query of the rows of a filter. -/
def rowsOf (m : Model σ) (filter : Filter) : Query :=
  { m.query with conditions := filter ++ m.alive false }

/-- The query of one aggregate. -/
def measure (m : Model σ) (function : AggregateFunction) (field : String) (filter : Filter) :
    Query :=
  { m.rowsOf filter with select := [function.sql field ++ " AS value"] }

/-- The query of several aggregates. -/
def tabulation (m : Model σ) (aggregates : List Aggregate) (options : AggregateOptions) : Query :=
  { m.rowsOf options.filter with
    select := options.groupBy ++ aggregates.map Aggregate.sql
    groupBy := options.groupBy
    orderBy := options.order }

theorem queryFor_filter (h : m.Filters filter) :
    m.queryFor { filter } = .ok (m.rowsOf filter) := by
  have checked : m.checkFilter filter = .ok () :=
    checkColumns_ok "filter" (List.forall_mem_map.2 h)
  rw [queryFor, checked]
  rfl

theorem queryFor_filter_error (h : ¬ m.Filters filter) :
    ∃ e, e.IsArgument ∧ m.queryFor { filter } = .error e := by
  simp only [Filters, not_forall] at h
  obtain ⟨c, member, unknown⟩ := h
  have named : c.field ∈ FindOptions.columns { filter } := by
    simpa [FindOptions.columns] using ⟨c, member, rfl⟩
  obtain ⟨e, undeclared, fails⟩ := queryFor_undeclared named (Bool.eq_false_iff.2 unknown)
  exact ⟨e, undeclared.isArgument, fails⟩

/-- **From the columns to the query**: a call goes on with the query of the rows of its filter if
its columns and the filter are as they may be, and is refused if they are not. -/
theorem Follows.rows_bind {w : World σ} {check : Except Error Unit} {P : Prop}
    (passes : check = .ok () ↔ P) (fails : ∀ e, check = .error e → e.IsArgument)
    {f : Query → Call σ α} {S : Conversation → Except Error α → Prop}
    (refused : ∀ e : Error, e.IsArgument → ¬ (P ∧ m.Filters filter) → S [] (.error e))
    (asked : P → m.Filters filter → m.Follows (f (m.rowsOf filter)) w S) :
    m.Follows (Call.lift check >>= fun _ => Call.lift (m.queryFor { filter }) >>= f) w S := by
  refine .lift_bind (fun e h => ?_) fun _ ok => ?_
  · refine refused e (fails e h) fun right => ?_
    rw [passes.2 right.1] at h
    cases h
  have right := passes.1 ok
  by_cases filters : m.Filters filter
  · rw [queryFor_filter filters]
    exact asked right filters
  · obtain ⟨e, argument, h⟩ := queryFor_filter_error filters
    rw [h]
    exact .throw (refused e argument fun both => filters both.2)

/-! ## Conversations of one statement -/

/-- What is said for the rows of one query, where `asked` is what has to be right: it is refused for
an argument, or it is put to the engine and ends as `given` says of the rows. -/
inductive Fetched (m : Model σ) (asked : Prop) (q : Query)
    (given : List Record → Except Error α) : Conversation → Except Error α → Prop
  /-- An argument is not right. -/
  | refused {e : Error} (argument : e.IsArgument) (wrong : ¬ asked) :
    Fetched m asked q given [] (.error e)
  /-- The engine rejects the statement. -/
  | rejected (right : asked) (r : Rejection) :
    Fetched m asked q given [(q.find.statement.wire, .error r)]
      (.error (m.failure q.find.statement.wire r))
  /-- The rows are read. -/
  | given (right : asked) (reply : Reply) :
    Fetched m asked q given [(q.find.statement.wire, .ok reply)] (given reply.rows)

/-- **Columns are checked, and then rows are fetched**, by one statement. -/
theorem follows_fetched {β : Type} {w : World σ} {check : Except Error Unit} {P : Prop}
    (passes : check = .ok () ↔ P) (fails : ∀ e, check = .error e → e.IsArgument)
    (clauses : Query → Query) (given : List Record → β) :
    m.Follows (Call.lift check >>= fun _ => Call.lift (m.queryFor { filter }) >>= fun q =>
        m.fetch (clauses q) >>= fun records => pure (given records)) w
      (m.Fetched (P ∧ m.Filters filter) (clauses (m.rowsOf filter))
        fun rows => .ok (given (rows.map m.schema.hydrate))) := by
  refine .rows_bind passes fails (fun e => .refused) fun right filters => ?_
  simp only [fetch, bind_assoc, pure_bind]
  refine .execute_bind (fun r => .rejected ⟨right, filters⟩ r) fun reply w' _ _ => ?_
  exact .pure (.given ⟨right, filters⟩ reply)

/-- What is read is read on. -/
theorem Follows.fetched_bind {β : Type} {w : World σ} {c : Call σ α} {asked : Prop} {q : Query}
    {given : List Record → Except Error α} (h : m.Follows c w (m.Fetched asked q given))
    (read : α → Except Error β) :
    m.Follows (c >>= fun a => Call.lift (read a)) w
      (m.Fetched asked q fun rows => given rows >>= read) := by
  refine h.bind (fun xs e said => ?_) fun xs a w' said _ => .lift ?_
  · generalize ends : Except.error e = result at said
    cases said with
    | refused argument wrong => cases ends; exact .refused argument wrong
    | rejected right r => cases ends; exact .rejected right r
    | given right reply =>
      have fails : given reply.rows >>= read = .error e := by rw [← ends]; rfl
      exact fails ▸ .given right reply
  · generalize ends : Except.ok a = result at said
    cases said with
    | refused | rejected => cases ends
    | given right reply =>
      have reads : given reply.rows >>= read = read a := by rw [← ends]; rfl
      exact reads ▸ .given right reply

/-- **One aggregate** is asked for by one statement, and is the value of the first row. -/
theorem follows_aggregateValue (m : Model σ) (function : AggregateFunction) (field : String)
    (filter : Filter) (w : World σ) :
    m.Follows (m.aggregateValue function field filter) w
      (m.Fetched (m.Measures function field ∧ m.Filters filter) (m.measure function field filter)
        fun rows => .ok (((rows.map m.schema.hydrate).head?.bind (·.get? "value")).getD .null)) :=
  follows_fetched checkAggregate_eq_ok (fun _ => checkAggregate_error) _ _

/-- **Several aggregates** are asked for by one statement, and are the records of all rows. -/
theorem follows_aggregate (m : Model σ) (aggregates : List Aggregate) (options : AggregateOptions)
    (w : World σ) :
    m.Follows (m.aggregate aggregates options) w
      (m.Fetched (m.Tabulates aggregates options ∧ m.Filters options.filter)
        (m.tabulation aggregates options) fun rows => .ok (rows.map m.schema.hydrate)) := by
  have whole : m.aggregate aggregates options
      = Call.lift (m.checkAggregates aggregates options) >>= fun _ =>
        Call.lift (m.queryFor { filter := options.filter }) >>= fun q =>
        m.fetch { (q.addGroups options.groupBy).addOrders options.order with
          select := options.groupBy ++ aggregates.map Aggregate.sql } >>= pure := by
    simp only [bind_pure]
    rfl
  rw [whole]
  exact follows_fetched checkAggregates_eq_ok (fun _ => checkAggregates_error) _ id

end Model

end RecordMapper
