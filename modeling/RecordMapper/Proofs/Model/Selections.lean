import RecordMapper.Proofs.Hooks.Conversation
import RecordMapper.Proofs.Sql.Truth

/-!
# Selections that hide deleted rows

What a statement asks of the rows that it selects or counts, and why it takes none that is marked as
deleted.

* `Look` is what an operation looks for: the caller's conditions, those of the operation, and
  whether a hook may add to them. `Model.sought` are all the conditions together.
* `Query.find_single` and `Query.count_single` are the statements over a single table.
* `Model.Screens` says that a statement selects or counts under these conditions, how they read, and
  what they make of a row with and without the mark. `Looks.screens_find` and `Looks.screens_count`
  prove it of every query with these conditions.
* `Model.Sees`: a statement does so for what the hook adds. `Model.looks_queryFor` and
  `Model.looks_consulted` lead there from find options.
-/

namespace RecordMapper

/-- What an operation looks for. -/
structure Look where
  /-- The conditions of the caller. -/
  filter : Filter
  /-- Whether rows that are marked as deleted are looked for too. -/
  withDeleted : Bool := false
  /-- The conditions that the operation adds by itself. -/
  own : Filter := []
  /-- Whether the hook before a find is called with the query. -/
  hooked : Bool := false

/-- What find options look for. -/
def FindOptions.look (options : FindOptions) : Look where
  filter := options.filter
  withDeleted := options.withDeleted
  hooked := true

/-- What stands after the conditions of a selection: grouping, ordering and window. -/
def Query.trailer (q : Query) : String :=
  (if q.groupBy.isEmpty then "" else " GROUP BY " ++ ", ".intercalate q.groupBy)
    ++ q.orderSql ++ q.windowSql

/-- The condition of a selection as text, with a blank in front; nothing for no conditions. -/
def Filter.whereSql (filter : Filter) : String :=
  if filter.isEmpty then "" else " WHERE " ++ filter.conjunction.sql

theorem Filter.sql_where (filter : Filter) :
    (Filter.clause "WHERE" filter).sql = filter.whereSql := by
  cases filter with
  | nil => rfl
  | cons c rest =>
    rw [clause_eq (by simp), Template.sql_append, Template.sql_raw]
    rfl

theorem Filter.params_where (filter : Filter) :
    (Filter.clause "WHERE" filter).params = filter.conjunction.params := by
  cases filter with
  | nil => rfl
  | cons c rest =>
    rw [clause_eq (by simp), Template.params_append, Template.params_raw]
    rfl

namespace Query

variable {q : Query}

/-- The statement that selects rows of a single table. -/
theorem find_single {what : String} (joins : q.joins = []) (having : q.having = [])
    (selects : (if q.distinct then "DISTINCT " else "")
      ++ (if q.select.isEmpty then "*" else ", ".intercalate q.select) = what) :
    q.find.statement =
      ⟨"SELECT " ++ what ++ " FROM " ++ q.table ++ q.conditions.whereSql ++ q.trailer,
        q.conditions.conjunction.params⟩ := by
  have none : q.joinsSql = "" := by rw [joinsSql, joins]; rfl
  have ungrouped : Filter.clause "HAVING" [] = .empty := rfl
  simp only [← selects, Template.statement, find, core, whereClause, groupClause, trailer, none,
    having, ungrouped, Template.sql_append, Template.sql_raw, Template.sql_empty,
    Template.params_append, Template.params_raw, Template.params_empty, Filter.sql_where,
    Filter.params_where, String.append_assoc, String.append_empty, List.nil_append,
    List.append_nil]

/-- The statement that counts rows of a single table. -/
theorem count_single (joins : q.joins = []) (single : q.distinct = false)
    (ungrouped : q.groupBy = []) : q.count.statement =
      ⟨"SELECT COUNT(*) AS count FROM " ++ q.table ++ q.conditions.whereSql,
        q.conditions.conjunction.params⟩ := by
  have none : q.joinsSql = "" := by rw [joinsSql, joins]; rfl
  have written : q.count
      = .raw ("SELECT COUNT(*) AS count FROM " ++ q.table ++ q.joinsSql) ++ q.whereClause := by
    rw [count, single, ungrouped]
    rfl
  simp only [written, Template.statement, whereClause, none, Template.sql_append,
    Template.sql_raw, Template.params_append, Template.params_raw, Filter.sql_where,
    Filter.params_where, String.append_assoc, String.append_empty, List.nil_append]

end Query

/-- A hook before a find that does nothing but add conditions. -/
def Hooks.OnlyAdds (h : Hooks) : Prop :=
  ∀ f, h.beforeFind = some f → ∀ q q', f q = .ok q' → ∃ added, q' = q.addFilter added

namespace Model

variable {σ : Type} {m : Model σ} {look : Look} {added : Filter}

/-! ## Conditions -/

/-- The test that hides rows that are marked as deleted, where the schema hides them. -/
def alive (m : Model σ) (withDeleted : Bool) : Filter :=
  if m.schema.hidesDeleted && !withDeleted then [.isNull deletedAt] else []

/-- The conditions on the rows of a look. -/
def sought (m : Model σ) (look : Look) (added : Filter) : Filter :=
  look.filter ++ m.alive look.withDeleted ++ look.own ++ added

/-- What the hook before a find adds to the query of a look; nothing where it is not called. -/
def Adds (m : Model σ) (look : Look) (added : Filter) : Prop :=
  ∃ q : Query, q.table = m.table ∧ q.conditions = look.filter ++ m.alive look.withDeleted ∧
    consult (if look.hooked then m.hooks.beforeFind else none) q = .ok (q.addFilter added)

/-- The conditions of a look besides the mark of deletion. -/
def wanted (look : Look) (added : Filter) : Filter :=
  look.filter ++ look.own ++ added

theorem mem_sought {c : Condition} :
    c ∈ m.sought look added ↔ c ∈ wanted look added ∨ c ∈ m.alive look.withDeleted := by
  simp only [sought, wanted, List.mem_append]
  constructor
  · rintro (((caller | alive) | own) | hook)
    exacts [.inl (.inl (.inl caller)), .inr alive, .inl (.inl (.inr own)), .inl (.inr hook)]
  · rintro (((caller | own) | hook) | alive)
    exacts [.inl (.inl (.inl caller)), .inl (.inr own), .inr hook, .inl (.inl (.inr alive))]

theorem field_alive {c : Condition} {withDeleted : Bool} (h : c ∈ m.alive withDeleted) :
    c.field = deletedAt := by
  unfold alive at h
  split at h
  · rw [List.mem_singleton.1 h]
    rfl
  · cases h

/-! ## Statements that hide deleted rows -/

/-- A statement that selects or counts the rows of a look, and what its conditions make of a row. -/
structure Screens (m : Model σ) (look : Look) (added : Filter) (s : Statement) : Prop where
  /-- It selects from the table under the conditions. -/
  text : ∃ (what : String) (q : Query), s.sql = "SELECT " ++ what ++ " FROM " ++ m.table
    ++ (m.sought look added).whereSql ++ q.trailer
  /-- It binds the values of the conditions. -/
  params : s.params = (m.sought look added).conjunction.params.map Value.param
  /-- Its condition reads as a conjunction of all conditions, if they are on columns. -/
  reads : m.sought look added ≠ [] → (∀ c ∈ wanted look added, IsColumn c.field) →
    (⟨(m.sought look added).conjunction.sql, s.params⟩ : Statement).conjunction?
      = some (m.sought look added).asked
  /-- The mark of deletion is one of the conditions where rows are hidden. -/
  hides : m.schema.hidesDeleted = true → look.withDeleted = false →
    .isNull deletedAt ∈ m.sought look added
  /-- Where they are not hidden there is no such condition. -/
  shows : m.schema.hidesDeleted = false ∨ look.withDeleted = true →
    m.sought look added = wanted look added
  /-- The conditions are false of a row that is hidden, whatever the others say of it. -/
  marked : m.schema.hidesDeleted = true → look.withDeleted = false →
    ∀ compares row, row deletedAt ≠ .null →
      Truth.all ((m.sought look added).asked.map (Predicate.truth compares row)) = some false
  /-- Of a row without the mark they say what the others say. -/
  unmarked : ∀ compares row, row deletedAt = .null →
    Truth.all ((m.sought look added).asked.map (Predicate.truth compares row))
      = Truth.all ((wanted look added).asked.map (Predicate.truth compares row))

/-- A query whose conditions are those of a look. -/
structure Looks (m : Model σ) (look : Look) (added : Filter) (q : Query) : Prop where
  table : q.table = m.table
  joins : q.joins = []
  having : q.having = []
  conditions : q.conditions = m.sought look added

/-- The mark of deletion asks for null. -/
theorem asked_isNull (field : String) : Filter.asked [.isNull field] = [.null field false] := rfl

theorem alive_hidden (hidden : m.schema.hidesDeleted = true) :
    m.alive false = [.isNull deletedAt] := by
  rw [alive, hidden]
  rfl

theorem alive_shown {withDeleted : Bool}
    (h : m.schema.hidesDeleted = false ∨ withDeleted = true) : m.alive withDeleted = [] := by
  rcases h with open' | asked
  · rw [alive, open']
    rfl
  · rw [alive, asked]
    simp

theorem sought_shown (h : m.schema.hidesDeleted = false ∨ look.withDeleted = true) :
    m.sought look added = wanted look added := by
  rw [sought, alive_shown h, List.append_nil]
  rfl

/-- The conditions of a statement read as a conjunction. -/
theorem reads_sought (ne : m.sought look added ≠ [])
    (plain : ∀ c ∈ wanted look added, IsColumn c.field) :
    (⟨(m.sought look added).conjunction.sql,
      (m.sought look added).conjunction.params.map Value.param⟩ : Statement).conjunction?
        = some (m.sought look added).asked := by
  refine Filter.conjunction?_bound ne fun c hc => ?_
  rcases mem_sought.1 hc with given | mark
  · exact plain c given
  · rw [field_alive mark]
    decide

theorem mem_sought_hidden (hidden : m.schema.hidesDeleted = true)
    (asked : look.withDeleted = false) : .isNull deletedAt ∈ m.sought look added := by
  refine mem_sought.2 (.inr ?_)
  rw [asked, alive_hidden hidden]
  exact List.mem_singleton_self _

/-- **The conditions of a look are false of a hidden row.** -/
theorem all_truth_hidden (hidden : m.schema.hidesDeleted = true) (asked : look.withDeleted = false)
    {compares : Predicate.Compares} {row : String → Value} (mark : row deletedAt ≠ .null) :
    Truth.all ((m.sought look added).asked.map (Predicate.truth compares row)) = some false := by
  refine Predicate.all_truth_marked ?_ mark
  exact List.mem_map_of_mem (List.mem_map_of_mem (mem_sought_hidden hidden asked))

/-- **The conditions of a look say of the other rows what the wanted ones say.** -/
theorem all_truth_alive {compares : Predicate.Compares} {row : String → Value}
    (unmarked : row deletedAt = .null) :
    Truth.all ((m.sought look added).asked.map (Predicate.truth compares row))
      = Truth.all ((wanted look added).asked.map (Predicate.truth compares row)) := by
  by_cases h : m.schema.hidesDeleted = true ∧ look.withDeleted = false
  · have split : (m.sought look added).asked
        = look.filter.asked ++ .null deletedAt false :: Filter.asked (look.own ++ added) := by
      rw [sought, h.2, alive_hidden h.1, List.append_assoc, List.append_assoc,
        Filter.asked_append, Filter.asked_append, asked_isNull]
      rfl
    have rest : (wanted look added).asked
        = look.filter.asked ++ Filter.asked (look.own ++ added) := by
      rw [wanted, List.append_assoc, Filter.asked_append]
    rw [split, rest]
    exact Predicate.all_truth_unmarked _ _ unmarked
  · have shown : m.schema.hidesDeleted = false ∨ look.withDeleted = true := by
      rw [not_and_or] at h
      simpa using h
    rw [sought_shown shown]

/-- A text under the conditions of a look hides what is to be hidden. -/
theorem screens_of_text {s : Statement} (what : String) (q : Query)
    (text : s.sql = "SELECT " ++ what ++ " FROM " ++ m.table
      ++ (m.sought look added).whereSql ++ q.trailer)
    (params : s.params = (m.sought look added).conjunction.params.map Value.param) :
    m.Screens look added s where
  text := ⟨what, q, text⟩
  params := params
  reads := by
    rw [params]
    exact reads_sought
  hides := mem_sought_hidden
  shows := sought_shown
  marked hidden asked _ _ mark := all_truth_hidden hidden asked mark
  unmarked _ _ := all_truth_alive

namespace Looks

variable {q : Query}

/-- **The rows that a query selects** are those of the look. -/
theorem screens_find (h : m.Looks look added q) : m.Screens look added q.find.statement.wire := by
  have written := Query.find_single h.joins h.having rfl
  rw [h.table, h.conditions] at written
  exact screens_of_text _ q (by rw [written]; rfl) (by rw [written]; rfl)

/-- **The rows that a query counts** are those of the look, if it makes no groups. -/
theorem screens_count (h : m.Looks look added q) (single : q.distinct = false)
    (ungrouped : q.groupBy = []) : m.Screens look added q.count.statement.wire := by
  have written := Query.count_single h.joins single ungrouped
  rw [h.table, h.conditions] at written
  refine screens_of_text "COUNT(*) AS count" m.query ?_ (by rw [written]; rfl)
  have nothing : m.query.trailer = "" := rfl
  rw [written, nothing, String.append_empty]
  rfl

end Looks

/-! ## Queries of operations -/

/-- A statement that selects or counts the rows of a look, with what the hook adds. -/
def Sees (m : Model σ) (look : Look) (s : Statement) : Prop :=
  ∃ added, m.Adds look added ∧ m.Screens look added s

/-- Where no hook is called nothing is added. -/
theorem adds_iff (h : look.hooked = false ∨ m.hooks.beforeFind = none) :
    m.Adds look added ↔ added = [] := by
  have silent : (if look.hooked then m.hooks.beforeFind else none) = none := by
    rcases h with h | h <;> simp [h]
  rw [Adds, silent]
  constructor
  · rintro ⟨q, -, -, given⟩
    have same : q.conditions = q.conditions ++ added :=
      congrArg Query.conditions (Except.ok.inj given)
    simpa using same
  · rintro rfl
    refine ⟨{ m.query with conditions := look.filter ++ m.alive look.withDeleted }, rfl, rfl, ?_⟩
    simp [consult, Query.addFilter]

theorem adds_nil (h : look.hooked = false) : m.Adds look [] :=
  (adds_iff (.inl h)).2 rfl

/-- The query of find options is that of their look. -/
theorem looks_queryFor {options : FindOptions} {q : Query} (h : m.queryFor options = .ok q)
    (hooked : Bool) :
    m.Looks ⟨options.filter, options.withDeleted, [], hooked⟩ [] q ∧
      q.distinct = false ∧ q.groupBy = [] := by
  rw [queryFor_ok h]
  exact ⟨⟨rfl, rfl, rfl, by simp [sought, alive]⟩, rfl, rfl⟩

/-- **What a hook makes of the query** is a query of the same look, with what it adds. -/
theorem looks_consulted (hm : m.hooks.OnlyAdds) {options : FindOptions} {q q' : Query}
    (h : m.queryFor options = .ok q) (given : consult m.hooks.beforeFind q = .ok q') :
    ∃ added, m.Adds options.look added ∧ m.Looks options.look added q' ∧
      q'.distinct = false ∧ q'.groupBy = [] := by
  obtain ⟨looks, single, ungrouped⟩ := looks_queryFor h true
  have adds : ∃ added, q' = q.addFilter added := by
    cases hook : m.hooks.beforeFind with
    | none =>
      rw [hook] at given
      cases given
      exact ⟨[], by simp [Query.addFilter]⟩
    | some f =>
      rw [hook] at given
      exact hm f hook q q' given
  obtain ⟨added, rfl⟩ := adds
  have conditions : q.conditions = options.filter ++ m.alive options.withDeleted := by
    simpa [sought] using looks.conditions
  refine ⟨added, ⟨q, looks.table, conditions, given⟩, ⟨looks.table, looks.joins, looks.having, ?_⟩,
    single, ungrouped⟩
  simp [Query.addFilter, sought, conditions, FindOptions.look]

end Model

end RecordMapper
