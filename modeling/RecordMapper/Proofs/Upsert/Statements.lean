import RecordMapper.Model.Basic
import RecordMapper.Proofs.Model.Stages
import RecordMapper.Proofs.Record
import RecordMapper.Proofs.Sql.ReadBack
import RecordMapper.Sql.Insert

/-!
# Statements about single rows

The statements that an upsert puts to an engine, as they are spelled.

* `Statement.selectRow`, `Statement.insertRow` and `Statement.updateRow` are the texts and the
  values of these statements.
* `Model.wire_select`, `Insert.wire_one` and `Query.wire_update`: this is how queries and insertions
  are written.
-/

namespace RecordMapper

/-! ## Bound values -/

@[simp] theorem Value.isNull_param (v : Value) : v.param.isNull = v.isNull := by
  cases v <;> rfl

@[simp] theorem Value.param_param (v : Value) : v.param.param = v.param := by
  cases v <;> rfl

/-- The values of entries as they are bound. -/
def Entries.params (entries : Entries) : List Value :=
  entries.map fun entry => entry.2.param

/-- A record with its values as they are bound. -/
def Record.bound (r : Record) : Record :=
  r.mapValues fun _ v => v.param

/-! ## Statements -/

namespace Statement

/-- The first word of a statement's text. -/
def keyword (s : Statement) : String :=
  String.ofList (s.sql.toList.takeWhile fun c => c != ' ')

/-- Whether a statement inserts rows. -/
def isInsert (s : Statement) : Bool :=
  s.keyword == "INSERT"

/-- Columns with a placeholder for each, `a = ?`. -/
def assignments (columns : List String) : List String :=
  columns.map fun column => column ++ " = ?"

/-- Selects one row that holds the wanted values. -/
def selectRow (table : String) (wanted : Entries) : Statement where
  sql := "SELECT * FROM " ++ table ++ " WHERE " ++ " AND ".intercalate (assignments wanted.names)
    ++ " LIMIT 1"
  params := wanted.params

/-- Inserts a record. -/
def insertRow (table : String) (data : Record) : Statement where
  sql := "INSERT INTO " ++ table ++ " (" ++ ", ".intercalate data.fields ++ ") VALUES ("
    ++ ", ".intercalate (data.fields.map fun _ => "?") ++ ")"
  params := data.entries.params

/-- Assigns a record to the row of a primary key. -/
def updateRow (table primary : String) (id : Value) (set : Record) : Statement where
  sql := "UPDATE " ++ table ++ " SET " ++ ", ".intercalate (assignments set.fields) ++ " WHERE "
    ++ primary ++ " = ?"
  params := set.entries.params ++ [id.param]

theorem sql_selectRow (table : String) (wanted : Entries) :
    (selectRow table wanted).sql = "SELECT * FROM " ++ table ++ " WHERE "
      ++ " AND ".intercalate (assignments wanted.names) ++ " LIMIT 1" := rfl

theorem sql_insertRow (table : String) (data : Record) :
    (insertRow table data).sql = "INSERT INTO " ++ table ++ " (" ++ ", ".intercalate data.fields
      ++ ") VALUES (" ++ ", ".intercalate (data.fields.map fun _ => "?") ++ ")" := rfl

theorem sql_updateRow (table primary : String) (id : Value) (set : Record) :
    (updateRow table primary id set).sql = "UPDATE " ++ table ++ " SET "
      ++ ", ".intercalate (assignments set.fields) ++ " WHERE " ++ primary ++ " = ?" := rfl

/-- A text that begins with a word and a blank. -/
theorem keyword_eq {s : Statement} {word : String} (h : word.toList ++ [' '] <+: s.sql.toList)
    (hw : ' ' ∉ word.toList) : s.keyword = word := by
  obtain ⟨rest, h⟩ := h
  have letters : ∀ c ∈ word.toList, (c != ' ') = true := by
    intro c hc
    rw [bne_iff_ne]
    rintro rfl
    exact hw hc
  rw [keyword, ← h, List.append_assoc, List.takeWhile_append_of_pos letters, List.singleton_append,
    List.takeWhile_cons_of_neg (by simp), List.append_nil, String.ofList_toList]

theorem keyword_selectRow (table : String) (wanted : Entries) :
    (selectRow table wanted).keyword = "SELECT" := by
  refine keyword_eq ?_ (by decide)
  simp only [sql_selectRow, String.toList_append, List.append_assoc]
  exact ⟨_, rfl⟩

theorem keyword_insertRow (table : String) (data : Record) :
    (insertRow table data).keyword = "INSERT" := by
  refine keyword_eq ?_ (by decide)
  simp only [sql_insertRow, String.toList_append, List.append_assoc]
  exact ⟨_, rfl⟩

theorem keyword_updateRow (table primary : String) (id : Value) (set : Record) :
    (updateRow table primary id set).keyword = "UPDATE" := by
  refine keyword_eq ?_ (by decide)
  simp only [sql_updateRow, String.toList_append, List.append_assoc]
  exact ⟨_, rfl⟩

theorem isInsert_selectRow (table : String) (wanted : Entries) :
    (selectRow table wanted).isInsert = false := by
  rw [isInsert, keyword_selectRow]
  rfl

theorem isInsert_insertRow (table : String) (data : Record) :
    (insertRow table data).isInsert = true := by
  rw [isInsert, keyword_insertRow]
  rfl

theorem isInsert_updateRow (table primary : String) (id : Value) (set : Record) :
    (updateRow table primary id set).isInsert = false := by
  rw [isInsert, keyword_updateRow]
  rfl

end Statement

/-! ## How they are written -/

/-- A condition that a column has a value. -/
theorem Condition.template_eq {column : String} {v : Value} (h : v.isNull = false) :
    (Condition.eq column v).template = .raw (column ++ " " ++ "=" ++ " ") ++ .bind v := by
  cases v with
  | null => cases h
  | _ => rfl

/-- Conditions that columns have values. -/
theorem Filter.statement_equalities {wanted : Entries}
    (h : ∀ entry ∈ wanted, entry.2.isNull = false) :
    (conjunction (wanted.map fun entry => .eq entry.1 entry.2)).statement
      = ⟨" AND ".intercalate (Statement.assignments wanted.names), wanted.map (·.2)⟩ := by
  have templates : (wanted.map fun entry => Condition.eq entry.1 entry.2).map Condition.template
      = wanted.map fun entry => .raw (entry.1 ++ " " ++ "=" ++ " ") ++ .bind entry.2 := by
    rw [List.map_map]
    exact List.map_congr_left fun entry he => Condition.template_eq (h entry he)
  rw [conjunction, templates, Template.statement, Template.sql_join, Template.params_join]
  congr 1
  · congr 1
    simp only [Statement.assignments, Entries.names, List.map_map]
    refine List.map_congr_left fun entry _ => ?_
    simp [String.append_assoc]
  · rw [List.flatMap_map, List.map_eq_flatMap]
    simp

/-- The insertion of a record that is not empty. -/
theorem Insert.wire_one {table : String} {data : Record} (h : data.isEmpty = false) :
    (Insert.one table data).statement.wire = .insertRow table data := by
  have marks : ((data.entries.map (·.2)).map Template.bind).map Template.sql
      = data.fields.map fun _ => "?" := by
    simp only [Record.fields, Entries.names, List.map_map]
    rfl
  have sql : (Insert.one table data).sql = (Statement.insertRow table data).sql := by
    have values : ") VALUES (" = ") VALUES " ++ "(" := rfl
    simp only [Insert.one, h, Bool.false_eq_true, if_false, tuple, Template.sql_append,
      Template.sql_raw, Template.sql_join, marks, Statement.sql_insertRow, values,
      String.append_assoc]
  have params : (Insert.one table data).params = data.entries.map (·.2) := by
    simp only [Insert.one, h, Bool.false_eq_true, if_false, tuple, Template.params_append,
      Template.params_raw, Template.params_join, Template.flatMap_params_bind, List.nil_append,
      List.append_nil]
  rw [Statement.wire, Template.statement, sql, params, List.map_map]
  rfl

namespace Model

variable {σ : Type} {m : Model σ}

/-- The selection of one row that meets some conditions. -/
theorem wire_limitOne {conditions : Filter} (ne : conditions ≠ []) :
    ({ m.query with conditions, limit := some 1 } : Query).find.statement.wire
      = ⟨"SELECT * FROM " ++ m.table ++ " WHERE " ++ conditions.conjunction.sql ++ " LIMIT 1",
        conditions.conjunction.params.map Value.param⟩ := by
  have clause : ({ m.query with conditions, limit := some 1 } : Query).whereClause
      = .raw (" " ++ "WHERE" ++ " ") ++ conditions.conjunction :=
    Filter.clause_eq ne "WHERE"
  have head : ({ m.query with conditions, limit := some 1 } : Query).core
      = .raw ("SELECT * FROM " ++ m.table ++ "")
        ++ ({ m.query with conditions, limit := some 1 } : Query).whereClause
        ++ (.raw "" ++ .empty) := by
    have text : "SELECT " ++ "" ++ "*" ++ " FROM " = "SELECT * FROM " := rfl
    rw [← text]
    rfl
  have tail : ({ m.query with conditions, limit := some 1 } : Query).orderSql
      ++ ({ m.query with conditions, limit := some 1 } : Query).windowSql = " LIMIT 1" := rfl
  have word : " WHERE " = " " ++ "WHERE" ++ " " := rfl
  rw [Statement.wire, Template.statement, Query.find, head, clause, tail, word]
  simp only [Template.sql_append, Template.sql_raw, Template.sql_empty, Template.params_append,
    Template.params_raw, Template.params_empty, String.append_empty, String.append_assoc,
    List.nil_append, List.append_nil]

/-- The query for one row that holds the wanted values. -/
def queryOne (m : Model σ) (wanted : Entries) : Query :=
  { m.query with conditions := wanted.map fun entry => .eq entry.1 entry.2, limit := some 1 }

/-- The selection of one row that holds some wanted values, none of them null. -/
theorem wire_queryOne {wanted : Entries} (ne : wanted ≠ [])
    (h : ∀ entry ∈ wanted, entry.2.isNull = false) :
    (m.queryOne wanted).find.statement.wire = .selectRow m.table wanted := by
  have some : (wanted.map fun entry => Condition.eq entry.1 entry.2) ≠ [] := by simpa using ne
  have equalities := Filter.statement_equalities h
  have sql := congrArg Statement.sql equalities
  have params := congrArg Statement.params equalities
  simp only [Template.statement] at sql params
  rw [queryOne, wire_limitOne some, sql, params, List.map_map]
  rfl

/-- Assigns a record to the row of a primary key; an empty one cannot be assigned. -/
def assignOne (m : Model σ) (id : Value) (set : Record) : Except Error Template :=
  (m.query.addFilter [.eq m.schema.keyName id]).update set

/-- The condition that a row has a primary key. -/
theorem where_primary {id : Value} (h : id.isNull = false) :
    (m.query.addFilter [.eq m.schema.keyName id]).whereClause
      = .raw (" " ++ "WHERE" ++ " ")
        ++ (.raw (m.schema.keyName ++ " " ++ "=" ++ " ") ++ .bind id) := by
  have clause : (m.query.addFilter [.eq m.schema.keyName id]).whereClause
      = .raw (" " ++ "WHERE" ++ " ") ++ Filter.conjunction [.eq m.schema.keyName id] :=
    Filter.clause_eq (List.cons_ne_nil _ _) "WHERE"
  rw [clause, Filter.conjunction, List.map_cons, Condition.template_eq h]
  rfl

/-- The assignment of a record to the row of a primary key. -/
theorem wire_assignOne {id : Value} {set : Record} {t : Template} (null : id.isNull = false)
    (h : m.assignOne id set = .ok t) :
    t.statement.wire = .updateRow m.table m.schema.keyName id set := by
  have written : t = .raw ("UPDATE " ++ m.table ++ " SET ") ++ .join ", " (set.entries.map
      fun entry => .raw (entry.1 ++ " = ") ++ .bind entry.2)
        ++ (m.query.addFilter [.eq m.schema.keyName id]).whereClause := by
    unfold assignOne Query.update at h
    split at h
    · cases h
    · exact (Except.ok.inj h).symm
  have assigned : (set.entries.map fun entry =>
      Template.raw (entry.1 ++ " = ") ++ .bind entry.2).map Template.sql
        = Statement.assignments set.fields := by
    simp only [Statement.assignments, Record.fields, Entries.names, List.map_map]
    refine List.map_congr_left fun entry _ => ?_
    simp [String.append_assoc]
  have values : (set.entries.map fun entry =>
      Template.raw (entry.1 ++ " = ") ++ .bind entry.2).flatMap Template.params
        = set.entries.map (·.2) := by
    rw [List.flatMap_map, List.map_eq_flatMap]
    simp
  have text : t.sql = (Statement.updateRow m.table m.schema.keyName id set).sql := by
    have word : " WHERE " = " " ++ "WHERE" ++ " " := rfl
    have mark : " = ?" = " " ++ ("=" ++ (" " ++ "?")) := rfl
    rw [written, where_primary null, Statement.sql_updateRow, word, mark]
    simp only [Template.sql_append, Template.sql_raw, Template.sql_join, assigned,
      Template.sql_bind, String.append_assoc]
  have params : t.params = set.entries.map (·.2) ++ [id] := by
    rw [written, where_primary null]
    simp only [Template.params_append, Template.params_raw, Template.params_join, values,
      Template.params_bind, List.nil_append]
  rw [Statement.wire, Template.statement, text, params, List.map_append, List.map_map]
  rfl

end Model

end RecordMapper
