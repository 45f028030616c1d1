import RecordMapper.Proofs.Sql.Draft

/-!
# Placeholders and parameters

How the placeholders of a statement go with its parameters.

* `Draft.placeholders_sql` counts the placeholders of every kind of statement: one for each
  parameter, and those inside the caller's texts that the statement copies (`Draft.copied`).
* `placeholders_match_parameters` puts it together: the count, the order of the parameters, and the
  place of every operand among the placeholders.
-/

namespace RecordMapper

/-! ## Copied placeholders of clauses -/

theorem placeholders_toString (n : Nat) : placeholders (toString n) = 0 := by
  rw [placeholders_eq_zero, Nat.toString_eq_repr, Nat.toList_repr]
  intro h
  have digit := Nat.isDigit_of_mem_toDigits (by decide) (by decide) h
  exact absurd digit (by decide)

theorem placeholders_operator (op : Operator) : placeholders op.sql = 0 := by
  match op with
  | .compare c => cases c <;> rfl
  | .member false | .member true | .between | .null false | .null true => rfl

theorem placeholders_comparison (c : Comparison) : placeholders c.sql = 0 :=
  placeholders_operator (.compare c)

/-- The column of a predicate, if it is on one. -/
def Predicate.column? : Predicate → Option String
  | .null field _ | .compare field _ _ | .member field _ _ _ | .between field _ _ => some field
  | .never => none

theorem Predicate.placeholdersIn_template (p : Predicate) :
    placeholdersIn p.template.texts = placeholdersIn p.column?.toList := by
  have blank : placeholders " " = 0 := rfl
  cases p with
  | null field negated => simp [template, column?, blank, placeholders_operator]
  | compare field c v => simp [template, column?, blank, placeholders_comparison]
  | member field negated first rest =>
    have values : placeholdersIn (Template.join ", " ((first :: rest).map .bind)).texts = 0 := by
      rw [Template.placeholdersIn_texts_join rfl, Template.flatMap_texts_bind, placeholdersIn_nil]
    have bracket : placeholders " (" = 0 ∧ placeholders ")" = 0 := ⟨rfl, rfl⟩
    simp only [template, Template.texts_append, Template.texts_raw, placeholdersIn_append, values]
    simp [column?, blank, bracket, placeholders_operator]
  | between field low high =>
    have words : placeholders " BETWEEN " = 0 ∧ placeholders " AND " = 0 := ⟨rfl, rfl⟩
    simp [template, column?, words]
  | never => rfl

theorem Condition.column?_predicate (c : Condition) : c.predicate.column?.toList = c.copied := by
  unfold Condition.copied Condition.predicate
  split <;> rfl

theorem Filter.placeholdersIn_conditions (filter : Filter) :
    placeholdersIn ((filter.map Condition.template).flatMap Template.texts)
      = placeholdersIn (Filter.copied filter) := by
  induction filter with
  | nil => rfl
  | cons c rest ih =>
    have split : Filter.copied (c :: rest) = c.copied ++ Filter.copied rest := List.flatMap_cons
    rw [List.map_cons, List.flatMap_cons, placeholdersIn_append, ih, Condition.template,
      Predicate.placeholdersIn_template, Condition.column?_predicate, split, placeholdersIn_append]

theorem Filter.placeholdersIn_clause {keyword : String} (h : placeholders keyword = 0)
    (filter : Filter) :
    placeholdersIn (Filter.clause keyword filter).texts
      = placeholdersIn (Filter.copied filter) := by
  have blank : placeholders " " = 0 := rfl
  have separator : placeholders " AND " = 0 := rfl
  rw [← placeholdersIn_conditions]
  cases filter with
  | nil => rfl
  | cons c rest =>
    rw [← Template.placeholdersIn_texts_join separator]
    simp only [Filter.clause, Filter.template?, List.isEmpty_cons, Bool.false_eq_true, if_false,
      Template.texts_append, Template.texts_raw, placeholdersIn_append, placeholdersIn_cons,
      placeholdersIn_nil, placeholders_append, blank, h]
    omega

namespace Query

theorem placeholdersIn_where (q : Query) :
    placeholdersIn q.whereClause.texts = placeholdersIn (Filter.copied q.conditions) :=
  Filter.placeholdersIn_clause rfl q.conditions

theorem placeholders_joinsSql (q : Query) :
    placeholders q.joinsSql = placeholdersIn (q.joins.flatMap fun j => [j.table, j.on]) := by
  have blank : placeholders " " = 0 ∧ placeholders " ON " = 0 := ⟨rfl, rfl⟩
  have keyword : ∀ kind : JoinKind, placeholders kind.sql = 0 := fun kind => by cases kind <;> rfl
  unfold joinsSql
  induction q.joins with
  | nil => rfl
  | cons j rest ih =>
    rw [List.map_cons, String.join_cons, placeholders_append, ih]
    simp only [Join.sql, placeholders_append, blank, keyword, List.flatMap_cons,
      placeholdersIn_append, placeholdersIn_cons, placeholdersIn_nil]
    omega

theorem placeholdersIn_group (q : Query) :
    placeholdersIn q.groupClause.texts
      = placeholdersIn q.groupBy + placeholdersIn (Filter.copied q.having) := by
  have keyword : placeholders " GROUP BY " = 0 := rfl
  have columns : placeholders (if q.groupBy.isEmpty then ""
      else " GROUP BY " ++ ", ".intercalate q.groupBy) = placeholdersIn q.groupBy := by
    cases q.groupBy with
    | nil => rfl
    | cons column rest =>
      rw [List.isEmpty_cons, if_neg Bool.false_ne_true, placeholders_append, keyword, Nat.zero_add,
        placeholders_intercalate rfl]
  rw [groupClause, Template.texts_append, placeholdersIn_append,
    Filter.placeholdersIn_clause rfl, Template.texts_raw, placeholdersIn_cons, columns]
  rfl

theorem placeholdersIn_core (q : Query) :
    placeholdersIn q.core.texts = placeholdersIn q.copied := by
  have words : placeholders "SELECT " = 0 ∧ placeholders " FROM " = 0 := ⟨rfl, rfl⟩
  have distinct : placeholders (if q.distinct then "DISTINCT " else "") = 0 := by
    split <;> rfl
  have columns : placeholders (if q.select.isEmpty then "*" else ", ".intercalate q.select)
      = placeholdersIn q.select := by
    cases q.select with
    | nil => rfl
    | cons column rest =>
      rw [List.isEmpty_cons, if_neg Bool.false_ne_true, placeholders_intercalate rfl]
  simp only [core, copied, source, Template.texts_append, Template.texts_raw,
    placeholdersIn_append, placeholdersIn_cons, placeholdersIn_nil, placeholders_append, words,
    distinct, columns, placeholders_joinsSql, placeholdersIn_where, placeholdersIn_group]
  omega

theorem placeholders_orderSql (q : Query) :
    placeholders q.orderSql = placeholdersIn (q.orderBy.map (·.column)) := by
  have keyword : placeholders " ORDER BY " = 0 := rfl
  have blank : placeholders " " = 0 := rfl
  have direction : ∀ d : Direction, placeholders d.sql = 0 := fun d => by cases d <;> rfl
  have columns : ∀ orders : List Order, placeholdersIn (orders.map Order.sql)
      = placeholdersIn (orders.map (·.column)) := by
    intro orders
    induction orders with
    | nil => rfl
    | cons o rest ih => simp [ih, Order.sql, blank, direction]
  unfold orderSql
  cases q.orderBy with
  | nil => rfl
  | cons o rest =>
    rw [List.isEmpty_cons, if_neg Bool.false_ne_true, placeholders_append, keyword, Nat.zero_add,
      placeholders_intercalate rfl, columns]

theorem placeholders_windowSql (q : Query) : placeholders q.windowSql = 0 := by
  have words : placeholders " LIMIT " = 0 ∧ placeholders " OFFSET " = 0 ∧
      placeholders " LIMIT -1 OFFSET " = 0 := ⟨rfl, rfl, rfl⟩
  unfold windowSql
  split <;> simp only [placeholders_append, placeholders_toString, placeholders_empty, words]

end Query

/-! ## Copied placeholders of statements -/

theorem placeholders_comma : placeholders ", " = 0 := rfl

theorem placeholdersIn_assignments (entries : Entries) :
    placeholdersIn (Template.join ", " (entries.map fun entry =>
      Template.raw (entry.1 ++ " = ") ++ .bind entry.2)).texts = placeholdersIn entries.names := by
  have sign : placeholders " = " = 0 := rfl
  rw [Template.placeholdersIn_texts_join placeholders_comma]
  induction entries with
  | nil => rfl
  | cons entry rest ih =>
    rw [List.map_cons, List.flatMap_cons, placeholdersIn_append, ih]
    simp [Entries.names, sign]

theorem placeholdersIn_tuple (values : List Value) :
    placeholdersIn (Insert.tuple values).texts = 0 := by
  have brackets : placeholders "(" = 0 ∧ placeholders ")" = 0 := ⟨rfl, rfl⟩
  have bound : placeholdersIn (Template.join ", " (values.map .bind)).texts = 0 := by
    rw [Template.placeholdersIn_texts_join placeholders_comma, Template.flatMap_texts_bind,
      placeholdersIn_nil]
  simp [Insert.tuple, brackets, bound]

theorem placeholdersIn_tuples (columns : List String) (rows : List Record) :
    placeholdersIn (Template.join ", " (rows.map fun row =>
      Insert.tuple (Insert.rowValues columns row))).texts = 0 := by
  rw [Template.placeholdersIn_texts_join placeholders_comma]
  induction rows with
  | nil => rfl
  | cons row rest ih =>
    rw [List.map_cons, List.flatMap_cons, placeholdersIn_append, ih, placeholdersIn_tuple]

namespace Draft

theorem placeholdersIn_count (q : Query) :
    placeholdersIn q.count.texts = placeholdersIn (copied (.count q)) := by
  cases h : q.counted with
  | true =>
    have words : placeholders "SELECT COUNT(*) AS count FROM (" = 0 ∧
        placeholders ") AS counted" = 0 := ⟨rfl, rfl⟩
    simp [Query.count_of_counted h, copied, h, words, q.placeholdersIn_core]
  | false =>
    have words : placeholders "SELECT COUNT(*) AS count FROM " = 0 := rfl
    simp [Query.count_of_not_counted h, copied, h, words, Query.source, q.placeholders_joinsSql,
      q.placeholdersIn_where, Nat.add_assoc]

theorem placeholdersIn_update {q : Query} {set : Record} {t : Template}
    (h : q.update set = .ok t) :
    placeholdersIn t.texts = placeholdersIn (copied (.update q set)) := by
  have words : placeholders "UPDATE " = 0 ∧ placeholders " SET " = 0 := ⟨rfl, rfl⟩
  unfold Query.update at h
  split at h
  · cases h
  · cases h
    simp [copied, words, placeholdersIn_assignments, q.placeholdersIn_where, Record.fields]

theorem placeholdersIn_insert (table : String) (r : Record) :
    placeholdersIn (Insert.one table r).texts = placeholdersIn (copied (.insert table r)) := by
  have words : placeholders "INSERT INTO " = 0 ∧ placeholders " (" = 0 ∧
      placeholders ") VALUES " = 0 ∧ placeholders " DEFAULT VALUES" = 0 := ⟨rfl, rfl, rfl, rfl⟩
  unfold Insert.one
  split
  · next h =>
    have empty : r.entries = [] := by simpa [Record.isEmpty] using h
    simp [copied, words, Record.fields, Entries.names, empty]
  · simp [copied, words, placeholders_intercalate placeholders_comma, placeholdersIn_tuple]

theorem placeholdersIn_insertRows (table : String) (columns : List String) (rows : List Record) :
    placeholdersIn (Insert.many table columns rows).texts
      = placeholdersIn (copied (.insertRows table columns rows)) := by
  have words : placeholders "INSERT INTO " = 0 ∧ placeholders " (" = 0 ∧
      placeholders ") VALUES " = 0 := ⟨rfl, rfl, rfl⟩
  simp [Insert.many, copied, words, placeholders_intercalate placeholders_comma,
    placeholdersIn_tuples]

/-- The placeholders that a statement copies. -/
theorem placeholdersIn_template {d : Draft} {t : Template} (h : d.template = .ok t) :
    placeholdersIn t.texts = placeholdersIn d.copied := by
  cases d with
  | find q =>
    cases h
    simp [Query.find, copied, q.placeholdersIn_core, q.placeholders_orderSql,
      q.placeholders_windowSql]
  | count q =>
    cases h
    exact placeholdersIn_count q
  | update q set => exact placeholdersIn_update h
  | delete q =>
    cases h
    have words : placeholders "DELETE FROM " = 0 := rfl
    simp [Query.delete, copied, words, q.placeholdersIn_where]
  | insert table r =>
    cases h
    exact placeholdersIn_insert table r
  | insertRows table columns rows =>
    cases h
    exact placeholdersIn_insertRows table columns rows

/-- **The placeholders of a statement** are those of its parameters and the copied ones. -/
theorem placeholders_sql {d : Draft} {t : Template} (h : d.template = .ok t) :
    placeholders t.sql = t.params.length + placeholdersIn d.copied := by
  rw [t.placeholders_sql, placeholdersIn_template h]

end Draft

/-! ## Placeholders and their operands -/

/-- **Placeholders match parameters.** An update that assigns nothing is refused. Every other
statement has one placeholder for each parameter, besides those inside the texts that it copies; its
parameters are the assigned values, the operands of the conditions on rows and those of the
conditions on groups, in this order. Where the copied texts hold no placeholder, the two numbers
agree, and the placeholders inside the text of a slot get the operands of that slot: there are as
many placeholders before it as operands of the slots before it. -/
theorem placeholders_match_parameters (d : Draft) :
    (∃ q set, d = .update q set ∧ set.isEmpty = true ∧
        d.template = .error .noFieldsToUpdate) ∨
      ∃ t, d.template = .ok t ∧
        placeholders t.sql = t.params.length + placeholdersIn d.copied ∧
        t.params = d.assigned ++ Filter.operands d.conditions ++ Filter.operands d.having ∧
        ((∀ s ∈ d.copied, placeholders s = 0) →
          placeholders t.sql = t.params.length ∧
          ∀ before slot after, d.slots = before ++ slot :: after →
            ∃ l r : String, t.sql = l ++ slot.sql ++ r ∧
              placeholders l = (before.flatMap Template.params).length ∧
              placeholders slot.sql = slot.params.length ∧
              t.params = before.flatMap Template.params ++ slot.params
                ++ after.flatMap Template.params) := by
  rcases d.template_cases with refused | ⟨t, ht⟩
  · exact .inl refused
  · refine .inr ⟨t, ht, Draft.placeholders_sql ht, ?_, fun free => ?_⟩
    · rw [Draft.params_template ht, Draft.flatten_operands]
    · have copied : placeholdersIn d.copied = 0 := placeholdersIn_eq_zero free
      refine ⟨by rw [Draft.placeholders_sql ht, copied, Nat.add_zero], ?_⟩
      intro before slot after hs
      exact (Draft.lays ht).bound (by rw [Draft.placeholdersIn_template ht, copied]) hs

/-- The columns that rows are grouped by are copied too: a placeholder in one of them is neither a
parameter's nor that of any other text. -/
theorem groupColumn_is_copied :
    ¬ ∀ q : Query, placeholders q.find.sql = q.find.params.length
      + placeholdersIn (q.select ++ q.source ++ Filter.copied q.conditions
          ++ Filter.copied q.having ++ q.orderBy.map (·.column)) := by
  intro h
  exact absurd (h { table := "t", groupBy := ["a?"] }) (by decide)

end RecordMapper
