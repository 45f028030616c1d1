import Mathlib.Data.List.Forall2
import RecordMapper.Proofs.Record
import RecordMapper.Proofs.Sql.Draft
import RecordMapper.Proofs.Sql.ReadBack

/-!
# Statements that differ in their operands

Two drafts are alike when they differ in nothing but operands: the forms of the operands, the
lengths of lists and the places of null under `=` and `!=` are the same.

* `Draft.Alike.template`: alike drafts have the same text, and parameters that differ at most where
  an operand differs.
-/

namespace RecordMapper

/-! ## Alike operands -/

/-- Operands of one form. -/
inductive Operand.Alike : Operand → Operand → Prop
  /-- No operands. -/
  | none : Alike .none .none
  /-- Two values. -/
  | single (v w : Value) : Alike (.single v) (.single w)
  /-- Two lists of one length. -/
  | list {values others : List Value} (h : values.length = others.length) :
    Alike (.list values) (.list others)

/-- Conditions that differ in nothing but their operands. -/
structure Condition.Alike (c d : Condition) : Prop where
  /-- They are on one column. -/
  field : c.field = d.field
  /-- They have one operator. -/
  operator : c.operator = d.operator
  /-- Their operands are of one form. -/
  operand : c.operand.Alike d.operand
  /-- Both are compared with null, or none is. -/
  null : c.operator = .compare .eq ∨ c.operator = .compare .ne →
    (c.operand = .single .null ↔ d.operand = .single .null)

/-- Filters whose conditions are alike, one by one. -/
abbrev Filter.Alike (filter other : Filter) : Prop :=
  List.Forall₂ Condition.Alike filter other

/-- Predicates that differ in nothing but values. -/
inductive Predicate.Alike : Predicate → Predicate → Prop
  /-- One test for null. -/
  | null (field : String) (negated : Bool) : Alike (.null field negated) (.null field negated)
  /-- Comparisons with two values. -/
  | compare (field : String) (c : Comparison) (v w : Value) :
    Alike (.compare field c v) (.compare field c w)
  /-- Lists of one length. -/
  | member (field : String) (negated : Bool) (first other : Value) {rest more : List Value}
      (h : rest.length = more.length) :
    Alike (.member field negated first rest) (.member field negated other more)
  /-- Bounds. -/
  | between (field : String) (low high low' high' : Value) :
    Alike (.between field low high) (.between field low' high')
  /-- What no row meets. -/
  | never : Alike .never .never

namespace Predicate.Alike

variable {p q : Predicate}

theorem sql (h : p.Alike q) : p.template.sql = q.template.sql := by
  cases h with
  | member field negated first other h =>
    simp only [template, Template.sql_append, Template.sql_join, Template.sql_raw,
      Template.map_sql_bind, List.length_cons, h]
  | null | never => rfl
  | compare | between => simp [template]

theorem length_values (h : p.Alike q) : p.values.length = q.values.length := by
  cases h with
  | member field negated first other h => simp [values, h]
  | null | compare | between | never => rfl

end Predicate.Alike

theorem Predicate.alike_refl (p : Predicate) : p.Alike p := by
  cases p with
  | null field negated => exact .null field negated
  | compare field c v => exact .compare field c v v
  | member field negated first rest => exact .member field negated first first rfl
  | between field low high => exact .between field low high low high
  | never => exact .never

/-! ## Alike conditions -/

namespace Condition

theorem alike_single {field : String} {op : Operator} {v w : Value}
    (null : op = .compare .eq ∨ op = .compare .ne → (v = .null ↔ w = .null)) :
    (predicate ⟨field, op, .single v⟩).Alike (predicate ⟨field, op, .single w⟩) := by
  cases op with
  | compare c =>
    by_cases hc : c = .eq ∨ c = .ne
    · have same : v = .null ↔ w = .null := null (by simpa using hc)
      by_cases hv : v = .null
      · obtain rfl : w = .null := same.1 hv
        subst hv
        exact Predicate.alike_refl _
      · have hw : w ≠ .null := fun h => hv (same.2 h)
        rw [(Asks.compare field (.inl hv)).predicate, (Asks.compare field (.inl hw)).predicate]
        exact .compare field c v w
    · -- Under every other comparison null is a value like any other.
      have ordered : c ≠ .eq ∧ c ≠ .ne := not_or.1 hc
      rw [(Asks.compare field (.inr ordered)).predicate,
        (Asks.compare field (.inr ordered)).predicate]
      exact .compare field c v w
  | member negated => exact .member field negated v w rfl
  | between => exact .never
  | null negated => exact .null field negated

theorem alike_list {field : String} {op : Operator} {values others : List Value}
    (h : values.length = others.length) :
    (predicate ⟨field, op, .list values⟩).Alike (predicate ⟨field, op, .list others⟩) := by
  cases op with
  | compare c =>
    rw [(Misfit.comparedList field c values).predicate,
      (Misfit.comparedList field c others).predicate]
    exact .never
  | member negated =>
    match values, others, h with
    | [], [], _ => exact .never
    | first :: rest, other :: more, h => exact .member field negated first other (by simpa using h)
  | between =>
    by_cases two : values.length = 2
    · match values, others, two, h with
      | [low, high], [low', high'], _, _ => exact .between field low high low' high'
    · rw [(Misfit.bounds field two).predicate, (Misfit.bounds field (h ▸ two)).predicate]
      exact .never
  | null negated => exact .null field negated

variable {c d : Condition}

/-- Alike conditions ask alike. -/
theorem Alike.predicate (h : c.Alike d) : c.predicate.Alike d.predicate := by
  obtain ⟨field, op, operand⟩ := c
  obtain ⟨_, _, other⟩ := d
  obtain ⟨rfl, rfl, forms, null⟩ := h
  cases forms with
  | none => exact Predicate.alike_refl _
  | single v w => exact alike_single (by simpa using null)
  | list h => exact alike_list h

theorem Alike.sql (h : c.Alike d) : c.template.sql = d.template.sql :=
  h.predicate.sql

theorem Alike.length_operands (h : c.Alike d) : c.operands.length = d.operands.length := by
  rw [← values_predicate, ← values_predicate, h.predicate.length_values]

end Condition

/-! ## Alike clauses -/

namespace Filter

variable {filter other : Filter}

theorem sql_clause (keyword : String) (h : Filter.Alike filter other) :
    (Filter.clause keyword filter).sql = (Filter.clause keyword other).sql := by
  have texts : (filter.map Condition.template).map Template.sql
      = (other.map Condition.template).map Template.sql := by
    induction h with
    | nil => rfl
    | cons hc _ ih => simp only [List.map_cons, hc.sql, ih]
  cases h with
  | nil => rfl
  | cons hc hrest =>
    rw [clause_eq (by simp), clause_eq (by simp), Template.sql_append, Template.sql_append,
      conjunction, conjunction, Template.sql_join, Template.sql_join, texts]

end Filter

/-- Queries that differ in nothing but the operands of their conditions. -/
structure Query.Alike (q other : Query) : Prop where
  /-- All other clauses are the same. -/
  clauses : { q with conditions := other.conditions, having := other.having } = other
  /-- The conditions on rows are alike. -/
  conditions : Filter.Alike q.conditions other.conditions
  /-- The conditions on groups are alike. -/
  having : Filter.Alike q.having other.having

namespace Query.Alike

variable {q other : Query}

theorem sql_where (h : q.Alike other) : q.whereClause.sql = other.whereClause.sql :=
  Filter.sql_clause "WHERE" h.conditions

theorem sql_core (h : q.Alike other) : q.core.sql = other.core.sql := by
  have group : q.groupClause.sql = other.groupClause.sql := by
    rw [groupClause, groupClause, Template.sql_append, Template.sql_append,
      Filter.sql_clause "HAVING" h.having, ← h.clauses]
  rw [core, core, Template.sql_append, Template.sql_append, Template.sql_append,
    Template.sql_append, h.sql_where, group, ← h.clauses]
  rfl

theorem sql_find (h : q.Alike other) : q.find.sql = other.find.sql := by
  rw [find, find, Template.sql_append, Template.sql_append, h.sql_core, ← h.clauses]
  rfl

theorem sql_count (h : q.Alike other) : q.count.sql = other.count.sql := by
  have counted : q.counted = other.counted := by rw [← h.clauses]; rfl
  cases hc : q.counted with
  | true =>
    rw [count_of_counted hc, count_of_counted (counted ▸ hc)]
    simp only [Template.sql_append, h.sql_core]
  | false =>
    rw [count_of_not_counted hc, count_of_not_counted (counted ▸ hc), Template.sql_append,
      Template.sql_append, h.sql_where, ← h.clauses]
    rfl

theorem sql_delete (h : q.Alike other) : q.delete.sql = other.delete.sql := by
  rw [delete, delete, Template.sql_append, Template.sql_append, h.sql_where, ← h.clauses]

end Query.Alike

/-! ## Alike records -/

namespace Record

variable {r other : Record}

theorem length_values (h : r.fields = other.fields) :
    (r.entries.map (·.2)).length = (other.entries.map (·.2)).length := by
  have lengths := congrArg List.length h
  simpa [fields, Entries.names] using lengths

end Record

namespace Insert

theorem sql_tuple {values others : List Value} (h : values.length = others.length) :
    (tuple values).sql = (tuple others).sql := by
  simp only [tuple, Template.sql_append, Template.sql_join, Template.sql_raw,
    Template.map_sql_bind, h]

theorem sql_one (table : String) {r other : Record} (h : r.fields = other.fields) :
    (one table r).sql = (one table other).sql := by
  have tuples := sql_tuple (Record.length_values h)
  have empty : r.isEmpty = other.isEmpty := by rw [Record.isEmpty_eq, Record.isEmpty_eq, h]
  unfold one
  rw [empty]
  split
  · rfl
  · rw [Template.sql_append, Template.sql_append, tuples, h]

theorem sql_many (table : String) (columns : List String) {rows others : List Record}
    (h : rows.length = others.length) :
    (many table columns rows).sql = (many table columns others).sql := by
  have tuples : ∀ rows : List Record,
      (rows.map fun row => tuple (rowValues columns row)).map Template.sql
        = List.replicate rows.length (tuple (rowValues columns .empty)).sql := by
    intro rows
    rw [List.map_map]
    refine List.eq_replicate_iff.2 ⟨by simp, fun text htext => ?_⟩
    obtain ⟨row, -, rfl⟩ := List.mem_map.1 htext
    exact sql_tuple (by simp [rowValues])
  rw [many, many, Template.sql_append, Template.sql_append, Template.sql_join, Template.sql_join,
    tuples, tuples, h]

end Insert

theorem Query.Alike.sql_update {q other : Query} (h : q.Alike other) {set set' : Record}
    (hs : set.fields = set'.fields) :
    (q.update set = .error .noFieldsToUpdate ∧ other.update set' = .error .noFieldsToUpdate) ∨
      ∃ t u, q.update set = .ok t ∧ other.update set' = .ok u ∧ t.sql = u.sql := by
  have empty : set.isEmpty = set'.isEmpty := by rw [Record.isEmpty_eq, Record.isEmpty_eq, hs]
  have names : set.entries.names = set'.entries.names := hs
  cases hset : set'.isEmpty with
  | true => exact .inl ⟨if_pos (empty.trans hset), if_pos hset⟩
  | false =>
    refine .inr ⟨_, _, if_neg (by simp [empty, hset]), if_neg (by simp [hset]), ?_⟩
    rw [Template.sql_append, Template.sql_append, Template.sql_append, Template.sql_append,
      sql_assignments, sql_assignments, names, h.sql_where, ← h.clauses]

/-! ## Alike drafts -/

/-- Drafts that differ in nothing but operands and assigned values. -/
inductive Draft.Alike : Draft → Draft → Prop
  /-- Rows of alike queries. -/
  | find {q other : Query} (h : q.Alike other) : Alike (.find q) (.find other)
  /-- Numbers of rows of alike queries. -/
  | count {q other : Query} (h : q.Alike other) : Alike (.count q) (.count other)
  /-- The same fields assigned to the rows of alike queries. -/
  | update {q other : Query} (h : q.Alike other) {set set' : Record}
      (hs : set.fields = set'.fields) : Alike (.update q set) (.update other set')
  /-- Rows of alike queries deleted. -/
  | delete {q other : Query} (h : q.Alike other) : Alike (.delete q) (.delete other)
  /-- Records of the same fields inserted. -/
  | insert (table : String) {r other : Record} (h : r.fields = other.fields) :
    Alike (.insert table r) (.insert table other)
  /-- As many rows of the same fields inserted. -/
  | insertRows (table : String) (columns : List String) {rows others : List Record}
      (h : List.Forall₂ (fun r other => r.fields = other.fields) rows others) :
    Alike (.insertRows table columns rows) (.insertRows table columns others)

namespace Draft.Alike

variable {d e : Draft}

/-- Alike drafts are refused together, or have the same text. -/
theorem sql (h : d.Alike e) :
    (∃ error, d.template = .error error ∧ e.template = .error error) ∨
      ∃ t u, d.template = .ok t ∧ e.template = .ok u ∧ t.sql = u.sql := by
  cases h with
  | find h => exact .inr ⟨_, _, rfl, rfl, h.sql_find⟩
  | count h => exact .inr ⟨_, _, rfl, rfl, h.sql_count⟩
  | update h hs =>
    rcases h.sql_update hs with ⟨ht, hu⟩ | written
    · exact .inl ⟨_, ht, hu⟩
    · exact .inr written
  | delete h => exact .inr ⟨_, _, rfl, rfl, h.sql_delete⟩
  | insert table h => exact .inr ⟨_, _, rfl, rfl, Insert.sql_one table h⟩
  | insertRows table columns h =>
    exact .inr ⟨_, _, rfl, rfl, Insert.sql_many table columns h.length_eq⟩

/-- The operands of alike drafts, slot by slot. -/
theorem operands (h : d.Alike e) :
    List.Forall₂ (fun a b => a.length = b.length) d.operands e.operands := by
  have filtered : ∀ {filter other : Filter}, Filter.Alike filter other →
      List.Forall₂ (fun a b => a.length = b.length) (filter.map Condition.operands)
        (other.map Condition.operands) := by
    intro filter other h
    rw [List.forall₂_map_left_iff, List.forall₂_map_right_iff]
    exact h.imp fun c d => Condition.Alike.length_operands
  have single : ∀ {values others : List Value}, values.length = others.length →
      List.Forall₂ (fun a b => a.length = b.length) (values.map ([·])) (others.map ([·])) := by
    intro values others h
    rw [List.forall₂_map_left_iff, List.forall₂_map_right_iff]
    exact List.forall₂_of_length_eq_of_get h fun i hi hi' => rfl
  have parts : d.assigned.length = e.assigned.length ∧
      Filter.Alike d.conditions e.conditions ∧ Filter.Alike d.having e.having := by
    cases h with
    | find h => exact ⟨rfl, h.conditions, h.having⟩
    | @count q other h =>
      have counted : q.counted = other.counted := by rw [← h.clauses]; rfl
      refine ⟨rfl, h.conditions, ?_⟩
      simp only [Draft.having, counted]
      split
      · exact h.having
      · exact .nil
    | update h hs => exact ⟨Record.length_values hs, h.conditions, .nil⟩
    | delete h => exact ⟨rfl, h.conditions, .nil⟩
    | insert table h => exact ⟨Record.length_values h, .nil, .nil⟩
    | insertRows table columns h =>
      refine ⟨?_, .nil, .nil⟩
      simp only [Draft.assigned]
      induction h with
      | nil => rfl
      | cons _ _ ih =>
        rw [List.flatMap_cons, List.flatMap_cons, List.length_append, List.length_append, ih]
        simp [Insert.rowValues]
  obtain ⟨assigned, conditions, having⟩ := parts
  exact List.rel_append (List.rel_append (single assigned) (filtered conditions)) (filtered having)

/-- In two lists that are put together from parts of the same lengths, one position is the same
position of the same part. -/
theorem part_of_position {xs ys : List (List Value)}
    (h : List.Forall₂ (fun a b => a.length = b.length) xs ys) :
    xs.flatten.length = ys.flatten.length ∧
      ∀ k < xs.flatten.length, ∃ i j a b, xs[i]? = some a ∧ ys[i]? = some b ∧
        k = (xs.take i).flatten.length + j ∧
        xs.flatten[k]? = a[j]? ∧ ys.flatten[k]? = b[j]? := by
  induction h with
  | nil => exact ⟨rfl, fun k hk => absurd hk (Nat.not_lt_zero k)⟩
  | @cons a b xs ys hab _ ih =>
    obtain ⟨lengths, parts⟩ := ih
    refine ⟨by simp only [List.flatten_cons, List.length_append, hab, lengths], fun k hk => ?_⟩
    by_cases inside : k < a.length
    · refine ⟨0, k, a, b, rfl, rfl, by simp, ?_, ?_⟩
      · rw [List.flatten_cons, List.getElem?_append_left inside]
      · rw [List.flatten_cons, List.getElem?_append_left (hab ▸ inside)]
    · rw [List.flatten_cons, List.length_append] at hk
      obtain ⟨i, j, c, d, hc, hd, hj, hxs, hys⟩ := parts (k - a.length) (by omega)
      refine ⟨i + 1, j, c, d, hc, hd, ?_, ?_, ?_⟩
      · rw [List.take_succ_cons, List.flatten_cons, List.length_append]
        omega
      · rw [List.flatten_cons, List.getElem?_append_right (by omega), hxs]
      · rw [List.flatten_cons, List.getElem?_append_right (by omega), ← hab, hys]

/-- **Alike drafts are written alike**: both are refused, or both have the same text and parameters
of which those at one position are the operands at one place of a slot. -/
theorem template (h : d.Alike e) :
    (∃ error, d.template = .error error ∧ e.template = .error error) ∨
      ∃ t u, d.template = .ok t ∧ e.template = .ok u ∧ t.sql = u.sql ∧
        t.params.length = u.params.length ∧
        ∀ k < t.params.length, ∃ i j a b, d.operands[i]? = some a ∧ e.operands[i]? = some b ∧
          k = (d.operands.take i).flatten.length + j ∧
          t.params[k]? = a[j]? ∧ u.params[k]? = b[j]? := by
  rcases h.sql with refused | ⟨t, u, ht, hu, hsql⟩
  · exact .inl refused
  · refine .inr ⟨t, u, ht, hu, hsql, ?_⟩
    rw [params_template ht, params_template hu]
    exact part_of_position h.operands

end Draft.Alike

end RecordMapper
