import RecordMapper.Proofs.Sql.Cut
import RecordMapper.Proofs.Sql.Declared
import RecordMapper.Proofs.Sql.Placeholders
import RecordMapper.Proofs.Sql.Plain

/-!
# The vocabulary of statements

The lexemes that a statement over declared columns is written with.

* `Draft.Vocabulary` are the fixed words and marks, the table, the declared columns, the aliases
  that the statement selects and the numbers of its window.
* `Draft.uses_find` and its kind go through the statements clause by clause; `Draft.uses_vocabulary`
  finds no other lexemes in any of them.
* `Draft.placeholders_of_declared`: there are as many placeholders as parameters.
-/

namespace RecordMapper

open Lexeme

/-- The words and marks that statements are written with, whatever they are about: keywords, the
names that counts are given, marks and signs, and the digits of `1=0` and of the limit `-1`. -/
def fixedWords : List String :=
  ["SELECT", "DISTINCT", "FROM", "WHERE", "AND", "GROUP", "ORDER", "BY", "ASC", "DESC", "LIMIT",
    "OFFSET", "COUNT", "SUM", "AVG", "MIN", "MAX", "AS", "IN", "NOT", "BETWEEN", "IS", "NULL",
    "LIKE", "UPDATE", "SET", "DELETE", "INSERT", "INTO", "VALUES", "DEFAULT", "count", "counted",
    "(", ")", ",", "*", "-", "?", "=", "!=", "<", ">", "<=", ">=", "1", "0"]

namespace Draft

/-- The columns and expressions that are selected. -/
def selected : Draft → List String
  | .find q | .count q => q.select
  | _ => []

/-- The numbers of the window. -/
def window : Draft → List UInt64
  | .find q => q.limit.toList ++ q.offset.toList
  | _ => []

/-- The lexemes that a statement may be written with. -/
inductive Vocabulary (s : Schema) (d : Draft) : String → Prop
  /-- A keyword, a mark or a sign. -/
  | fixed {w : String} (h : w ∈ fixedWords) : Vocabulary s d w
  /-- The table. -/
  | table : Vocabulary s d s.table
  /-- A declared column. -/
  | column {name : String} (h : s.hasField name = true) : Vocabulary s d name
  /-- The alias of an aggregate that is selected. -/
  | label {a : Aggregate} (sound : a.Over s) (selected : a.sql ∈ d.selected) :
    Vocabulary s d a.label
  /-- A limit or an offset. -/
  | number {n : UInt64} (h : n ∈ d.window) : Vocabulary s d (toString n.toNat)

variable {s : Schema} {d : Draft} {text lit more : String}

/-! ## Texts -/

/-- A text of fixed words and marks alone. -/
def IsFixed (text : String) : Prop :=
  ∀ w ∈ tokens text, w ∈ fixedWords

instance (text : String) : Decidable (IsFixed text) :=
  decidable_of_iff ((tokens text).all fixedWords.contains = true) (by simp [IsFixed])

theorem uses_fixed (h : IsFixed text) : Uses (d.Vocabulary s) text :=
  fun w hw => .fixed (h w hw)

/-- A fixed text that stands between other texts. -/
def IsGap (text : String) : Prop :=
  IsFixed text ∧ Opens text ∧ text ≠ "" ∧ Closes text

instance (text : String) : Decidable (IsGap text) :=
  inferInstanceAs (Decidable (_ ∧ _))

/-- A fixed text in front. -/
theorem uses_after (h : IsFixed lit ∧ Closes lit) (ht : Uses (d.Vocabulary s) text) :
    Uses (d.Vocabulary s) (lit ++ text) :=
  (uses_fixed h.1).closes h.2 ht

/-- A fixed text behind. -/
theorem uses_before (ht : Uses (d.Vocabulary s) text) (h : IsFixed lit ∧ Opens lit) :
    Uses (d.Vocabulary s) (text ++ lit) :=
  ht.opens (uses_fixed h.1) h.2

/-- A fixed text between. -/
theorem uses_between (ht : Uses (d.Vocabulary s) text) (h : IsGap lit)
    (hm : Uses (d.Vocabulary s) more) : Uses (d.Vocabulary s) (text ++ lit ++ more) :=
  (uses_before ht ⟨h.1, h.2.1⟩).closes (closes_append text h.2.2.1 h.2.2.2) hm

/-- Texts with a fixed text between each two. -/
theorem uses_intercalate (h : IsGap lit) :
    ∀ {texts : List String}, (∀ text ∈ texts, Uses (d.Vocabulary s) text) →
      Uses (d.Vocabulary s) (lit.intercalate texts)
  | [], _ => .empty
  | [text], ht => by simpa using ht text (by simp)
  | text :: next :: rest, ht => by
    rw [String.intercalate_cons_cons]
    exact uses_between (ht text (by simp)) h
      (uses_intercalate h fun t member => ht t (List.mem_cons_of_mem text member))

/-! ## Names and numbers -/

theorem uses_table (plain : s.Plain) : Uses (d.Vocabulary s) s.table :=
  .word (isWord_of_isIdentifier plain.table) .table

theorem uses_column (plain : s.Plain) {name : String} (h : s.hasField name = true) :
    Uses (d.Vocabulary s) name :=
  .word (isWord_of_isIdentifier (plain.fields name h)) (.column h)

theorem uses_label {a : Aggregate} (sound : a.Over s) (selected : a.sql ∈ d.selected) :
    Uses (d.Vocabulary s) a.label :=
  .word (isWord_of_isIdentifier sound.label) (.label sound selected)

theorem isWord_toString (n : Nat) : IsWord (toString n) := by
  rw [Nat.toString_eq_repr, IsWord, Nat.toList_repr]
  refine ⟨Nat.toDigits_ne_nil, List.all_eq_true.2 fun c hc => ?_⟩
  have digit := Nat.isDigit_of_mem_toDigits (by decide) (by decide) hc
  have plain : Text.isPlain c = true := by simp [Text.isPlain, Char.isAlphanum, digit]
  simp [isName, Text.isWord_of_isPlain plain]

theorem uses_number {n : UInt64} (h : n ∈ d.window) :
    Uses (d.Vocabulary s) (toString n.toNat) :=
  .word (isWord_toString n.toNat) (.number h)

theorem uses_aggregate (plain : s.Plain) {a : Aggregate} (sound : a.Over s)
    (selected : a.sql ∈ d.selected) : Uses (d.Vocabulary s) a.sql := by
  have field : Uses (d.Vocabulary s) a.field := by
    rcases sound.field with declared | ⟨rows, -⟩
    · exact uses_column plain declared
    · rw [rows]
      exact uses_fixed (by decide)
  have expression : Uses (d.Vocabulary s) a.expression := by
    unfold Aggregate.expression AggregateFunction.sql
    split <;> exact uses_before (uses_after (by decide) field) (by decide)
  exact uses_between expression (by decide) (uses_label sound selected)

/-! ## Conditions -/

theorem uses_bound (vs : List Value) :
    Uses (d.Vocabulary s) (Template.join ", " (vs.map .bind)).sql := by
  rw [Template.sql_join, Template.map_sql_bind]
  refine uses_intercalate (by decide) fun text member => ?_
  rw [List.eq_of_mem_replicate member]
  exact uses_fixed (by decide)

theorem uses_predicate (plain : s.Plain) {p : Predicate}
    (h : ∀ field ∈ p.column?, s.hasField field = true) :
    Uses (d.Vocabulary s) p.template.sql := by
  have bound : Uses (d.Vocabulary s) "?" := uses_fixed (by decide)
  cases p with
  | null field negated =>
    simp only [Predicate.template, Template.sql_raw]
    refine uses_between (uses_column plain (h field rfl)) (by decide) (uses_fixed ?_)
    cases negated <;> decide
  | compare field c v =>
    simp only [Predicate.template, Template.sql_append, Template.sql_raw, Template.sql_bind]
    refine uses_between (uses_between (uses_column plain (h field rfl)) (by decide)
      (uses_fixed ?_)) (by decide) bound
    cases c <;> decide
  | member field negated first rest =>
    simp only [Predicate.template, Template.sql_append, Template.sql_raw]
    refine uses_before (uses_between (uses_between (uses_column plain (h field rfl)) (by decide)
      (uses_fixed ?_)) (by decide) (uses_bound (first :: rest))) (by decide)
    cases negated <;> decide
  | between field low high =>
    simp only [Predicate.template, Template.sql_append, Template.sql_raw, Template.sql_bind]
    exact uses_between (uses_between (uses_column plain (h field rfl)) (by decide) bound)
      (by decide) bound
  | never =>
    rw [Predicate.template, Template.sql_raw]
    exact uses_fixed (by decide)

theorem uses_condition (plain : s.Plain) {c : Condition} (h : s.hasField c.field = true) :
    Uses (d.Vocabulary s) c.template.sql := by
  refine uses_predicate plain fun field hf => ?_
  have copied : field ∈ c.predicate.column?.toList := by simpa using hf
  rw [Condition.column?_predicate, Condition.copied] at copied
  split at copied
  · cases copied
  · rw [List.mem_singleton.1 copied]
    exact h

/-- A clause that begins with a fixed text. -/
theorem opens_after (h : Opens lit ∧ lit ≠ "") (text : String) : Opens (lit ++ text) :=
  opens_append h.1 fun empty => absurd empty h.2

theorem opens_where (q : Query) : Opens q.whereClause.sql := by
  unfold Query.whereClause Filter.clause
  split
  · rw [Template.sql_append, Template.sql_raw]
    exact opens_after (by decide) _
  · rw [Template.sql_empty]
    decide

theorem uses_where (plain : s.Plain) {q : Query}
    (h : ∀ c ∈ q.conditions, s.hasField c.field = true) :
    Uses (d.Vocabulary s) q.whereClause.sql := by
  unfold Query.whereClause Filter.clause Filter.template?
  by_cases none : q.conditions.isEmpty = true
  · simp only [none, if_true]
    exact .empty
  · simp only [none, Bool.false_eq_true, if_false, Template.sql_append, Template.sql_raw,
      Template.sql_join, List.map_map]
    refine uses_after (by decide) (uses_intercalate (by decide) fun text member => ?_)
    obtain ⟨c, hc, rfl⟩ := List.mem_map.1 member
    exact uses_condition plain (h c hc)

/-! ## Queries -/

theorem joinsSql_eq {q : Query} (h : q.Declared s) : q.joinsSql = "" := by
  rw [Query.joinsSql, h.joins]
  rfl

/-- Without conditions on groups there are only the columns. -/
theorem sql_group {q : Query} (h : q.having = []) :
    q.groupClause.sql
      = if q.groupBy.isEmpty then "" else " GROUP BY " ++ ", ".intercalate q.groupBy := by
  have having : Filter.clause "HAVING" q.having = .empty := by rw [h]; rfl
  rw [Query.groupClause, having, Template.append_empty, Template.sql_raw]

theorem opens_group {q : Query} (h : q.having = []) : Opens q.groupClause.sql := by
  rw [sql_group h]
  split
  · decide
  · exact opens_after (by decide) _

theorem uses_group (plain : s.Plain) {q : Query} (h : q.Declared s) :
    Uses (d.Vocabulary s) q.groupClause.sql := by
  rw [sql_group h.having]
  split
  · exact .empty
  · exact uses_after (by decide) (uses_intercalate (by decide) fun column member =>
      uses_column plain (h.groupBy column member))

theorem uses_select (plain : s.Plain) {q : Query} (h : q.Declared s)
    (all : q.select = d.selected) :
    Uses (d.Vocabulary s) (if q.select.isEmpty then "*" else ", ".intercalate q.select) := by
  split
  · exact uses_fixed (by decide)
  · refine uses_intercalate (by decide) fun text member => ?_
    rcases h.select text member with column | ⟨a, sound, rfl⟩
    · exact uses_column plain column
    · exact uses_aggregate plain sound (all ▸ member)

theorem uses_core (plain : s.Plain) {q : Query} (h : q.Declared s) (all : q.select = d.selected) :
    Uses (d.Vocabulary s) q.core.sql := by
  have lead : IsFixed ("SELECT " ++ if q.distinct then "DISTINCT " else "") ∧
      Closes ("SELECT " ++ if q.distinct then "DISTINCT " else "") := by
    split <;> decide
  rw [Query.core, Template.sql_append, Template.sql_append, Template.sql_raw, joinsSql_eq h,
    String.append_empty, h.table]
  exact ((uses_between (uses_after lead (uses_select plain h all)) (by decide)
    (uses_table plain)).opens (uses_where plain h.conditions) (opens_where q)).opens
      (uses_group plain h) (opens_group h.having)

theorem uses_order (plain : s.Plain) {q : Query} (h : q.Declared s) (all : q.select = d.selected) :
    Uses (d.Vocabulary s) q.orderSql := by
  unfold Query.orderSql
  split
  · exact .empty
  · refine uses_after (by decide) (uses_intercalate (by decide) fun text member => ?_)
    obtain ⟨o, ho, rfl⟩ := List.mem_map.1 member
    have column : Uses (d.Vocabulary s) o.column := by
      rcases h.orderBy o ho with declared | ⟨a, sound, selected, label⟩
      · exact uses_column plain declared
      · rw [label]
        exact uses_label sound (all ▸ selected)
    refine uses_between column (by decide) (uses_fixed ?_)
    cases o.direction <;> decide

theorem opens_order (q : Query) : Opens q.orderSql := by
  unfold Query.orderSql
  split
  · decide
  · exact opens_after (by decide) _

theorem opens_window (q : Query) : Opens q.windowSql := by
  unfold Query.windowSql
  split
  · rw [String.append_assoc, String.append_assoc]
    exact opens_after (by decide) _
  · exact opens_after (by decide) _
  · exact opens_after (by decide) _
  · decide

theorem uses_window {q : Query} (h : q.limit.toList ++ q.offset.toList = d.window) :
    Uses (d.Vocabulary s) q.windowSql := by
  unfold Query.windowSql
  split
  · next limit offset hl ho =>
    exact uses_between (uses_after (by decide) (uses_number (by simp [← h, hl]))) (by decide)
      (uses_number (by simp [← h, ho]))
  · next limit hl ho => exact uses_after (by decide) (uses_number (by simp [← h, hl]))
  · next offset hl ho => exact uses_after (by decide) (uses_number (by simp [← h, ho]))
  · exact .empty

/-! ## Statements -/

theorem uses_find (plain : s.Plain) {q : Query} (h : q.Declared s) :
    Uses ((find q).Vocabulary s) q.find.sql := by
  rw [Query.find, Template.sql_append, Template.sql_raw]
  exact (uses_core plain h rfl).opens
    ((uses_order plain h rfl).opens (uses_window rfl) (opens_window q))
    (opens_append (opens_order q) fun _ => opens_window q)

theorem uses_count (plain : s.Plain) {q : Query} (h : q.Declared s) :
    Uses ((count q).Vocabulary s) q.count.sql := by
  cases counted : q.counted with
  | true =>
    rw [Query.count_of_counted counted, Template.sql_append, Template.sql_append, Template.sql_raw,
      Template.sql_raw]
    exact uses_before (uses_after (by decide) (uses_core plain h rfl)) (by decide)
  | false =>
    rw [Query.count_of_not_counted counted, Template.sql_append, Template.sql_raw, joinsSql_eq h,
      String.append_empty, h.table]
    exact (uses_after (by decide) (uses_table plain)).opens (uses_where plain h.conditions)
      (opens_where q)

theorem uses_update (plain : s.Plain) {q : Query} {set : Record} {t : Template}
    (h : q.Declared s) (hs : ∀ name ∈ set.fields, s.hasField name = true)
    (ht : q.update set = .ok t) : Uses ((update q set).Vocabulary s) t.sql := by
  unfold Query.update at ht
  split at ht
  · cases ht
  · cases ht
    rw [Template.sql_append, Template.sql_append, Template.sql_raw, Template.sql_join,
      List.map_map, h.table]
    refine (uses_between (uses_after (by decide) (uses_table plain)) (by decide)
      (uses_intercalate (by decide) fun text member => ?_)).opens
        (uses_where plain h.conditions) (opens_where q)
    obtain ⟨entry, he, rfl⟩ := List.mem_map.1 member
    simp only [Function.comp_apply, Template.sql_append, Template.sql_raw, Template.sql_bind]
    have named : entry.1 ∈ set.fields := List.mem_map_of_mem he
    exact uses_between (uses_column plain (hs _ named)) (by decide) (uses_fixed (by decide))

theorem uses_tuple (vs : List Value) : Uses (d.Vocabulary s) (Insert.tuple vs).sql := by
  rw [Insert.tuple, Template.sql_append, Template.sql_append, Template.sql_raw, Template.sql_raw]
  exact uses_before (uses_after (by decide) (uses_bound vs)) (by decide)

/-- The beginning of an insertion. -/
theorem uses_into (plain : s.Plain) {columns : List String}
    (h : ∀ name ∈ columns, s.hasField name = true) (ht : Uses (d.Vocabulary s) text) :
    Uses (d.Vocabulary s)
      ("INSERT INTO " ++ s.table ++ " (" ++ ", ".intercalate columns ++ ") VALUES " ++ text) :=
  uses_between (uses_between (uses_after (by decide) (uses_table plain)) (by decide)
    (uses_intercalate (by decide) fun name member => uses_column plain (h name member)))
    (by decide) ht

/-- **The vocabulary of a statement over declared columns**: no lexeme of its text is anything
else. -/
theorem uses_vocabulary (plain : s.Plain) (h : d.Declared s) {t : Template}
    (ht : d.template = .ok t) : Uses (d.Vocabulary s) t.sql := by
  cases d with
  | find q =>
    cases ht
    exact uses_find plain h
  | count q =>
    cases ht
    exact uses_count plain h
  | update q set => exact uses_update plain h.1 h.2 ht
  | delete q =>
    cases ht
    rw [Query.delete, Template.sql_append, Template.sql_raw, h.table]
    exact (uses_after (by decide) (uses_table plain)).opens (uses_where plain h.conditions)
      (opens_where q)
  | insert table r =>
    cases ht
    obtain ⟨rfl, columns⟩ := h
    unfold Insert.one
    split
    · rw [Template.sql_raw]
      exact uses_before (uses_after (by decide) (uses_table plain)) (by decide)
    · rw [Template.sql_append, Template.sql_raw]
      exact uses_into plain columns (uses_tuple _)
  | insertRows table columns rows =>
    cases ht
    obtain ⟨rfl, columns⟩ := h
    rw [Insert.many, Template.sql_append, Template.sql_raw, Template.sql_join, List.map_map]
    refine uses_into plain columns (uses_intercalate (by decide) fun text member => ?_)
    obtain ⟨row, -, rfl⟩ := List.mem_map.1 member
    exact uses_tuple _

/-! ## Placeholders -/

theorem placeholders_column (plain : s.Plain) {name : String} (h : s.hasField name = true) :
    placeholders name = 0 :=
  placeholders_of_isIdentifier (plain.fields name h)

theorem placeholders_aggregate (plain : s.Plain) {a : Aggregate} (sound : a.Over s) :
    placeholders a.sql = 0 := by
  have field : placeholders a.field = 0 := by
    rcases sound.field with declared | ⟨rows, -⟩
    · exact placeholders_column plain declared
    · rw [rows]
      rfl
  have expression : placeholders a.expression = 0 := by
    unfold Aggregate.expression AggregateFunction.sql
    split <;> simp only [placeholders_append, field] <;> rfl
  rw [Aggregate.sql, placeholders_append, placeholders_append, expression,
    placeholders_of_isIdentifier sound.label]
  rfl

theorem placeholders_conditions (plain : s.Plain) {filter : Filter}
    (h : ∀ c ∈ filter, s.hasField c.field = true) :
    ∀ text ∈ Filter.copied filter, placeholders text = 0 := by
  intro text member
  obtain ⟨c, hc, copied⟩ := List.mem_flatMap.1 member
  rw [Condition.copied] at copied
  split at copied
  · cases copied
  · rw [List.mem_singleton.1 copied]
    exact placeholders_column plain (h c hc)

theorem placeholders_source (plain : s.Plain) {q : Query} (h : q.Declared s) :
    ∀ text ∈ q.source, placeholders text = 0 := by
  intro text member
  rw [Query.source, h.joins, h.table, List.flatMap_nil, List.mem_singleton] at member
  rw [member]
  exact placeholders_of_isIdentifier plain.table

theorem placeholders_query (plain : s.Plain) {q : Query} (h : q.Declared s) :
    ∀ text ∈ q.copied, placeholders text = 0 := by
  intro text member
  simp only [Query.copied, h.having, List.mem_append] at member
  rcases member with (((select | source) | conditions) | group) | having
  · rcases h.select text select with column | ⟨a, sound, rfl⟩
    · exact placeholders_column plain column
    · exact placeholders_aggregate plain sound
  · exact placeholders_source plain h text source
  · exact placeholders_conditions plain h.conditions text conditions
  · exact placeholders_column plain (h.groupBy text group)
  · cases having

/-- None of the texts that a statement copies holds a placeholder. -/
theorem placeholders_copied (plain : s.Plain) (h : d.Declared s) :
    ∀ text ∈ d.copied, placeholders text = 0 := by
  have named : ∀ {table : String} {names : List String}, table = s.table →
      (∀ name ∈ names, s.hasField name = true) →
        ∀ text ∈ table :: names, placeholders text = 0 := by
    rintro table names rfl declared text member
    rcases List.mem_cons.1 member with rfl | name
    · exact placeholders_of_isIdentifier plain.table
    · exact placeholders_column plain (declared text name)
  intro text member
  cases d with
  | find q =>
    rcases List.mem_append.1 member with query | order
    · exact placeholders_query plain h text query
    · obtain ⟨o, ho, rfl⟩ := List.mem_map.1 order
      rcases h.orderBy o ho with column | ⟨a, sound, -, label⟩
      · exact placeholders_column plain column
      · rw [label]
        exact placeholders_of_isIdentifier sound.label
  | count q =>
    simp only [copied] at member
    split at member
    · exact placeholders_query plain h text member
    · rcases List.mem_append.1 member with source | conditions
      · exact placeholders_source plain h text source
      · exact placeholders_conditions plain h.conditions text conditions
  | update q set =>
    rcases List.mem_append.1 member with target | conditions
    · exact named h.1.table h.2 text target
    · exact placeholders_conditions plain h.1.conditions text conditions
  | delete q =>
    rcases List.mem_cons.1 member with rfl | conditions
    · rw [h.table]
      exact placeholders_of_isIdentifier plain.table
    · exact placeholders_conditions plain h.conditions text conditions
  | insert table r => exact named h.1 h.2 text member
  | insertRows table columns rows => exact named h.1 h.2 text member

/-- **As many placeholders as parameters.** -/
theorem placeholders_of_declared (plain : s.Plain) (h : d.Declared s) {t : Template}
    (ht : d.template = .ok t) : placeholders t.sql = t.params.length := by
  rw [placeholders_sql ht, placeholdersIn_eq_zero (placeholders_copied plain h), Nat.add_zero]

end Draft

end RecordMapper
