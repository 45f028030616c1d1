import RecordMapper.Proofs.Aggregate.Ordering
import RecordMapper.Proofs.Record

/-!
# The columns of aggregates

Several aggregates are given as records that are keyed by the names of the result columns: the group
columns and then the aliases. Nothing makes sure that these differ.

* `Record.ofRow` is the record of a row. `Record.entries_ofRow` says that all values are kept
  exactly if the columns differ, and `Record.get?_ofRow` that else the last one of a name is.
* `AggregateOptions.columns_nodup` says when they do, and `Model.Tabulates.twice` that this is not
  asked for: what may be asked for once may be asked for twice in one statement.
* `Aggregate.label_of_eq_iff`: default aliases name the function and the field, so that those of
  different aggregates differ, but for the number of a column that is named for distinct values.
* `result_columns_may_clash` puts this together. `tallies_clash` is a table where the groups of a
  column lose it.
-/

namespace RecordMapper

/-! ## Records of rows -/

namespace Record

/-- The record of a row: the values in the order of the result columns. -/
def ofRow (columns : List String) (values : List Value) : Record :=
  ofEntries (columns.zip values)

/-- **A row keeps all values** exactly if its columns differ. -/
theorem entries_ofRow {columns : List String} {values : List Value}
    (full : values.length = columns.length) :
    (ofRow columns values).entries = columns.zip values ↔ columns.Nodup := by
  have names : Entries.names (columns.zip values) = columns :=
    List.map_fst_zip full.ge
  constructor
  · intro kept
    have distinct := (ofRow columns values).nodup
    rwa [kept, names] at distinct
  · intro distinct
    refine (entries_foldl_set _ empty ?_).trans (List.nil_append _)
    rw [names]
    exact distinct

/-- The value of a column of a row is the last one under its name. -/
theorem get?_ofRow (columns : List String) (values : List Value) (name : String) :
    (ofRow columns values).get? name = Entries.value? (columns.zip values).reverse name :=
  (get?_foldl_set _ name empty).trans (Option.or_none)

end Record

/-! ## Result columns -/

/-- **The result columns differ** if the group columns do, the aliases do, and no alias is the name
of a group column. -/
theorem AggregateOptions.columns_nodup {options : AggregateOptions} {aggregates : List Aggregate} :
    (options.columns aggregates).Nodup ↔ options.groupBy.Nodup ∧
      (aggregates.map (·.label)).Nodup ∧ ∀ a ∈ aggregates, a.label ∉ options.groupBy := by
  rw [columns, List.nodup_append]
  refine and_congr_right' (and_congr_right' ?_)
  constructor
  · exact fun apart a ha group => apart _ group _ (List.mem_map_of_mem ha) rfl
  · rintro apart column group label mem rfl
    obtain ⟨a, ha, rfl⟩ := List.mem_map.1 mem
    exact apart a ha group

namespace Model

variable {σ : Type} {m : Model σ} {aggregates : List Aggregate} {options : AggregateOptions}

/-- **What may be asked for may be asked for twice** in one statement. -/
theorem Tabulates.twice (asked : m.Tabulates aggregates options) :
    m.Tabulates (aggregates ++ aggregates) options where
  some none := asked.some (List.append_eq_nil_iff.1 none).1
  measures a ha := asked.measures a (by simpa using ha)
  labels a ha := asked.labels a (by simpa using ha)
  groups := asked.groups
  orders o ho := by
    have column := asked.orders o ho
    simp only [AggregateOptions.columns, List.map_append, List.mem_append] at column ⊢
    exact column.imp_right .inl

/-- Then its aliases are there twice. -/
theorem columns_twice (some : aggregates ≠ []) :
    ¬ (options.columns (aggregates ++ aggregates)).Nodup := by
  obtain ⟨a, ha⟩ := List.exists_mem_of_ne_nil aggregates some
  intro distinct
  have labels := (AggregateOptions.columns_nodup.1 distinct).2.1
  rw [List.map_append, List.nodup_append] at labels
  exact labels.2.2 _ (List.mem_map_of_mem ha) _ (List.mem_map_of_mem ha) rfl

/-- The groups of a column have two different columns unless it is named for the number of rows. -/
theorem columns_grouping (field : String) (filter : Filter) :
    ((grouping field filter).columns [.countAll]).Nodup ↔ field ≠ "count" := by
  simp [AggregateOptions.columns, grouping, Aggregate.countAll, Aggregate.of,
    AggregateFunction.name]

end Model

/-! ## Default aliases -/

namespace Aggregate

/-- What a default alias adds to the name of the function. -/
def suffix (field : String) : String :=
  if field = "*" then "" else "_" ++ field

variable {f g : AggregateFunction} {x y : String}

theorem label_of (f : AggregateFunction) (x : String) : (of f x).label = f.name ++ suffix x := by
  unfold of suffix
  split
  · exact String.append_empty.symm
  · exact String.append_assoc

theorem suffix_star : suffix "*" = "" := rfl

theorem suffix_of_ne (column : x ≠ "*") : suffix x = "_" ++ x :=
  if_neg column

theorem suffix_inj : suffix x = suffix y ↔ x = y := by
  refine ⟨fun same => ?_, congrArg suffix⟩
  by_cases rows : x = "*" <;> by_cases rows' : y = "*"
  · rw [rows, rows']
  · rw [rows, suffix_star, suffix_of_ne rows'] at same
    exact absurd (String.append_eq_empty_iff.1 same.symm).1 (by decide)
  · rw [rows', suffix_star, suffix_of_ne rows] at same
    exact absurd (String.append_eq_empty_iff.1 same).1 (by decide)
  · rw [suffix_of_ne rows, suffix_of_ne rows'] at same
    exact (String.append_right_inj "_").1 same

/-- The name of the number of values is the beginning of that of the distinct ones. -/
theorem count_label_eq_iff : (of .count x).label = (of .countDistinct y).label ↔
    x = "distinct" ++ suffix y := by
  have longer : AggregateFunction.name .countDistinct
      = AggregateFunction.name .count ++ ("_" ++ "distinct") := rfl
  rw [label_of, label_of, longer, String.append_assoc, String.append_right_inj, String.append_assoc]
  by_cases rows : x = "*"
  · refine iff_of_false (fun same => ?_) fun same => ?_
    · rw [rows, suffix_star] at same
      exact absurd (String.append_eq_empty_iff.1 same.symm).1 (by decide)
    · have first := congrArg (·.toList.head?) (rows.symm.trans same)
      simp at first
  · rw [suffix_of_ne rows, String.append_right_inj]

/-- Only these two functions have names that begin alike. -/
theorem function_of_label_eq (same : (of f x).label = (of g y).label) :
    f = g ∨ (f = .count ∧ g = .countDistinct) ∨ (f = .countDistinct ∧ g = .count) := by
  have long (h : AggregateFunction) : 2 ≤ h.name.toList.length := by cases h <;> decide
  have heads : f.name.toList.take 2 = g.name.toList.take 2 := by
    have letters := congrArg (·.toList.take 2) same
    simpa only [label_of, String.toList_append, List.take_append_of_le_length (long _)]
      using letters
  cases f <;> cases g <;> first | exact absurd heads (by decide) | simp

/-- **Default aliases differ** for different aggregates, except for the number of values of a column
that is named for distinct values. -/
theorem label_of_eq_iff : (of f x).label = (of g y).label ↔ (f = g ∧ x = y) ∨
    (f = .count ∧ g = .countDistinct ∧ x = "distinct" ++ suffix y) ∨
    (f = .countDistinct ∧ g = .count ∧ y = "distinct" ++ suffix x) := by
  constructor
  · intro same
    rcases function_of_label_eq same with rfl | ⟨rfl, rfl⟩ | ⟨rfl, rfl⟩
    · rw [label_of, label_of, String.append_right_inj, suffix_inj] at same
      exact .inl ⟨rfl, same⟩
    · exact .inr (.inl ⟨rfl, rfl, count_label_eq_iff.1 same⟩)
    · exact .inr (.inr ⟨rfl, rfl, count_label_eq_iff.1 same.symm⟩)
  · rintro (⟨rfl, rfl⟩ | ⟨rfl, rfl, same⟩ | ⟨rfl, rfl, same⟩)
    · rfl
    · exact count_label_eq_iff.2 same
    · exact (count_label_eq_iff.2 same).symm

end Aggregate

/-- **The columns of aggregates need not differ.** Take any table and any answers of an engine.
Several aggregates are asked for where the columns and aliases are as they may be, and groups as
several aggregates. The result columns differ exactly if the group columns do, the aliases do, and
no alias names a group column; exactly then a row keeps all its values, and else it has the last one
of each name. This is not seen to: whatever may be asked for may be asked for twice in one
statement, and the groups of a column that is named for the number of rows lose their values.
Default aliases differ where the function or the column does, but for the number of values of a
column that is named for distinct values. -/
theorem result_columns_may_clash {σ : Type} (m : Model σ) (aggregates : List Aggregate)
    (options : AggregateOptions) (w : World σ) :
    m.Follows (m.aggregate aggregates options) w
      (m.Fetched (m.Tabulates aggregates options ∧ m.Filters options.filter)
        (m.tabulation aggregates options) fun rows => .ok (rows.map m.schema.hydrate)) ∧
    (∀ field filter, m.groupBy field filter
      = m.aggregate [.countAll] (Model.grouping field filter)) ∧
    ((options.columns aggregates).Nodup ↔ options.groupBy.Nodup ∧
      (aggregates.map (·.label)).Nodup ∧ ∀ a ∈ aggregates, a.label ∉ options.groupBy) ∧
    (∀ values : List Value, values.length = (options.columns aggregates).length →
      ((Record.ofRow (options.columns aggregates) values).entries
          = (options.columns aggregates).zip values ↔ (options.columns aggregates).Nodup) ∧
      ∀ name, (Record.ofRow (options.columns aggregates) values).get? name
        = Entries.value? ((options.columns aggregates).zip values).reverse name) ∧
    (m.Tabulates aggregates options → m.Tabulates (aggregates ++ aggregates) options ∧
      ¬ (options.columns (aggregates ++ aggregates)).Nodup) ∧
    (∀ field filter, ((Model.grouping field filter).columns [.countAll]).Nodup
      ↔ field ≠ "count") ∧
    ∀ f x g y, (Aggregate.of f x).label = (Aggregate.of g y).label ↔ (f = g ∧ x = y) ∨
      (f = .count ∧ g = .countDistinct ∧ x = "distinct" ++ Aggregate.suffix y) ∨
      (f = .countDistinct ∧ g = .count ∧ y = "distinct" ++ Aggregate.suffix x) :=
  ⟨m.follows_aggregate aggregates options w, fun _ _ => rfl, AggregateOptions.columns_nodup,
    fun _ full => ⟨Record.entries_ofRow full, Record.get?_ofRow _ _⟩,
    fun asked => ⟨asked.twice, Model.columns_twice asked.some⟩, Model.columns_grouping,
    fun _ _ _ _ => Aggregate.label_of_eq_iff⟩

/-! ### A column of counts -/

/-- A table of tallies, whose column has the name of the alias. Its engine reports two rows that
count seven. -/
def tallies : Model Unit where
  schema := ⟨"tallies", [.id "id", { name := "count", kind := .number }], {}, ⟨0, by decide⟩⟩
  engine _ state :=
    (.ok { rows := [.ofRow ["count", "count"] [.int 7, .int 2]] }, state)

/-- **Tallies clash**: the groups of the column are asked for under one name twice, and the records
have the number of rows only. -/
theorem tallies_clash :
    Schema.declare "tallies" tallies.schema.fields {} = .ok tallies.schema ∧
      (tallies.groupBy "count" []).issued ⟨(), default, [], []⟩
        = [⟨"SELECT count, COUNT(*) AS count FROM tallies"
          ++ " GROUP BY count ORDER BY count ASC", []⟩] ∧
      ((tallies.groupBy "count" []).outcome ⟨(), default, [], []⟩).1
        = .ok [.ofEntries [("count", .int 2)]] ∧
      ¬ ((Model.grouping "count" []).columns [.countAll]).Nodup :=
  ⟨rfl, by decide +kernel, by decide +kernel, by decide +kernel⟩

end RecordMapper
