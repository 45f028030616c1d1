import RecordMapper.Proofs.Aggregate.Percentiles
import RecordMapper.Proofs.Model.Counting
import RecordMapper.Proofs.Schema.Declaration
import RecordMapper.Proofs.Sql.Orders

/-!
# Ordering by a column

The distinct values of a column, its percentiles and its groups are asked for in ascending order of
the column, and this ordering is read from the name of the column.

* `Query.OrdersBy` says how a query is ordered then. It is ascending by the column exactly if the
  name is bare; in any other case it is not by the column at all.
* `Model.follows_distinct` and `Model.follows_groupBy` are what is said for distinct values and for
  groups. Groups have to be ordered by a column of the result, so that the groups of a column with
  another name are mostly refused (`Model.tabulates_grouping_iff`).
* `values_are_ordered` puts this together, for every declared column. `scores_descend` is a column
  with a minus sign in front, where the values are given in the wrong order.
-/

namespace RecordMapper

/-! ## Orderings -/

/-- How a query is ordered that is ordered by the name of a column. -/
structure Query.OrdersBy (q : Query) (column : String) : Prop where
  /-- The orderings are those that the name spells. -/
  spelled : q.orderBy = Order.byField column
  /-- They are the ascending ordering of the column exactly if the name is bare. -/
  ascending : q.orderBy = [⟨column, .asc⟩] ↔ Order.IsBare column
  /-- This stands after the condition and the grouping then. -/
  text : Order.IsBare column → q.find.statement.sql = "SELECT " ++ q.selection ++ q.restriction.sql
    ++ (" ORDER BY " ++ column ++ " ASC" ++ q.windowSql)
  /-- Otherwise no ordering is by the column. -/
  astray : ¬ Order.IsBare column → ∀ o ∈ q.orderBy, o.column ≠ column

theorem Query.ordersBy {q : Query} {column : String} (ne : column ≠ "")
    (spelled : q.orderBy = Order.byField column) : q.OrdersBy column where
  spelled := spelled
  ascending := by rw [spelled, Order.byField_eq_iff ne]
  text bare := by
    have single : q.orderBy = [⟨column, .asc⟩] := spelled.trans ((Order.byField_eq_iff ne).2 bare)
    rw [← Query.orderSql_single single]
    exact q.counts.found
  astray other o ho same := other (Order.isBare_of_mem_byField (spelled ▸ ho) same)

namespace Model

variable {σ : Type} {m : Model σ} {field : String} {filter : Filter}

/-! ## Distinct values -/

/-- The query of the distinct values of a column. -/
def distinctly (m : Model σ) (field : String) (filter : Filter) : Query :=
  { (m.rowsOf filter).addOrders (Order.byField field) with select := [field], distinct := true }

/-- **Distinct values** are asked for by one statement. -/
theorem follows_distinct (m : Model σ) (field : String) (filter : Filter) (w : World σ) :
    m.Follows (m.distinct field filter) w
      (m.Fetched (m.schema.hasField field = true ∧ m.Filters filter) (m.distinctly field filter)
        fun rows => .ok ((rows.map m.schema.hydrate).filterMap (·.get? field))) :=
  follows_fetched checkValues_eq_ok (fun _ => checkAggregate_error) _ _

/-! ## Groups -/

/-- The rows of a filter in groups of a column. -/
def grouping (field : String) (filter : Filter) : AggregateOptions :=
  { filter, groupBy := [field], order := Order.byField field }

/-- The query of the groups of a column. -/
def grouped (m : Model σ) (field : String) (filter : Filter) : Query :=
  m.tabulation [.countAll] (grouping field filter)

/-- **Groups** are asked for by one statement. -/
theorem follows_groupBy (m : Model σ) (field : String) (filter : Filter) (w : World σ) :
    m.Follows (m.groupBy field filter) w
      (m.Fetched (m.Tabulates [.countAll] (grouping field filter) ∧ m.Filters filter)
        (m.grouped field filter) fun rows => .ok (rows.map m.schema.hydrate)) :=
  follows_aggregate m [.countAll] (grouping field filter) w

/-- Groups are ordered by their column or by the number of rows. -/
theorem tabulates_grouping (declared : m.schema.hasField field = true) :
    m.Tabulates [.countAll] (grouping field filter) ↔
      ∀ o ∈ Order.byField field, o.column = field ∨ o.column = "count" := by
  have columns (o : Order) : o.column ∈ (grouping field filter).columns [.countAll] ↔
      o.column = field ∨ o.column = "count" := by
    simp [AggregateOptions.columns, grouping, Aggregate.countAll, Aggregate.of,
      AggregateFunction.name]
  constructor
  · exact fun asked o ho => (columns o).1 (asked.orders o ho)
  · intro orders
    refine ⟨List.cons_ne_nil _ _, ?_, ?_, ?_, fun o ho => (columns o).2 (orders o ho)⟩
    · exact List.forall_mem_singleton.2 (.inr ⟨rfl, rfl⟩)
    · exact List.forall_mem_singleton.2 rfl
    · exact List.forall_mem_singleton.2 declared

/-- **The groups of a column** can be asked for if its name is bare, or reads as orderings by the
number of rows only. -/
theorem tabulates_grouping_iff (declared : m.schema.hasField field = true) (ne : field ≠ "") :
    m.Tabulates [.countAll] (grouping field filter) ↔
      Order.IsBare field ∨ ∀ o ∈ Order.byField field, o.column = "count" := by
  rw [tabulates_grouping declared]
  by_cases bare : Order.IsBare field
  · refine iff_of_true ?_ (.inl bare)
    rw [(Order.byField_eq_iff ne).2 bare]
    exact List.forall_mem_singleton.2 (.inl rfl)
  · rw [or_iff_right bare]
    refine forall₂_congr fun o ho => or_iff_right fun same => ?_
    exact bare (Order.isBare_of_mem_byField ho same)

end Model

/-- **Values are ordered by their column.** Take any declared column of any table, any filter, and
any answers of an engine. Its distinct values, its percentiles, its median and its groups are asked
for by one statement that is ordered as the name of the column reads. This is ascending by the
column exactly if the name is bare: if it has no comma, no blank, and no minus sign in front. The
orderings that are read from any other name are by other columns; then groups are refused unless
these all are the number of rows. -/
theorem values_are_ordered {σ : Type} (m : Model σ) {table : String} {fields : List Field}
    {options : SchemaOptions} (hs : Schema.declare table fields options = .ok m.schema) {f : Field}
    (hf : f ∈ m.schema.fields) (filter : Filter) (w : World σ) :
    (Order.byField f.name = [⟨f.name, .asc⟩] ↔ Order.IsBare f.name) ∧
    (m.Follows (m.distinct f.name filter) w
        (m.Fetched (m.Filters filter) (m.distinctly f.name filter)
          fun rows => .ok ((rows.map m.schema.hydrate).filterMap (·.get? f.name))) ∧
      (m.distinctly f.name filter).OrdersBy f.name) ∧
    (∀ p, m.Follows (m.percentile f.name p filter) w (m.Percentiled f.name p filter) ∧
      ∀ total, (m.ranked f.name p filter total).OrdersBy f.name) ∧
    m.Follows (m.median f.name filter) w (m.Percentiled f.name (.ofNat 50) filter) ∧
    (m.Follows (m.groupBy f.name filter) w
        (m.Fetched ((Order.IsBare f.name ∨ ∀ o ∈ Order.byField f.name, o.column = "count") ∧
            m.Filters filter)
          (m.grouped f.name filter) fun rows => .ok (rows.map m.schema.hydrate)) ∧
      (m.grouped f.name filter).OrdersBy f.name) := by
  have declared : m.schema.hasField f.name = true := Schema.hasField_of_mem hf
  have ne : f.name ≠ "" := fun empty => by
    have named := (Schema.formed_of_declare hs hf).named
    rw [empty] at named
    cases named
  refine ⟨Order.byField_eq_iff ne, ⟨?_, Query.ordersBy ne rfl⟩, fun p => ⟨?_, fun total => ?_⟩,
    m.follows_percentile _ _ filter w, ?_, Query.ordersBy ne rfl⟩
  · have asked := m.follows_distinct f.name filter w
    rwa [eq_true declared, true_and] at asked
  · exact m.follows_percentile f.name p filter w
  · exact Query.ordersBy ne rfl
  · rw [← Model.tabulates_grouping_iff declared ne]
    exact m.follows_groupBy f.name filter w

/-! ### A minus sign in front -/

/-- A table of scores; one column is named for what is taken off. -/
def scores : Model Unit where
  schema := ⟨"scores", [.id "id", { name := "-age", kind := .number }], {}, ⟨0, by decide⟩⟩
  engine := .silent

theorem scores_ordered :
    Schema.declare "scores" [.id "id", { name := "-age", kind := .number }] {} = .ok scores.schema ∧
      { name := "-age", kind := .number } ∈ scores.schema.fields ∧
      ¬ Order.IsBare "-age" ∧ ¬ (scores.distinctly "-age" []).orderBy = [⟨"-age", .asc⟩] := by
  have declared : Schema.declare "scores" [.id "id", { name := "-age", kind := .number }] {}
      = .ok scores.schema := rfl
  have member : { name := "-age", kind := .number } ∈ scores.schema.fields :=
    List.mem_cons_of_mem _ List.mem_cons_self
  have signed : ¬ Order.IsBare "-age" := fun bare => bare.unsigned rfl
  obtain ⟨-, ⟨-, distinct⟩, -⟩ := values_are_ordered scores declared member [] ⟨(), default, [], []⟩
  exact ⟨declared, member, signed, fun ascending => signed (distinct.ascending.1 ascending)⟩

/-- **Scores descend**: the distinct values of the column are given in descending order of another
one, and its groups are refused. -/
theorem scores_descend :
    Schema.declare "scores" [.id "id", { name := "-age", kind := .number }] {} = .ok scores.schema ∧
      (scores.distinct "-age" []).issued ⟨(), default, [], []⟩
        = [⟨"SELECT DISTINCT -age FROM scores ORDER BY age DESC", []⟩] ∧
      ((scores.groupBy "-age" []).outcome ⟨(), default, [], []⟩).1
        = .error (.invalidArgument (.unknownAggregateOrder "age")) :=
  ⟨rfl, by decide +kernel, by decide +kernel⟩

end RecordMapper
