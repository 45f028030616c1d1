import RecordMapper.Proofs.Model.Pages
import RecordMapper.Proofs.Model.Stages
import RecordMapper.Proofs.Sql.Draft

/-!
# Counting what is selected

The statement that counts the rows of a query, against the one that selects them.

* `Query.restriction` is what restricts the selected rows: the joins, the conditions on rows, the
  grouping and the condition on groups. Ordering and paging leave it alone (`Query.paged_eq`).
* `Query.Counts` compares the two statements, for every query. Distinct or grouped rows are counted
  under the whole restriction. Of other rows the condition on groups is left out, so that the
  restriction is the same only where there is no such condition; `count_drops_having` is a query
  where there is one.
* `count_keeps_restriction` says this of all queries, and of the two statements of a page.
-/

namespace RecordMapper

/-! ## Ordering and paging -/

/-- A call that orders the rows or chooses a window of them. -/
inductive Paging where
  /-- Orders the rows further. -/
  | order (orders : List Order)
  /-- Sets the greatest number of rows. -/
  | limit (n : UInt64)
  /-- Sets the number of rows that are passed over. -/
  | offset (n : UInt64)
  /-- Sets the window of a page. -/
  | page (n perPage : UInt64)
  /-- Removes the orderings and the window. -/
  | clear

/-- A query after such a call. -/
def Paging.apply (q : Query) : Paging → Query
  | .order orders => q.addOrders orders
  | .limit n => { q with limit := some n }
  | .offset n => { q with offset := some n }
  | .page n perPage => q.page n perPage
  | .clear => q.clearPaging

namespace Query

/-- A query after some calls that order and page. -/
def paged (q : Query) (calls : List Paging) : Query :=
  calls.foldl Paging.apply q

/-- **Ordering and paging** change nothing but the ordering and the window. -/
theorem paged_eq (calls : List Paging) : ∀ q : Query,
    ∃ orderBy limit offset, q.paged calls = { q with orderBy, limit, offset } := by
  induction calls with
  | nil => exact fun q => ⟨q.orderBy, q.limit, q.offset, rfl⟩
  | cons call rest ih =>
    intro q
    obtain ⟨orderBy, limit, offset, later⟩ := ih (call.apply q)
    refine ⟨orderBy, limit, offset, ?_⟩
    rw [paged, List.foldl_cons, ← paged, later]
    cases call <;> rfl

/-! ## The restriction of a query -/

/-- The selected columns as text. -/
def selection (q : Query) : String :=
  (if q.distinct then "DISTINCT " else "")
    ++ (if q.select.isEmpty then "*" else ", ".intercalate q.select)

/-- What restricts the rows: the tables, the conditions on rows, and the grouping with the condition
on groups. -/
def restriction (q : Query) : Template :=
  .raw (" FROM " ++ q.table ++ q.joinsSql) ++ q.whereClause ++ q.groupClause

/-- The condition on groups. -/
def havingClause (q : Query) : Template :=
  Filter.clause "HAVING" q.having

theorem restriction_paged (q : Query) (calls : List Paging) :
    (q.paged calls).restriction = q.restriction := by
  obtain ⟨orderBy, limit, offset, same⟩ := paged_eq calls q
  rw [same]
  rfl

theorem count_paged (q : Query) (calls : List Paging) : (q.paged calls).count = q.count := by
  obtain ⟨orderBy, limit, offset, same⟩ := paged_eq calls q
  rw [same]
  rfl

theorem sql_core (q : Query) : q.core.sql = "SELECT " ++ q.selection ++ q.restriction.sql := by
  simp only [core, restriction, selection, Template.sql_append, Template.sql_raw,
    String.append_assoc]

theorem params_core (q : Query) : q.core.params = q.restriction.params := by
  simp only [core, restriction, Template.params_append, Template.params_raw]

/-- Rows that are not grouped are restricted by the conditions on rows, and then by the condition on
groups. -/
theorem restriction_of_not_counted {q : Query} (h : q.counted = false) :
    q.restriction.sql = " FROM " ++ q.table ++ q.joinsSql ++ q.whereClause.sql
        ++ q.havingClause.sql ∧
      q.restriction.params = q.whereClause.params ++ q.havingClause.params := by
  have ungrouped : q.groupBy.isEmpty = true := by
    rw [counted, Bool.or_eq_false_iff] at h
    simpa using h.2
  have group : q.groupClause.sql = q.havingClause.sql ∧
      q.groupClause.params = q.havingClause.params := by
    rw [groupClause, if_pos ungrouped, Template.sql_append, Template.params_append,
      Template.sql_raw, Template.params_raw]
    exact ⟨String.empty_append, rfl⟩
  simp only [restriction, Template.sql_append, Template.params_append, Template.sql_raw,
    Template.params_raw, List.nil_append, group, true_and]

/-! ## The counting statement -/

/-- The statement that counts the rows of a query, against the one that selects them. -/
structure Counts (q : Query) : Prop where
  /-- The selection has the restriction, and then the ordering and the window. -/
  found : q.find.sql
    = "SELECT " ++ q.selection ++ q.restriction.sql ++ (q.orderSql ++ q.windowSql)
  /-- It binds what the restriction binds. -/
  bound : q.find.params = q.restriction.params
  /-- Distinct or grouped rows are counted under the whole restriction, selected as they are. -/
  nested : q.counted = true →
    q.count.sql = "SELECT COUNT(*) AS count FROM (SELECT " ++ q.selection ++ q.restriction.sql
        ++ ") AS counted" ∧
      q.count.params = q.restriction.params
  /-- Other rows are counted under the whole restriction if there is no condition on groups. -/
  plain : q.counted = false → q.having = [] →
    q.count.sql = "SELECT COUNT(*) AS count" ++ q.restriction.sql ∧
      q.count.params = q.restriction.params
  /-- The condition on groups, with its parameters, is what is left out. -/
  dropped : q.counted = false →
    "SELECT COUNT(*) AS count" ++ q.restriction.sql = q.count.sql ++ q.havingClause.sql ∧
      q.restriction.params = q.count.params ++ q.havingClause.params
  /-- This is not nothing. -/
  missed : q.having ≠ [] → q.havingClause.sql ≠ ""

/-- What the counting statement of other rows leaves out. -/
theorem count_dropped {q : Query} (h : q.counted = false) :
    "SELECT COUNT(*) AS count" ++ q.restriction.sql = q.count.sql ++ q.havingClause.sql ∧
      q.restriction.params = q.count.params ++ q.havingClause.params := by
  obtain ⟨sql, params⟩ := restriction_of_not_counted h
  rw [sql, params, count_of_not_counted h]
  simp only [Template.sql_append, Template.sql_raw, Template.params_append, Template.params_raw,
    List.nil_append, and_true, ← String.append_assoc]
  rfl

theorem counts (q : Query) : q.Counts where
  found := by rw [find, Template.sql_append, Template.sql_raw, sql_core]
  bound := by rw [find, Template.params_append, Template.params_raw, List.append_nil, params_core]
  nested h := by
    rw [count_of_counted h]
    simp only [Template.sql_append, Template.sql_raw, Template.params_append, Template.params_raw,
      List.nil_append, List.append_nil, sql_core, params_core, and_true, ← String.append_assoc]
    rfl
  plain h none := by
    have nothing : q.havingClause = .empty := by rw [havingClause, none]; rfl
    obtain ⟨sql, params⟩ := count_dropped h
    rw [nothing] at sql params
    exact ⟨(sql.trans String.append_empty).symm, (params.trans (List.append_nil _)).symm⟩
  dropped := count_dropped
  missed some := by
    have keyword : q.havingClause = .raw " HAVING " ++ Filter.conjunction q.having :=
      Filter.clause_eq some "HAVING"
    rw [keyword, Template.sql_append, Template.sql_raw]
    intro nothing
    have none := congrArg String.length nothing
    rw [String.length_append] at none
    exact absurd (Nat.eq_zero_of_add_eq_zero_right none) (by decide)

end Query

/-- The rows of find options are neither grouped nor made distinct. -/
theorem Model.Asks.plain {σ : Type} {m : Model σ} {options : FindOptions} {q : Query}
    (h : m.Asks options q) (unhooked : m.hooks.beforeFind = none) :
    q.counted = false ∧ q.having = [] := by
  unfold Asks at h
  rw [unhooked] at h
  cases asked : m.queryFor options with
  | error e => rw [asked] at h; cases h
  | ok q' =>
    rw [asked] at h
    obtain rfl : q' = q := Except.ok.inj h
    rw [queryFor_ok asked]
    exact ⟨rfl, rfl⟩

/-- **Counting what is selected.** Take any query, with any joins, conditions, grouping and
condition on groups. The statements that select and that count its rows compare as `Query.Counts`
says: both have the same restriction and bind the same parameters, but for a condition on groups
where rows are neither grouped nor distinct, which is not counted under. Calls that order and page
change neither what is counted nor the restriction.

So a page and its total are asked for with the restriction of one query, and where no hook changes
the query its rows are plain. -/
theorem count_keeps_restriction {σ : Type} (m : Model σ) (q : Query) (calls : List Paging)
    (page perPage : UInt64) (options : FindOptions) (w : World σ) :
    q.Counts ∧ (q.paged calls).count = q.count ∧ (q.paged calls).restriction = q.restriction ∧
    m.Unfolding (m.paginate page perPage options) w fun steps result => ∀ p, result = .ok p →
      ∃ asked reply found, m.Asks options asked ∧
        exchanged steps = [(asked.count.statement.wire, .ok reply),
          ((asked.paged [.page page perPage]).find.statement.wire, .ok found)] ∧
        reply.total = .ok p.total ∧
        (m.hooks.beforeFind = none → asked.counted = false ∧ asked.having = []) := by
  refine ⟨q.counts, q.count_paged calls, q.restriction_paged calls, ?_⟩
  refine (m.unfolding_paginate page perPage options w).mono fun steps result said p ends => ?_
  generalize exchanged steps = xs at said
  cases said with
  | given some asks counted hook =>
    cases ends
    exact ⟨_, _, _, asks, rfl, counted, asks.plain⟩
  | _ => cases ends

/-! ### A condition on all rows -/

/-- All orders, if there are more than five of them. -/
def crowded : Query :=
  Query.addHaving { table := "orders" } (.ofValue "COUNT(*)" (.compare .gt) (.int 5))

/-- **A condition on groups is dropped**: it is on the selected rows, but not on the counted ones,
and its parameter is not bound. -/
theorem count_drops_having :
    crowded.find.statement = ⟨"SELECT * FROM orders HAVING COUNT(*) > ?", [.int 5]⟩ ∧
      crowded.count.statement = ⟨"SELECT COUNT(*) AS count FROM orders", []⟩ := by
  decide

end RecordMapper
