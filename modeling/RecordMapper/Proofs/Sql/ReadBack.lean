import Mathlib.Data.List.Forall2
import RecordMapper.Proofs.Sql.Spelling
import RecordMapper.Sql.Query

/-!
# Conditions read back

What a filter writes is what its conditions ask, one predicate for each condition and in their
order.

* `Condition.Asks` says what a condition asks by its operator and operand; an operand that does not
  fit its operator is a `Condition.Misfit` and asks what no row meets. `Condition.asks_iff` ties it
  to the predicate that is written.
* `conditions_read_back`: a reader of the text and the parameters gets back exactly what the
  conditions ask, and an update or a deletion carries that text and those parameters at its end.
-/

namespace RecordMapper

namespace Condition

/-! ## What conditions ask -/

/-- An operand that does not fit its operator. -/
inductive Misfit : Condition → Prop
  /-- Nothing, or nothing but null, to compare with by order or pattern. -/
  | noOperand (field : String) {c : Comparison} (h : c ≠ .eq ∧ c ≠ .ne) :
    Misfit ⟨field, .compare c, .none⟩
  /-- A list to compare with. -/
  | comparedList (field : String) (c : Comparison) (values : List Value) :
    Misfit ⟨field, .compare c, .list values⟩
  /-- No list to be a member of. -/
  | noList (field : String) (negated : Bool) : Misfit ⟨field, .member negated, .none⟩
  /-- A list without members. -/
  | emptyList (field : String) (negated : Bool) : Misfit ⟨field, .member negated, .list []⟩
  /-- No bounds. -/
  | noBounds (field : String) : Misfit ⟨field, .between, .none⟩
  /-- One bound that is no list. -/
  | oneBound (field : String) (v : Value) : Misfit ⟨field, .between, .single v⟩
  /-- Not two bounds. -/
  | bounds (field : String) {values : List Value} (h : values.length ≠ 2) :
    Misfit ⟨field, .between, .list values⟩

/-- What a condition asks of a row, by its operator and operand. -/
inductive Asks : Condition → Predicate → Prop
  /-- A test for null passes over its operand. -/
  | null (field : String) (negated : Bool) (operand : Operand) :
    Asks ⟨field, .null negated, operand⟩ (.null field negated)
  /-- To equal nothing is to be null. -/
  | eqNothing (field : String) {operand : Operand} (h : operand = .none ∨ operand = .single .null) :
    Asks ⟨field, .compare .eq, operand⟩ (.null field false)
  /-- To differ from nothing is not to be null. -/
  | neNothing (field : String) {operand : Operand} (h : operand = .none ∨ operand = .single .null) :
    Asks ⟨field, .compare .ne, operand⟩ (.null field true)
  /-- A comparison with a value; equality and difference with a value that is not null. -/
  | compare (field : String) {c : Comparison} {v : Value}
      (h : v ≠ .null ∨ (c ≠ .eq ∧ c ≠ .ne)) :
    Asks ⟨field, .compare c, .single v⟩ (.compare field c v)
  /-- To be a member of a list, or none. -/
  | member (field : String) (negated : Bool) (first : Value) (rest : List Value) :
    Asks ⟨field, .member negated, .list (first :: rest)⟩ (.member field negated first rest)
  /-- One value is a list of one. -/
  | memberOne (field : String) (negated : Bool) (v : Value) :
    Asks ⟨field, .member negated, .single v⟩ (.member field negated v [])
  /-- To lie between two bounds. -/
  | between (field : String) (low high : Value) :
    Asks ⟨field, .between, .list [low, high]⟩ (.between field low high)
  /-- What no row meets. -/
  | never {c : Condition} (h : c.Misfit) : Asks c .never

theorem Misfit.predicate {c : Condition} (h : c.Misfit) : c.predicate = .never := by
  cases h with
  | @noOperand field c h => cases c <;> simp_all [Condition.predicate]
  | comparedList field c values => cases c <;> rfl
  | noList | emptyList | noBounds | oneBound => rfl
  | @bounds field values h =>
    match values, h with
    | [], _ | [_], _ | _ :: _ :: _ :: _, _ => rfl
    | [_, _], h => exact absurd rfl h

theorem Asks.predicate {c : Condition} {p : Predicate} (h : c.Asks p) : c.predicate = p := by
  cases h with
  | null | member | memberOne | between => rfl
  | eqNothing field h | neNothing field h => rcases h with rfl | rfl <;> rfl
  | @compare field c v h => cases c <;> cases v <;> simp_all [Condition.predicate]
  | never h => exact h.predicate

theorem asks_predicate : ∀ c : Condition, c.Asks c.predicate
  | ⟨field, .null negated, operand⟩ => .null field negated operand
  | ⟨field, .compare c, .none⟩ => by
    cases c with
    | eq => exact .eqNothing field (.inl rfl)
    | ne => exact .neNothing field (.inl rfl)
    | _ => exact .never (.noOperand field (by decide))
  | ⟨field, .compare c, .single v⟩ => by
    by_cases hv : v = .null
    · subst hv
      cases c with
      | eq => exact .eqNothing field (.inr rfl)
      | ne => exact .neNothing field (.inr rfl)
      | _ => exact .compare field (.inr (by decide))
    · have asks : Asks ⟨field, .compare c, .single v⟩ (.compare field c v) :=
        .compare field (.inl hv)
      rw [asks.predicate]
      exact asks
  | ⟨field, .compare c, .list values⟩ => by
    have misfit : Misfit ⟨field, .compare c, .list values⟩ := .comparedList field c values
    rw [misfit.predicate]
    exact .never misfit
  | ⟨field, .member negated, .none⟩ => .never (.noList field negated)
  | ⟨field, .member negated, .single v⟩ => .memberOne field negated v
  | ⟨field, .member negated, .list []⟩ => .never (.emptyList field negated)
  | ⟨field, .member negated, .list (first :: rest)⟩ => .member field negated first rest
  | ⟨field, .between, .none⟩ => .never (.noBounds field)
  | ⟨field, .between, .single v⟩ => .never (.oneBound field v)
  | ⟨field, .between, .list []⟩ => .never (.bounds field (by simp))
  | ⟨field, .between, .list [_]⟩ => .never (.bounds field (by simp))
  | ⟨field, .between, .list [low, high]⟩ => .between field low high
  | ⟨field, .between, .list (_ :: _ :: _ :: _)⟩ => .never (.bounds field (by simp))

/-- **A condition asks one thing, and writes it.** -/
theorem asks_iff {c : Condition} {p : Predicate} : c.Asks p ↔ c.predicate = p :=
  ⟨Asks.predicate, fun h => h ▸ asks_predicate c⟩

theorem onColumn_predicate {c : Condition} (h : IsColumn c.field) : c.predicate.OnColumn := by
  have asks := asks_predicate c
  generalize c.predicate = p at asks ⊢
  cases asks <;> first | exact h | exact trivial

end Condition

/-! ## Conjunctions -/

namespace Filter

/-- The predicates of the conditions, in order. -/
def predicates (filter : Filter) : List Predicate :=
  filter.map Condition.predicate

theorem asks_predicates (filter : Filter) :
    List.Forall₂ Condition.Asks filter filter.predicates := by
  rw [predicates, List.forall₂_map_right_iff]
  exact List.forall₂_same.2 fun c _ => Condition.asks_predicate c

/-- Conditions ask these predicates and no others. -/
theorem predicates_of_asks {filter : Filter} {asked : List Predicate}
    (h : List.Forall₂ Condition.Asks filter asked) : filter.predicates = asked := by
  induction h with
  | nil => rfl
  | cons hc _ ih => rw [← ih, ← Condition.asks_iff.1 hc]; rfl

theorem onColumn_predicates {filter : Filter} (plain : ∀ c ∈ filter, IsColumn c.field) :
    ∀ p ∈ filter.predicates, p.OnColumn := by
  intro p hp
  obtain ⟨c, hc, rfl⟩ := List.mem_map.1 hp
  exact Condition.onColumn_predicate (plain c hc)

/-- The text and values of conditions, of which there is at least one. -/
def conjunction (filter : Filter) : Template :=
  .join " AND " (filter.map Condition.template)

theorem template?_eq {filter : Filter} (h : filter ≠ []) :
    Filter.template? filter = some filter.conjunction := by
  cases filter with
  | nil => exact absurd rfl h
  | cons c rest => rfl

theorem clause_eq {filter : Filter} (h : filter ≠ []) (keyword : String) :
    Filter.clause keyword filter = .raw (" " ++ keyword ++ " ") ++ filter.conjunction := by
  rw [Filter.clause, template?_eq h]

theorem sql_conjunction (filter : Filter) :
    filter.conjunction.sql = conjunctionSql filter.predicates := by
  rw [conjunction, Template.sql_join, conjunctionSql, predicates, List.map_map, List.map_map]
  rfl

theorem params_conjunction (filter : Filter) :
    filter.conjunction.params = filter.predicates.flatMap Predicate.values := by
  rw [conjunction, Template.params_join, predicates, List.flatMap_map, List.flatMap_map]
  simp [Condition.template]

/-- A reader of the text and the values of predicates on columns gets them back. -/
theorem conjunction?_conjunctionSql {predicates : List Predicate} (ne : predicates ≠ [])
    (h : ∀ p ∈ predicates, p.OnColumn) :
    (⟨conjunctionSql predicates, predicates.flatMap Predicate.values⟩ : Statement).conjunction?
      = some predicates := by
  have stop : ([] : List String).head? ≠ some "AND" := by simp
  have read := conjunction_words stop [] ne h
  simp only [List.append_nil] at read
  simp only [Statement.conjunction?, (spells_conjunction h).tokens_eq, read]

/-- A reader of the text and the values of conditions gets their predicates. -/
theorem conjunction?_statement {filter : Filter} (h : filter ≠ [])
    (plain : ∀ c ∈ filter, IsColumn c.field) :
    filter.conjunction.statement.conjunction? = some filter.predicates := by
  rw [Template.statement, sql_conjunction, params_conjunction]
  exact conjunction?_conjunctionSql (by simpa [predicates] using h) (onColumn_predicates plain)

end Filter

/-! ## Statements that change rows -/

theorem statement_delete {q : Query} (h : q.conditions ≠ []) :
    q.delete.statement
      = ⟨"DELETE FROM " ++ q.table ++ " WHERE " ++ q.conditions.conjunction.sql,
          q.conditions.conjunction.params⟩ := by
  simp [Template.statement, Query.delete, Query.whereClause, Filter.clause_eq h,
    String.append_assoc]

theorem sql_assignments (entries : Entries) :
    (Template.join ", " (entries.map fun entry => .raw (entry.1 ++ " = ") ++ .bind entry.2)).sql
      = ", ".intercalate (entries.names.map (· ++ " = ?")) := by
  rw [Template.sql_join, List.map_map, Entries.names, List.map_map]
  congr 1
  refine List.map_congr_left fun entry _ => ?_
  have text : " = " ++ "?" = " = ?" := rfl
  simp [String.append_assoc, text]

theorem statement_update {q : Query} (h : q.conditions ≠ []) {set : Record}
    (hs : set.isEmpty = false) :
    ∃ t, q.update set = .ok t ∧ t.statement
      = ⟨"UPDATE " ++ q.table ++ " SET " ++ ", ".intercalate (set.fields.map (· ++ " = ?"))
          ++ " WHERE " ++ q.conditions.conjunction.sql,
          set.entries.map (·.2) ++ q.conditions.conjunction.params⟩ := by
  refine ⟨_, by rw [Query.update, hs]; rfl, ?_⟩
  have text : " " ++ "WHERE" ++ " " = " WHERE " := rfl
  have bound : (set.entries.map fun entry =>
      Template.raw (entry.1 ++ " = ") ++ .bind entry.2).flatMap Template.params
      = set.entries.map (·.2) := by
    rw [List.flatMap_map, List.map_eq_flatMap]
    simp
  simp only [Template.statement, Template.sql_append, Template.sql_raw, sql_assignments,
    Query.whereClause, Filter.clause_eq h, text, Template.params_append, Template.params_raw,
    Template.params_join, bound, Record.fields, List.nil_append, String.append_assoc]

/-! ## Read-back -/

/-- **Conditions read back.** Without conditions there is no text. Otherwise a reader of the text
and the parameters, bound from left to right, gets one predicate for each condition, in order, which
is what the condition asks; and an update or a deletion under these conditions ends with that text
and those parameters. -/
theorem conditions_read_back (filter : Filter) (plain : ∀ c ∈ filter, IsColumn c.field) :
    (filter = [] ∧ Filter.template? filter = none) ∨
      ∃ t asked, Filter.template? filter = some t ∧ t.statement.conjunction? = some asked ∧
        List.Forall₂ Condition.Asks filter asked ∧
        ∀ q : Query, q.conditions = filter →
          q.delete.statement
            = ⟨"DELETE FROM " ++ q.table ++ " WHERE " ++ t.sql, t.params⟩ ∧
          ∀ set : Record, set.isEmpty = false → ∃ u, q.update set = .ok u ∧ u.statement
            = ⟨"UPDATE " ++ q.table ++ " SET "
                ++ ", ".intercalate (set.fields.map (· ++ " = ?")) ++ " WHERE " ++ t.sql,
              set.entries.map (·.2) ++ t.params⟩ := by
  by_cases h : filter = []
  · exact .inl ⟨h, by rw [h]; rfl⟩
  · refine .inr ⟨filter.conjunction, filter.predicates, Filter.template?_eq h,
      Filter.conjunction?_statement h plain, Filter.asks_predicates filter, ?_⟩
    rintro q rfl
    exact ⟨statement_delete h, fun set hs => statement_update h hs⟩

/-- Conditions with bounds, null, a list, and a list where a value belongs; one of the columns looks
like a number. -/
def mixedFilter : Filter :=
  [.between "age" (.int 18) (.int 65), .eq "1" .null,
   .notIn "users.role" [.text "a", .text "b"], .ofList "name" (.compare .like) [.text "x%"]]

theorem mixedFilter_reads_back :
    (∀ c ∈ mixedFilter, IsColumn c.field) ∧
      ∃ t, Filter.template? mixedFilter = some t ∧ t.statement.conjunction?
        = some [.between "age" (.int 18) (.int 65), .null "1" false,
            .member "users.role" true (.text "a") [.text "b"], .never] := by
  have plain : ∀ c ∈ mixedFilter, IsColumn c.field := by decide
  refine ⟨plain, ?_⟩
  rcases conditions_read_back mixedFilter plain with ⟨h, -⟩ | ⟨t, asked, ht, hr, ha, -⟩
  · exact absurd h (by decide)
  · refine ⟨t, ht, ?_⟩
    rw [hr, ← Filter.predicates_of_asks ha]
    rfl

end RecordMapper
