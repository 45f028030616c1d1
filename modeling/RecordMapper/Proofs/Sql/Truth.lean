import RecordMapper.Proofs.Sql.ReadBack

/-!
# Truth of conditions

What an engine makes of the conditions on a row. A comparison with null is unknown, and an engine
takes only rows of which all conditions together are true.

* `Truth.and`, `Truth.or` and `Truth.not` are the connectives of three-valued logic.
* `Predicate.truth` is what a predicate says of a row, however the engine compares two values.
* `Predicate.all_truth_marked` and `Predicate.all_truth_unmarked`: a test for null among predicates
  makes them false of every row with a value there, and changes nothing for the others.
* `Filter.conjunction?_bound`: the text of conditions, with its parameters as they are bound, reads
  as what the conditions ask of the bound values.
-/

namespace RecordMapper

/-! ## Truth values -/

/-- True, false, or unknown. -/
abbrev Truth : Type := Option Bool

namespace Truth

/-- The negation; that of the unknown is unknown. -/
def not (t : Truth) : Truth :=
  t.map Bool.not

/-- The conjunction: false if either side is, and true if both are. -/
def and : Truth → Truth → Truth
  | some false, _ => some false
  | some true, t => t
  | none, some false => some false
  | none, _ => none

/-- The disjunction: true if either side is, and false if both are. -/
def or (s t : Truth) : Truth :=
  (s.not.and t.not).not

/-- The conjunction of all. -/
def all (truths : List Truth) : Truth :=
  truths.foldr and (some true)

/-- The disjunction of all. -/
def any (truths : List Truth) : Truth :=
  truths.foldr or (some false)

@[simp] theorem true_and (t : Truth) : and (some true) t = t := rfl

@[simp] theorem false_and (t : Truth) : and (some false) t = some false := rfl

@[simp] theorem and_false (t : Truth) : and t (some false) = some false := by
  rcases t with _ | _ | _ <;> rfl

theorem and_assoc (s t u : Truth) : and (and s t) u = and s (and t u) := by
  rcases s with _ | _ | _ <;> rcases t with _ | _ | _ <;> rcases u with _ | _ | _ <;> rfl

theorem all_append (truths more : List Truth) :
    all (truths ++ more) = and (all truths) (all more) := by
  induction truths with
  | nil => rfl
  | cons t rest ih =>
    have step : all (t :: (rest ++ more)) = and t (all (rest ++ more)) := rfl
    rw [List.cons_append, step, ih, ← and_assoc]
    rfl

/-- What is false makes the conjunction false, whatever is unknown. -/
theorem all_of_false {truths : List Truth} (h : some false ∈ truths) : all truths = some false := by
  obtain ⟨before, after, rfl⟩ := List.append_of_mem h
  rw [all_append]
  exact and_false _

end Truth

/-! ## Predicates on a row -/

namespace Predicate

/-- How an engine compares two values that are not null. -/
abbrev Compares : Type := Comparison → Value → Value → Truth

/-- The comparison of a cell with a value, which is unknown if either of them is null. -/
def compared (compares : Compares) (c : Comparison) (cell v : Value) : Truth :=
  if cell.isNull || v.isNull then none else compares c cell v

/-- What a predicate says of a row. -/
def truth (compares : Compares) (row : String → Value) : Predicate → Truth
  | .null field negated => some ((row field).isNull != negated)
  | .compare field c v => compared compares c (row field) v
  | .member field negated first rest =>
    let found := Truth.any ((first :: rest).map (compared compares .eq (row field)))
    if negated then found.not else found
  | .between field low high =>
    Truth.and (compared compares .gte (row field) low) (compared compares .lte (row field) high)
  | .never => some false

variable {compares : Compares} {row : String → Value} {field : String}

/-- **A test for null hides the rows with a value**, whatever else is asked. -/
theorem all_truth_marked {predicates : List Predicate} (h : .null field false ∈ predicates)
    (marked : row field ≠ .null) :
    Truth.all (predicates.map (truth compares row)) = some false := by
  have cell : (row field).isNull = false := by
    rw [Bool.eq_false_iff, Ne, Value.isNull_iff]
    exact marked
  have here : truth compares row (.null field false) = some false := by
    rw [truth, cell]
    rfl
  exact Truth.all_of_false (List.mem_map.2 ⟨_, h, here⟩)

/-- **A test for null says nothing of the rows without a value.** -/
theorem all_truth_unmarked (before after : List Predicate) (unmarked : row field = .null) :
    Truth.all ((before ++ .null field false :: after).map (truth compares row))
      = Truth.all ((before ++ after).map (truth compares row)) := by
  have here : truth compares row (.null field false) = some true := by
    rw [truth, unmarked]
    rfl
  rw [List.map_append, List.map_append, List.map_cons, here, Truth.all_append, Truth.all_append]
  rfl

/-! ## Bound values -/

/-- A predicate with its values as they are bound. -/
def bound : Predicate → Predicate
  | .null field negated => .null field negated
  | .compare field c v => .compare field c v.param
  | .member field negated first rest => .member field negated first.param (rest.map Value.param)
  | .between field low high => .between field low.param high.param
  | .never => .never

theorem values_bound (p : Predicate) : p.bound.values = p.values.map Value.param := by
  cases p <;> rfl

theorem OnColumn.bound {p : Predicate} (h : p.OnColumn) : p.bound.OnColumn := by
  cases p <;> exact h

/-- Binding changes no text. -/
theorem sql_bound (p : Predicate) : p.bound.template.sql = p.template.sql := by
  cases p with
  | member field negated first rest =>
    simp only [Predicate.bound, template, Template.sql_append, Template.sql_raw, Template.sql_join,
      List.map_cons, List.map_map, Template.sql_bind]
    rfl
  | _ => rfl

end Predicate

namespace Filter

variable {filter : Filter}

theorem predicates_append (filter more : Filter) :
    Filter.predicates (filter ++ more) = filter.predicates ++ more.predicates :=
  List.map_append

/-- What conditions ask of the bound values. -/
def asked (filter : Filter) : List Predicate :=
  filter.predicates.map Predicate.bound

theorem asked_append (filter more : Filter) :
    Filter.asked (filter ++ more) = filter.asked ++ more.asked := by
  rw [asked, predicates_append, List.map_append]
  rfl

/-- **The text of conditions reads as what they ask**, of the values as they are bound. -/
theorem conjunction?_bound (h : filter ≠ []) (plain : ∀ c ∈ filter, IsColumn c.field) :
    (⟨filter.conjunction.sql, filter.conjunction.params.map Value.param⟩ : Statement).conjunction?
      = some filter.asked := by
  have same : conjunctionSql filter.predicates = conjunctionSql filter.asked := by
    rw [conjunctionSql, conjunctionSql, asked, List.map_map]
    exact congrArg _ (List.map_congr_left fun p _ => p.sql_bound.symm)
  have values : (filter.predicates.flatMap Predicate.values).map Value.param
      = filter.asked.flatMap Predicate.values := by
    rw [asked, List.map_flatMap, List.flatMap_map]
    exact List.flatMap_congr fun p _ => p.values_bound.symm
  rw [sql_conjunction, params_conjunction, same, values]
  refine conjunction?_conjunctionSql (by simpa [asked, predicates] using h) fun p hp => ?_
  obtain ⟨q, hq, rfl⟩ := List.mem_map.1 hp
  exact (onColumn_predicates plain q hq).bound

end Filter

end RecordMapper
