import RecordMapper.Proofs.Aggregate.Asking
import RecordMapper.Proofs.Binary64.Rounding
import RecordMapper.Proofs.Model.Columns
import RecordMapper.Proofs.Model.Pages
import RecordMapper.Proofs.Sql.Plain
import RecordMapper.Proofs.Storage

/-!
# Percentiles

A percentile is asked for by two statements: one counts the values, the other one fetches that of
the nearest rank.

* `Binary64.IsPercentage` are the admitted numbers, by their exact values.
* `Model.valued` is the query of the counted rows, and `Model.ranked` that of the row of a rank.
  `Model.Ranks` compares them where the name of the field is the ordering by it: they are under one
  condition, and the second one lands on a counted row, whatever is rounded on the way to the rank.
* `Model.Percentiled` is what is said for a percentile and how that ends, and
  `Model.follows_percentile` that this is so for any answers of an engine.
* `percentile_lands_on_counted_row` puts this together.
-/

namespace RecordMapper

/-! ## Numbers from 0 to 100 -/

namespace Binary64

/-- A number from 0 to 100. -/
def IsPercentage (p : Binary64) : Prop :=
  ∃ x : Finite, p = .finite x ∧ 0 ≤ x.signedUnits ∧ x.signedUnits ≤ 100 * unitsPerOne

theorem atMost_finite {x y : Finite} :
    (Binary64.finite x).atMost (.finite y) = true ↔ x.signedUnits ≤ y.signedUnits := by
  rw [Finite.signedUnits_le]
  simp only [atMost, less, same, Bool.or_eq_true, decide_eq_true_eq, beq_iff_eq]
  omega

/-- A small natural number is its own value. -/
theorem exists_ofNat {n : Nat} (small : n ≤ 2 ^ 53) :
    ∃ x, Binary64.ofNat n = .finite x ∧ x.signedUnits = n * unitsPerOne := by
  obtain ⟨x, rounded, exact⟩ := rounds_ofInt (n := n) (by omega)
  exact ⟨x, rounded, exact.exact small⟩

/-- **A number passes the test of the range** exactly if it is from 0 to 100; NaN and the infinities
are not. -/
theorem inRange_iff {p : Binary64} :
    ((Binary64.ofNat 0).atMost p && p.atMost (.ofNat 100)) = true ↔ p.IsPercentage := by
  obtain ⟨zero, hzero, least⟩ := exists_ofNat (n := 0) (by decide)
  obtain ⟨hundred, hhundred, most⟩ := exists_ofNat (n := 100) (by decide)
  rw [hzero, hhundred, Bool.and_eq_true]
  cases p with
  | nan => exact iff_of_false (fun h => nomatch h.1) fun ⟨_, h, _⟩ => nomatch h
  | infinite negative =>
    refine iff_of_false (fun h => ?_) fun ⟨_, h, _⟩ => nomatch h
    cases negative with
    | false => exact nomatch h.2
    | true => exact nomatch h.1
  | finite x =>
    rw [atMost_finite, atMost_finite, least, most, Nat.cast_zero, Int.zero_mul]
    constructor
    · rintro ⟨low, high⟩
      exact ⟨x, rfl, low, high⟩
    · rintro ⟨y, same, low, high⟩
      cases same
      exact ⟨low, high⟩

end Binary64

namespace Model

variable {σ : Type} {m : Model σ} {field : String} {p : Binary64} {filter : Filter}
  {total : UInt64} {w : World σ}

/-! ## Ranks -/

/-- A rank is moved into the range of places. -/
theorem percentileRank_bounds (p : Binary64) (some : total ≠ 0) :
    1 ≤ (percentileRank p total).toNat ∧ (percentileRank p total).toNat ≤ total.toNat := by
  have one : (1 : UInt64).toNat = 1 := rfl
  have positive : total.toNat ≠ 0 := fun none => some (UInt64.toNat_inj.1 none)
  unfold percentileRank
  -- Nothing has to be known of what the divisions and roundings make of the number.
  generalize ((p.div (.ofNat 100)).mul (.ofNat total.toNat)).ceilCount = rank
  simp only [UInt64.lt_iff_toNat_lt]
  split
  · omega
  · split <;> omega

theorem offset_of_percentileRank (p : Binary64) (some : total ≠ 0) :
    (percentileRank p total - 1).toNat < total.toNat := by
  have one : (1 : UInt64).toNat = 1 := rfl
  obtain ⟨first, last⟩ := percentileRank_bounds p some
  rw [UInt64.toNat_sub_of_le _ _ (UInt64.le_iff_toNat_le.2 (one ▸ first))]
  omega

/-! ## Queries -/

/-- The query of the rows of a filter that have a value. -/
def valued (m : Model σ) (field : String) (filter : Filter) : Query :=
  (m.rowsOf filter).addCondition (.isNotNull field)

/-- The query of the row of a percentile among a number of values. -/
def ranked (m : Model σ) (field : String) (p : Binary64) (filter : Filter) (total : UInt64) :
    Query :=
  { (m.valued field filter).addOrders (Order.byField field) with
    select := [field], limit := some 1, offset := some (percentileRank p total - 1) }

/-- The condition of a percentile. -/
def valuedRows (m : Model σ) (field : String) (filter : Filter) : Filter :=
  filter ++ m.alive false ++ [.isNotNull field]

/-- The two statements of a percentile among a number of values. -/
structure Ranks (m : Model σ) (field : String) (p : Binary64) (filter : Filter)
    (total : UInt64) : Prop where
  /-- The rows with a value are counted. -/
  counted : (m.valued field filter).count.statement =
    ⟨"SELECT COUNT(*) AS count FROM " ++ m.table ++ (m.valuedRows field filter).whereSql,
      (m.valuedRows field filter).conjunction.params⟩
  /-- One row is fetched, of the same rows in ascending order. -/
  fetched : (m.ranked field p filter total).find.statement =
    ⟨"SELECT " ++ field ++ " FROM " ++ m.table ++ (m.valuedRows field filter).whereSql
        ++ " ORDER BY " ++ field ++ " ASC LIMIT 1 OFFSET "
        ++ toString (percentileRank p total - 1).toNat,
      (m.valuedRows field filter).conjunction.params⟩
  /-- There are more rows than are passed over. -/
  offset : (percentileRank p total - 1).toNat < total.toNat
  /-- One of the counted rows is in the window, in whatever order they are. -/
  lands : ∀ {α : Type} (rows : List α), rows.length = total.toNat →
    ∃ row ∈ rows, (m.ranked field p filter total).window rows = [row]

/-- **The two statements of a percentile** where the name of the field is the ordering by it. -/
theorem ranks (p : Binary64) (filter : Filter) (bare : Order.byField field = [⟨field, .asc⟩])
    (some : total ≠ 0) : m.Ranks field p filter total where
  counted := Query.count_single rfl rfl rfl
  fetched := by
    have window : (m.ranked field p filter total).windowSql
        = " LIMIT 1 OFFSET " ++ toString (percentileRank p total - 1).toNat := rfl
    have clauses : (m.ranked field p filter total).trailer
        = " ORDER BY " ++ field ++ " ASC LIMIT 1 OFFSET "
          ++ toString (percentileRank p total - 1).toNat := by
      have words : " ASC LIMIT 1 OFFSET " = " ASC" ++ " LIMIT 1 OFFSET " := rfl
      rw [Query.trailer, Query.orderSql_single bare, window, words]
      simp only [String.append_assoc]
      exact String.empty_append
    rw [Query.find_single rfl rfl String.empty_append, clauses]
    simp only [String.append_assoc]
    rfl
  offset := offset_of_percentileRank p some
  lands rows counted := by
    have inside : (percentileRank p total - 1).toNat < rows.length :=
      counted ▸ offset_of_percentileRank p some
    refine ⟨rows[(percentileRank p total - 1).toNat], List.getElem_mem inside, ?_⟩
    have window : (m.ranked field p filter total).window rows
        = (rows.drop (percentileRank p total - 1).toNat).take 1 := rfl
    rw [window, List.drop_eq_getElem_cons inside]
    rfl

/-! ## The conversation -/

/-- A percentile is asked for as it may be. -/
structure Percentile (m : Model σ) (field : String) (p : Binary64) (filter : Filter) : Prop where
  /-- It is one from 0 to 100. -/
  admitted : p.IsPercentage
  /-- It is one of a field. -/
  declared : m.schema.hasField field = true
  /-- The filter is on fields. -/
  filters : m.Filters filter

/-- What is said for a percentile, and how that ends. -/
inductive Percentiled (m : Model σ) (field : String) (p : Binary64) (filter : Filter) :
    Conversation → Except Error (Option Value) → Prop
  /-- It is refused for an argument. -/
  | refused {e : Error} (argument : e.IsArgument) (wrong : ¬ m.Percentile field p filter) :
    Percentiled m field p filter [] (.error e)
  /-- The values cannot be counted. -/
  | uncounted (asked : m.Percentile field p filter) (r : Rejection) :
    Percentiled m field p filter [((m.valued field filter).count.statement.wire, .error r)]
      (.error (m.failure (m.valued field filter).count.statement.wire r))
  /-- What the engine reports is no number of values. -/
  | unread {reply : Reply} {e : Error} (asked : m.Percentile field p filter)
      (h : reply.total = .error e) :
    Percentiled m field p filter [((m.valued field filter).count.statement.wire, .ok reply)]
      (.error e)
  /-- There are no values. -/
  | nothing {reply : Reply} (asked : m.Percentile field p filter) (h : reply.total = .ok 0) :
    Percentiled m field p filter [((m.valued field filter).count.statement.wire, .ok reply)]
      (.ok none)
  /-- The row of the rank cannot be fetched. -/
  | unfound {reply : Reply} {total : UInt64} (asked : m.Percentile field p filter)
      (h : reply.total = .ok total) (some : total ≠ 0) (r : Rejection) :
    Percentiled m field p filter
      [((m.valued field filter).count.statement.wire, .ok reply),
        ((m.ranked field p filter total).find.statement.wire, .error r)]
      (.error (m.failure (m.ranked field p filter total).find.statement.wire r))
  /-- The row of the rank is fetched. -/
  | found {reply : Reply} {total : UInt64} (asked : m.Percentile field p filter)
      (h : reply.total = .ok total) (some : total ≠ 0) (found : Reply) :
    Percentiled m field p filter
      [((m.valued field filter).count.statement.wire, .ok reply),
        ((m.ranked field p filter total).find.statement.wire, .ok found)]
      (.ok (found.rows.head?.bind fun row => (m.schema.hydrate row).get? field))

/-- **A percentile is counted and then fetched**, by two statements. -/
theorem follows_percentile (m : Model σ) (field : String) (p : Binary64) (filter : Filter)
    (w : World σ) : m.Follows (m.percentile field p filter) w (m.Percentiled field p filter) := by
  unfold percentile
  split
  · next outside =>
    refine .throw (.refused ⟨_, rfl⟩ fun asked => ?_)
    rw [Binary64.inRange_iff.2 asked.admitted] at outside
    cases outside
  next inside =>
  have admitted : p.IsPercentage := Binary64.inRange_iff.1 (by simpa using inside)
  dsimp only
  refine .rows_bind checkValues_eq_ok (fun e => checkAggregate_error)
    (fun e argument wrong => ?_) fun declared filters => ?_
  · exact .refused argument fun asked => wrong ⟨asked.declared, asked.filters⟩
  have asked : m.Percentile field p filter := ⟨admitted, declared, filters⟩
  rw [fetchCount_bind]
  refine .execute_bind (fun r => .uncounted asked r) fun reply w₁ _ _ => ?_
  refine .lift_bind (fun e h => .unread asked h) fun total h => ?_
  split
  · next none =>
    subst none
    exact .pure (.nothing asked h)
  next some =>
  simp only [fetch, bind_assoc, pure_bind]
  refine .execute_bind (fun r => .unfound asked h some r) fun found w₂ _ _ => ?_
  refine .pure ?_
  have first : (found.rows.map m.schema.hydrate).head?.bind (fun row => row.get? field)
      = found.rows.head?.bind fun row => (m.schema.hydrate row).get? field := by
    rw [List.head?_map, Option.bind_map]
    rfl
  rw [first]
  exact .found asked h some found

/-! ## What is given -/

/-- A percentile has no value: no value is counted, or the fetched row is missing or lacks the
field. -/
inductive Missed (field : String) : Conversation → Prop
  /-- No value is counted. -/
  | uncounted {s : Statement} {reply : Reply} (none : reply.total = .ok 0) :
    Missed field [(s, .ok reply)]
  /-- No row is fetched. -/
  | missing {s t : Statement} {reply found : Reply} (none : found.rows = []) :
    Missed field [(s, .ok reply), (t, .ok found)]
  /-- The first row lacks the field. -/
  | lacking {s t : Statement} {reply found : Reply} {row : Record}
      (first : found.rows.head? = some row) (none : row.get? field = none) :
    Missed field [(s, .ok reply), (t, .ok found)]

/-- **A percentile that is given** has no value exactly if it was missed. -/
theorem Percentiled.eq_none_iff {xs : Conversation} {value : Option Value}
    (h : m.Percentiled field p filter xs (.ok value)) : value = none ↔ Missed field xs := by
  cases h with
  | nothing asked h => exact iff_of_true rfl (.uncounted h)
  | found asked h some found =>
    constructor
    · intro lost
      rcases first : found.rows.head? with _ | row
      · exact .missing (List.head?_eq_none_iff.1 first)
      · rw [first] at lost
        exact .lacking first (Schema.get?_hydrate_eq_none.1 lost)
    · intro missed
      cases missed with
      | missing none => rw [none]; rfl
      | lacking first none =>
        rw [first]
        exact Schema.get?_hydrate_eq_none.2 none

end Model

/-- **A percentile lands on a counted row.** Take any table whose columns have plain names, any
column, number and filter, and any answers of an engine. A percentile that is no number from 0 to
100, or that is asked for of an unknown column, is refused before anything is said. Any other one is
counted, and if there are values it is fetched, by one statement with the condition and the
parameters of the first one, in ascending order and with fewer rows passed over than were counted:
where the table did not change, the fetched row is one of these. It has no value exactly if none was
counted, or if the fetched row is missing or lacks the field. -/
theorem percentile_lands_on_counted_row {σ : Type} (m : Model σ)
    (plain : ∀ f ∈ m.schema.fields, Aggregate.isIdentifier f.name = true) (field : String)
    (p : Binary64) (filter : Filter) (w : World σ) :
    m.Follows (m.percentile field p filter) w (fun xs result =>
      m.Percentiled field p filter xs result ∧
        ∀ value, result = .ok value → (value = none ↔ Model.Missed field xs)) ∧
    (m.Percentile field p filter → ∀ total, total ≠ 0 → m.Ranks field p filter total) := by
  refine ⟨(m.follows_percentile field p filter w).mono fun xs result said => ⟨said, ?_⟩,
    fun asked total some => ?_⟩
  · rintro value rfl
    exact said.eq_none_iff
  · obtain ⟨f, declared, rfl⟩ := Schema.mem_of_hasField asked.declared
    exact Model.ranks p filter (Order.byField_of_isIdentifier (plain f declared)) some

/-! ### Four grades -/

/-- A table of grades, of which four have a score. -/
def grades : Model Unit where
  schema := ⟨"grades", [.id "id", { name := "score", kind := .number }], {}, 0⟩
  engine s state :=
    if s.sql = "SELECT COUNT(*) AS count FROM grades WHERE score IS NOT NULL" then
      (.ok { rows := [.ofEntries [("count", .int 4)]] }, state)
    else (.ok { rows := [.ofEntries [("score", .int 3)]] }, state)

/-- The 60th percentile of four scores is the third one. -/
theorem grades_ranked :
    (∀ f ∈ grades.schema.fields, Aggregate.isIdentifier f.name = true) ∧
    grades.Ranks "score" (.ofNat 60) [] 4 ∧ Model.percentileRank (.ofNat 60) 4 = 3 ∧
    grades.Follows (grades.percentile "score" .nan []) ⟨(), default, [], []⟩ fun xs result =>
      xs = [] ∧ ∃ e : Error, result = .error e ∧ e.IsArgument := by
  have plain : ∀ f ∈ grades.schema.fields, Aggregate.isIdentifier f.name = true := by decide
  have sixty : (Binary64.ofNat 60).IsPercentage := Binary64.inRange_iff.1 (by decide +kernel)
  have asked : grades.Percentile "score" (.ofNat 60) [] := ⟨sixty, rfl, fun c hc => nomatch hc⟩
  obtain ⟨-, lands⟩ := percentile_lands_on_counted_row grades plain "score" (.ofNat 60) []
    ⟨(), default, [], []⟩
  obtain ⟨refuses, -⟩ := percentile_lands_on_counted_row grades plain "score" .nan []
    ⟨(), default, [], []⟩
  refine ⟨plain, lands asked 4 (by decide), by decide +kernel,
    refuses.mono fun xs result said => ?_⟩
  cases said.1 with
  | refused argument _ => exact ⟨rfl, _, rfl, argument⟩
  | _ asked => exact absurd asked.admitted fun ⟨_, h, _⟩ => nomatch h

end RecordMapper
