import RecordMapper.Proofs.Aggregate.Asking
import RecordMapper.Proofs.Document.Texts
import RecordMapper.Proofs.Storage

/-!
# What aggregates report

The rows of an aggregate are read as rows of the table are: a value is read as that of the field
that has the name of its column, although it is none of this field.

* `Kind.Converts` are the values that a kind reads as other ones: numbers for truth values, and the
  texts of documents. `Schema.readUnder_eq_self_iff` says when a value that is read under a name
  stays as it is.
* `Model.Yields` is what is said for one aggregate, and that what is given is read from the value
  under the alias. `Model.yields_read` proves it of everything that reads on from one aggregate.
* `aggregates_are_read_as_fields` puts this together. `switches_are_misread` is a table where the
  alias is the name of a truth value.
-/

namespace RecordMapper

/-! ## Values under names -/

namespace Kind

/-- A value that a kind reads as another one. -/
inductive Converts : Kind → Value → Prop
  /-- A number is read as a truth value. -/
  | truth (n : Int64) : Converts .boolean (.int n)
  /-- The text of a document is read as the document. -/
  | document {t : String} {d : Document} (h : Document.ofText? t = some d) :
    Converts .json (.text t)

/-- The text of a document is not the document, not even of a text. -/
theorem ofDocument_ne_text {t : String} {d : Document} (h : Document.ofText? t = some d) :
    Value.ofDocument d ≠ .text t := by
  cases d with
  | text u =>
    rintro ⟨⟩
    exact Document.ofText?_ne_text t h
  | number n =>
    cases n with
    | whole n =>
      rw [Value.ofDocument]
      split <;> nofun
    | float x => nofun
  | _ => nofun

/-- A value stays as it is exactly if it is not read as another one. -/
theorem hydrate_eq_self_iff {kind : Kind} {v : Value} :
    kind.hydrate v = v ↔ ¬ kind.Converts v := by
  unfold hydrate
  split
  · next n => exact iff_of_false nofun fun none => none (.truth n)
  · next t =>
    split
    · next d read => exact iff_of_false (ofDocument_ne_text read) fun none => none (.document read)
    · next unread =>
      refine iff_of_true rfl fun converts => ?_
      cases converts with
      | document read => rw [read] at unread; cases unread
  · next other text =>
    refine iff_of_true rfl fun converts => ?_
    cases converts with
    | truth n => exact other n rfl rfl
    | document read => exact text _ rfl rfl

/-- Only truth values and documents have values that are read as others. -/
theorem exists_converts {kind : Kind} :
    (∃ v, kind.Converts v) ↔ kind = .boolean ∨ kind = .json := by
  constructor
  · rintro ⟨v, converts⟩
    cases converts with
    | truth => exact .inl rfl
    | document => exact .inr rfl
  · rintro (rfl | rfl)
    · exact ⟨_, .truth 0⟩
    · have null : Document.ofText? "null" = some .null := by decide
      exact ⟨_, .document null⟩

end Kind

namespace Schema

variable {s : Schema} {name : String} {v : Value}

/-- **A value is read as itself** under a name exactly if no field of the name reads it as another
one. -/
theorem readUnder_eq_self_iff : s.readUnder name v = v ↔
    ∀ f, s.field? name = some f → ¬ f.kind.Converts v := by
  unfold readUnder
  rcases s.field? name with _ | f
  · exact iff_of_true rfl fun f none => by cases none
  · simp only [Kind.hydrate_eq_self_iff, Option.some.injEq, forall_eq']

/-- The value of an aggregate: what the first row has under the alias, as it is read, or null. -/
def reported (s : Schema) (rows : List Record) : Value :=
  ((rows.head?.bind (·.get? "value")).map (s.readUnder "value")).getD .null

theorem reported_eq (s : Schema) (rows : List Record) :
    ((rows.map s.hydrate).head?.bind (·.get? "value")).getD .null = s.reported rows := by
  have first : (rows.map s.hydrate).head?.bind (·.get? "value")
      = (rows.head?.bind (·.get? "value")).map (s.readUnder "value") := by
    rw [List.head?_map, Option.bind_map, Option.map_bind]
    exact congrArg rows.head?.bind (funext fun row => s.get?_hydrate_row row "value")
  rw [reported, first]

end Schema

/-! ## One aggregate -/

/-- A count, where null is none. -/
def Value.countOrZero (v : Value) : Except Error UInt64 :=
  if v.isNull then .ok 0 else v.toCount

namespace Model

variable {σ α : Type}

/-- A call asks for one aggregate over the rows of a filter, and gives what is read of the value
that is reported. -/
def Yields (m : Model σ) (c : Call σ α) (function : AggregateFunction) (field : String)
    (filter : Filter) (read : Value → Except Error α) : Prop :=
  ∀ w, m.Follows c w (m.Fetched (m.Measures function field ∧ m.Filters filter)
    (m.measure function field filter) fun rows => read (m.schema.reported rows))

/-- **One aggregate is reported.** -/
theorem yields_aggregateValue (m : Model σ) (function : AggregateFunction) (field : String)
    (filter : Filter) :
    m.Yields (m.aggregateValue function field filter) function field filter .ok := by
  intro w
  simpa only [Schema.reported_eq] using m.follows_aggregateValue function field filter w

/-- **What is read from one aggregate** is read from the value that is reported. -/
theorem yields_read (m : Model σ) (function : AggregateFunction) (field : String)
    (filter : Filter) (read : Value → Except Error α) :
    m.Yields (m.aggregateValue function field filter >>= fun v => Call.lift (read v)) function
      field filter read :=
  fun w => (m.yields_aggregateValue function field filter w).fetched_bind read

theorem yields_countAggregate (m : Model σ) (function : AggregateFunction) (field : String)
    (filter : Filter) :
    m.Yields (m.countAggregate function field filter) function field filter
      Value.countOrZero := by
  have whole : m.countAggregate function field filter
      = m.aggregateValue function field filter >>= fun v => Call.lift v.countOrZero := by
    refine bind_congr fun v => ?_
    unfold Value.countOrZero
    split <;> rfl
  rw [whole]
  exact m.yields_read function field filter _

end Model

/-- **Aggregates are read as fields.** Take any table, any column and filter, and any answers of an
engine. One aggregate is asked for under the alias `value`, and is what the first row has under it;
counts, sums, means and extremes are read from there, and several aggregates are the values of the
rows under their aliases. All these are read under their names: they are given as they are exactly
if no field of the alias reads them as other values. This is so of all values exactly if the alias
is neither the name of a truth value nor that of a document. -/
theorem aggregates_are_read_as_fields {σ : Type} (m : Model σ) (field : String)
    (filter : Filter) :
    (∀ function,
      m.Yields (m.aggregateValue function field filter) function field filter .ok) ∧
    m.Yields (m.countValues field filter) .count field filter Value.countOrZero ∧
    m.Yields (m.countDistinct field filter) .countDistinct field filter Value.countOrZero ∧
    m.Yields (m.sum field filter) .sum field filter (fun v => .ok v.asFloat?) ∧
    m.Yields (m.avg field filter) .avg field filter (fun v => .ok v.asFloat?) ∧
    m.Yields (m.min field filter) .min field filter (fun v => .ok v.nonNull?) ∧
    m.Yields (m.max field filter) .max field filter (fun v => .ok v.nonNull?) ∧
    (∀ aggregates options w, m.Follows (m.aggregate aggregates options) w
      (m.Fetched (m.Tabulates aggregates options ∧ m.Filters options.filter)
        (m.tabulation aggregates options) fun rows => .ok (rows.map m.schema.hydrate))) ∧
    (∀ row name, (m.schema.hydrate row).get? name
      = (row.get? name).map (m.schema.readUnder name)) ∧
    (∀ name v, m.schema.readUnder name v = v ↔
      ∀ f, m.schema.field? name = some f → ¬ f.kind.Converts v) ∧
    ∀ name, (∀ v, m.schema.readUnder name v = v) ↔
      ∀ f, m.schema.field? name = some f → ¬ (f.kind = .boolean ∨ f.kind = .json) := by
  refine ⟨fun function => m.yields_aggregateValue function field filter,
    m.yields_countAggregate .count field filter,
    m.yields_countAggregate .countDistinct field filter,
    m.yields_read .sum field filter fun v => .ok v.asFloat?,
    m.yields_read .avg field filter fun v => .ok v.asFloat?,
    m.yields_read .min field filter fun v => .ok v.nonNull?,
    m.yields_read .max field filter fun v => .ok v.nonNull?,
    m.follows_aggregate, m.schema.get?_hydrate_row, fun name v => Schema.readUnder_eq_self_iff,
    fun name => ?_⟩
  simp only [Schema.readUnder_eq_self_iff, ← Kind.exists_converts, not_exists]
  exact ⟨fun plain f hf v => plain v f hf, fun plain v f hf => plain f hf v⟩

/-! ### Truth values -/

/-- A table of switches, whose state has the name of the alias. Its engine reports three rows. -/
def switches : Model Unit where
  schema := ⟨"switches", [.id "id", { name := "value", kind := .boolean }], {}, ⟨0, by decide⟩⟩
  engine _ state := (.ok { rows := [.ofEntries [("value", .int 3)]] }, state)

/-- **Switches are misread**: the number that the engine reports is given as a truth value, a count
is refused, and there is no sum. -/
theorem switches_are_misread :
    Schema.declare "switches" switches.schema.fields {} = .ok switches.schema ∧
      ((switches.aggregateValue .count "id" []).outcome ⟨(), default, [], []⟩).1
        = .ok (.bool true) ∧
      ((switches.countValues "id" []).outcome ⟨(), default, [], []⟩).1
        = .error (.conversion (.mismatch "Int" (.bool true))) ∧
      ((switches.sum "id" []).outcome ⟨(), default, [], []⟩).1 = .ok none :=
  ⟨rfl, by decide +kernel, by decide +kernel, by decide +kernel⟩

end RecordMapper
