import RecordMapper.Engine.Recorder
import RecordMapper.Proofs.Bulk.Operations
import RecordMapper.Proofs.Sql.Vocabulary

/-!
# Sessions

Operations of a model without hooks one after another, and the statements that they put to the
engine.

* `Model.puts_upsert`, `Model.puts_batchInsert` and their kind: the operations that catch failures
  compose their statements over declared columns as well.
* `Turn` are all operations on records, with their arguments; `Model.session` runs them one after
  another.
* `sessions_name_only_declared`: no statement of a session names anything but the table, declared
  columns and plain aliases.
-/

namespace RecordMapper

namespace Model

variable {σ : Type} {m : Model σ}

open Call

/-! ## Upserts -/

theorem puts_applyUpdate (hm : m.hooks = {}) (found update : Record) :
    m.Puts m.Composes (m.applyUpdate found update) := by
  unfold applyUpdate
  split
  · exact (Straight.lift (.error _)).puts
  · dsimp only
    split
    · exact (Straight.pure _).puts
    · refine (straight_updateById hm _ _).puts.bind fun row => ?_
      cases row with
      | none => exact (Straight.lift (.error _)).puts
      | some record => exact (Straight.pure _).puts

theorem puts_createOrElse (hm : m.hooks = {}) (data : Record) (filter : Filter)
    {lost : Record → Call σ UpsertOutcome} (h : ∀ found, m.Puts m.Composes (lost found)) :
    m.Puts m.Composes (m.createOrElse data filter lost) := by
  refine (straight_create hm data).puts.attempt.bind fun result => ?_
  cases result with
  | ok record => exact (Straight.pure _).puts
  | error e =>
    dsimp only
    split
    · refine (straight_findOne hm _).puts.bind fun row => ?_
      cases row with
      | none => exact (Straight.lift (.error e)).puts
      | some found => exact h found
    · exact (Straight.lift (.error e)).puts

theorem puts_upsert (hm : m.hooks = {}) (request : UpsertRequest) :
    m.Puts m.Composes (m.upsert request) := by
  refine (Straight.lift _).puts.bind fun _ => (straight_findOne hm _).puts.bind fun row => ?_
  cases row with
  | none => exact puts_createOrElse hm _ _ fun found => puts_applyUpdate hm found _
  | some found => exact puts_applyUpdate hm found _

theorem puts_upsertById (hm : m.hooks = {}) (id : Value) (data : Record) :
    m.Puts m.Composes (m.upsertById id data) :=
  (Straight.lift _).puts.bind fun _ => puts_upsert hm _

theorem puts_createIfNotExists (hm : m.hooks = {}) (filter : Filter) (data : Record) :
    m.Puts m.Composes (m.createIfNotExists filter data) := by
  refine (Straight.lift _).puts.bind fun _ => (straight_findOne hm _).puts.bind fun row => ?_
  cases row with
  | none => exact puts_createOrElse hm _ _ fun found => (Straight.pure _).puts
  | some found => exact (Straight.pure _).puts

/-! ## Bulk operations -/

theorem puts_eachItem {P : Statement → Prop} {op : Record → Call σ Success}
    (h : ∀ item, m.Puts P (op item)) (options : BulkOptions) (size : UInt64)
    (items : List Record) : m.Puts P (eachItem options size op items) := by
  refine Puts.foldlM (fun report chunk _ => Puts.foldlM (fun report item _ => ?_) report) _
  refine (h item.2).attempt.bind fun result => ?_
  cases result with
  | ok success => exact (Straight.pure _).puts
  | error e => exact (Straight.lift _).puts

theorem puts_bulkCreate (hm : m.hooks = {}) (items : List Record) (options : BulkOptions) :
    m.Puts m.Composes (m.bulkCreate items options) :=
  puts_eachItem (fun item => ((straight_create hm item).bind fun _ => .pure _).puts) options _ items

theorem puts_bulkUpdate (hm : m.hooks = {}) (items : List Record) (options : BulkOptions) :
    m.Puts m.Composes (m.bulkUpdate items options) :=
  puts_eachItem (fun item => (straight_updateItem hm item).puts) options _ items

theorem puts_bulkUpsert (hm : m.hooks = {}) (items : List Record) (fields : List String)
    (options : BulkOptions) : m.Puts m.Composes (m.bulkUpsert items fields options) :=
  puts_eachItem (fun _ => (puts_upsert hm _).bind fun _ => (Straight.pure _).puts) options _ items

theorem puts_bulkDelete (hm : m.hooks = {}) (ids : List Value) (options : BulkOptions) :
    m.Puts m.Composes (m.bulkDelete ids options) := by
  refine Puts.foldlM (fun report chunk _ => ?_) _
  refine (straight_delete hm _).puts.attempt.bind fun result => ?_
  cases result with
  | ok n => exact (Straight.pure _).puts
  | error e => exact (Straight.lift _).puts

/-! ## Batches -/

/-- Rows all of whose columns are declared. -/
def Ready (m : Model σ) (rows : List (Nat × Record)) : Prop :=
  ∀ row ∈ rows, ∀ name ∈ row.2.fields, m.schema.hasField name = true

/-- **Rows that pass validation** have declared columns. -/
theorem follows_ready (m : Model σ) {options : BulkOptions} (checks : options.validate = true)
    (items : List (Nat × Record)) :
    ∀ state w, m.Ready state.2 →
      m.Follows (items.foldlM (m.prepareRow options) state) w fun xs result =>
        xs = [] ∧ ∀ prepared, result = .ok prepared → m.Ready prepared.2 := by
  induction items with
  | nil => exact fun state w ready => .pure ⟨rfl, fun prepared h => Except.ok.inj h ▸ ready⟩
  | cons item rest ih =>
    intro (report, rows) w ready
    rw [List.foldlM_cons]
    simp only [prepareRow, bind_assoc, checks, if_true]
    refine .prepareInsert_bind ?_
    generalize (m.schema.complete w.now item.2 w.draws).1 = row
    cases valid : m.schema.validate .create row with
    | ok _ =>
      refine ih _ _ fun added member => ?_
      rcases List.mem_append.1 member with before | last
      · exact ready added before
      · rw [List.mem_singleton.1 last, Schema.fields_encode]
        exact fun name hn => Schema.hasField_of_validate valid hn
    | error e =>
      simp only [bind_assoc, pure_bind]
      refine .lift_bind (fun _ _ => ⟨rfl, fun prepared h => by cases h⟩) fun report' _ => ?_
      exact ih (report', rows) _ ready

theorem composes_batch {columns : List String}
    (h : ∀ name ∈ columns, m.schema.hasField name = true) (rows : List Record) :
    ∀ s ∈ m.batchStatements columns rows, m.Composes s.wire := by
  intro s member plain
  unfold batchStatements at member
  split at member
  · rw [List.eq_of_mem_replicate member]
    exact ⟨.insert m.table .empty, _, ⟨rfl, fun name hn => by cases hn⟩, rfl, rfl⟩
  · rw [List.mem_singleton.1 member]
    exact ⟨.insertRows m.table columns rows, _, ⟨rfl, h⟩, rfl, rfl⟩

theorem puts_batchInsert (m : Model σ) (rows : List Record) {options : BulkOptions}
    (checks : options.validate = true) : m.Puts m.Composes (m.batchInsert rows options) := by
  intro w
  unfold batchInsert
  refine (m.follows_ready checks (numbered 0 rows) ({}, []) w (by simp [Ready])).bind ?_ ?_
  · rintro xs e ⟨rfl, -⟩
    simp
  · rintro xs ⟨report, ready⟩ w' ⟨rfl, declared⟩ -
    have columns : ∀ name ∈ columnsOf (ready.map (·.2)), m.schema.hasField name = true := by
      intro name hn
      obtain ⟨row, member, field⟩ := ((columnsOf_lists _).2 name).1 hn
      obtain ⟨numbered, hr, rfl⟩ := List.mem_map.1 member
      exact declared _ rfl numbered hr name field
    refine Puts.bind (Puts.foldlM (fun report chunk _ => ?_) report)
      (fun _ => (Straight.pure _).puts) w'
    refine (Straight.forM fun s hs => ?_).puts.attempt.bind fun result => ?_
    · exact (straight_execute (composes_batch columns _ s hs)).bind fun _ => .pure ()
    · cases result with
      | ok _ => exact (Straight.pure _).puts
      | error e => exact (Straight.lift _).puts

end Model

/-! ## Turns -/

/-- A turn of a session: an operation on records with its arguments. -/
inductive Turn where
  | operation (op : Operation)
  | upsert (request : UpsertRequest)
  | upsertById (id : Value) (data : Record)
  | createIfNotExists (filter : Filter) (data : Record)
  | bulkCreate (items : List Record) (options : BulkOptions)
  | bulkUpdate (items : List Record) (options : BulkOptions)
  | bulkUpsert (items : List Record) (fields : List String) (options : BulkOptions)
  | bulkDelete (ids : List Value) (options : BulkOptions)
  /-- Rows that are checked before they are inserted. -/
  | batchInsert (rows : List Record) (options : BulkOptions) (checks : options.validate = true)

namespace Turn

variable {σ : Type}

/-- The call of a turn; how it ends is kept, but not its result. -/
def run (m : Model σ) : Turn → Call σ Unit
  | .operation op => op.run m
  | .upsert request => Operation.ending (m.upsert request)
  | .upsertById id data => Operation.ending (m.upsertById id data)
  | .createIfNotExists filter data => Operation.ending (m.createIfNotExists filter data)
  | .bulkCreate items options => Operation.ending (m.bulkCreate items options)
  | .bulkUpdate items options => Operation.ending (m.bulkUpdate items options)
  | .bulkUpsert items fields options => Operation.ending (m.bulkUpsert items fields options)
  | .bulkDelete ids options => Operation.ending (m.bulkDelete ids options)
  | .batchInsert rows options _ => Operation.ending (m.batchInsert rows options)

theorem puts_ending {α : Type} {m : Model σ} {P : Statement → Prop} {c : Call σ α}
    (h : m.Puts P c) : m.Puts P (Operation.ending c) :=
  h.bind fun _ => (Model.Straight.pure ()).puts

/-- **Turns compose their statements over declared columns.** -/
theorem puts {m : Model σ} (hm : m.hooks = {}) (turn : Turn) :
    m.Puts m.Composes (turn.run m) := by
  cases turn with
  | operation op => exact op.puts hm
  | upsert request => exact puts_ending (Model.puts_upsert hm request)
  | upsertById id data => exact puts_ending (Model.puts_upsertById hm id data)
  | createIfNotExists filter data => exact puts_ending (Model.puts_createIfNotExists hm filter data)
  | bulkCreate items options => exact puts_ending (Model.puts_bulkCreate hm items options)
  | bulkUpdate items options => exact puts_ending (Model.puts_bulkUpdate hm items options)
  | bulkUpsert items fields options =>
    exact puts_ending (Model.puts_bulkUpsert hm items fields options)
  | bulkDelete ids options => exact puts_ending (Model.puts_bulkDelete hm ids options)
  | batchInsert rows options checks => exact puts_ending (m.puts_batchInsert rows checks)

end Turn

/-- Turns one after another, whether the ones before fail or not. -/
def Model.session {σ : Type} (m : Model σ) (turns : List Turn) : Call σ Unit :=
  turns.forM fun turn => do
    let _ ← Call.attempt (turn.run m)

/-- **Sessions compose their statements over declared columns.** -/
theorem Model.puts_session {σ : Type} {m : Model σ} (hm : m.hooks = {}) (turns : List Turn) :
    m.Puts m.Composes (m.session turns) :=
  Puts.forM fun turn _ => (turn.puts hm).attempt.bind fun _ => (Straight.pure ()).puts

/-! ## What reaches the engine -/

/-- A value of a kind that an engine can bind. -/
def Value.Bindable : Value → Prop
  | .null | .bool _ | .int _ | .float _ | .text _ => True
  | .instant _ | .document _ => False

theorem Value.bindable_param (v : Value) : v.param.Bindable := by
  cases v <;> exact trivial

/-- **Sessions name nothing but what is declared.** On a schema whose table and fields have ASCII
identifiers as names, whatever operations run and whatever the engine answers, each statement that
the engine receives is that of a draft over declared columns: what is selected, compared, assigned,
inserted, grouped and ordered by are declared columns, aggregates of them, and the aliases of
selected aggregates, which are ASCII identifiers as well. Its lexemes are those of the vocabulary,
its parameters are of the kinds that an engine can bind, and there are as many placeholders. -/
theorem sessions_name_only_declared {σ : Type} {m : Model σ} (hm : m.hooks = {}) {table : String}
    {fields : List Field} {options : SchemaOptions}
    (declared : Schema.declare table fields options = .ok m.schema)
    (ht : Aggregate.isIdentifier table = true)
    (hf : ∀ f ∈ fields, Aggregate.isIdentifier f.name = true)
    (turns : List Turn) (w : World σ) :
    ∀ s ∈ (m.session turns).issued w, ∃ d t, Draft.Declared m.schema d ∧ d.template = .ok t ∧
      s = t.statement.wire ∧ (∀ lexeme ∈ Lexeme.tokens s.sql, d.Vocabulary m.schema lexeme) ∧
      (∀ v ∈ s.params, v.Bindable) ∧ placeholders s.sql = s.params.length := by
  intro s hs
  have plain := Schema.plain_of_declare declared ht hf
  obtain ⟨d, t, drafted, written, rfl⟩ := (Model.puts_session hm turns).issued w s hs plain
  refine ⟨d, t, drafted, written, rfl, Draft.uses_vocabulary plain drafted written,
    fun v hv => ?_, ?_⟩
  · obtain ⟨given, -, rfl⟩ := List.mem_map.1 hv
    exact given.bindable_param
  · have equal := Draft.placeholders_of_declared plain drafted written
    simpa [Statement.wire, Template.statement] using equal

/-- A table of parcels that keeps deleted rows, whose engine answers everything with no rows. -/
def parcels : Model (Recorder Unit) where
  schema := ⟨"parcels", [.id "id", { name := "weight", kind := .number },
    { name := "deleted_at", kind := .date }], { softDelete := true }, 0⟩
  engine := Recorder.engine .silent

/-- A world in which nothing has happened to the parcels. -/
def parcelsWorld : World (Recorder Unit) where
  engine := { inner := () }
  now := default

/-- A selection that is refused, and the total weights of the heavy parcels by their weight. -/
def weighing : List Turn :=
  [.operation (.findAll { select := ["weight FROM parcels; --"] }),
    .operation (.aggregate [⟨.sum, "weight", "total"⟩]
      { filter := [.ofValue "weight" (.compare .gt) (.int 3)], groupBy := ["weight"]
        order := [⟨"total", .desc⟩] })]

/-- The statement of the weighing. -/
def weighingSql : String :=
  "SELECT weight, SUM(weight) AS total FROM parcels WHERE weight > ? AND deleted_at IS NULL"
    ++ " GROUP BY weight ORDER BY total DESC"

theorem weighing_names_only_declared :
    ∃ s ∈ (parcels.session weighing).issued parcelsWorld, s.sql = weighingSql ∧
      (∀ v ∈ s.params, v.Bindable) ∧ placeholders s.sql = s.params.length := by
  have issued : (parcels.session weighing).issued parcelsWorld = [⟨weighingSql, [.int 3]⟩] := by
    decide +kernel
  have declared : Schema.declare "parcels" [.id "id", { name := "weight", kind := .number }]
      { softDelete := true } = .ok parcels.schema := rfl
  have named := sessions_name_only_declared rfl declared (by decide) (by decide) weighing
    parcelsWorld
  rw [issued] at named ⊢
  obtain ⟨-, -, -, -, -, -, bindable, counted⟩ := named _ List.mem_cons_self
  exact ⟨_, List.mem_cons_self, rfl, bindable, counted⟩

end RecordMapper
