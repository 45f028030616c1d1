import RecordMapper.Engine.Recorder
import RecordMapper.Proofs.Bulk.Operations
import RecordMapper.Proofs.Model.Creations
import RecordMapper.Proofs.Model.Runs
import RecordMapper.Proofs.Sql.Alike
import RecordMapper.Proofs.Upsert.Statements

/-!
# Batches of rows

Inserting rows in batches binds what creating them one after another binds, padded with null where
a row lacks a column that another row has.

* `chunksOf_flatMap`: pieces of one length that are put together come apart again.
* `Model.outcome_prepareRows`: every row is ready or refused, and the refused ones are listed.
* `Model.runs_insertChunks`: an engine that accepts every statement is sent one for each chunk.
* `batch_agrees_with_creation` compares the parameters of these statements with those of creations.
-/

namespace RecordMapper

/-! ## Pieces of a list -/

theorem chunksOf_append {α : Type} {size : Nat} {piece : List α} (h : piece.length = size + 1)
    (rest : List α) : chunksOf size (piece ++ rest) = piece :: chunksOf size rest := by
  match piece, h with
  | x :: more, h =>
    have full : more.length = size := by simpa using h
    rw [List.cons_append, chunksOf, ← full, List.take_left, List.drop_left]

/-- Pieces of one length that are put together come apart again. -/
theorem chunksOf_flatMap {α β : Type} {size : Nat} {piece : β → List α} (items : List β)
    (h : ∀ item, (piece item).length = size + 1) :
    chunksOf size (items.flatMap piece) = items.map piece := by
  induction items with
  | nil => simp [chunksOf]
  | cons item rest ih =>
    rw [List.flatMap_cons, chunksOf_append (h item), ih, List.map_cons]

/-! ## Bound rows -/

namespace Insert

theorem rowValues_bound (columns : List String) (row : Record) :
    rowValues columns row.bound = (rowValues columns row).map Value.param := by
  rw [rowValues, rowValues, List.map_map]
  refine List.map_congr_left fun column _ => ?_
  rw [Function.comp_apply, Record.bound, Record.get?_mapValues]
  cases row.get? column <;> rfl

theorem params_many (table : String) (columns : List String) (rows : List Record) :
    (many table columns rows).params = rows.flatMap (rowValues columns) := by
  have tuples : ∀ row, (tuple (rowValues columns row)).params = rowValues columns row := by
    intro row
    simp only [tuple, Template.params_append, Template.params_raw, Template.params_join,
      Template.flatMap_params_bind, List.nil_append, List.append_nil]
  simp only [many, Template.params_append, Template.params_raw, Template.params_join,
    List.nil_append, List.flatMap_map, tuples]

/-- The parameters of a statement are one tuple for each row. -/
theorem chunksOf_params_many {columns : List String} (present : columns ≠ []) (table : String)
    (rows : List Record) :
    chunksOf (columns.length - 1) (many table columns rows).params
      = rows.map (rowValues columns) := by
  rw [params_many]
  apply chunksOf_flatMap
  intro row
  have positive := List.length_pos_of_ne_nil present
  rw [rowValues, List.length_map]
  omega

/-- Rows are put to the engine as they are bound. -/
theorem wire_many (table : String) (columns : List String) (rows : List Record) :
    (many table columns rows).statement.wire
      = (many table columns (rows.map Record.bound)).statement := by
  have lengths : rows.length = (rows.map Record.bound).length := by rw [List.length_map]
  have sql := sql_many table columns lengths
  have params : (many table columns rows).params.map Value.param
      = (many table columns (rows.map Record.bound)).params := by
    rw [params_many, params_many, List.map_flatMap, List.flatMap_map]
    exact congrArg rows.flatMap (funext fun row => (rowValues_bound columns row).symm)
  rw [Statement.wire, Template.statement, Template.statement, sql, params]

theorem params_one (table : String) (r : Record) : (one table r).params = r.entries.map (·.2) := by
  unfold one
  split
  · next empty =>
    have none : r.entries = [] := by simpa [Record.isEmpty] using empty
    rw [none, Template.params_raw, List.map_nil]
  · simp only [tuple, Template.params_append, Template.params_raw, Template.params_join,
      Template.flatMap_params_bind, List.nil_append, List.append_nil]

/-- A record is put to the engine as it is bound. -/
theorem wire_one_bound (table : String) (r : Record) :
    (one table r).statement.wire = (one table r.bound).statement := by
  have sql := sql_one table (Record.fields_mapValues (fun _ v => v.param) r).symm
  have params : (one table r).params.map Value.param = (one table r.bound).params := by
    rw [params_one, params_one, Record.bound, Record.mapValues, List.map_map, List.map_map]
    rfl
  rw [Statement.wire, Template.statement, sql, params]
  rfl

end Insert

namespace Schema

/-! ## Rows that are ready -/

/-- The rows that pass validation, in stored form. -/
def ready (s : Schema) (items : List (Nat × Record)) : List (Nat × Record) :=
  (items.filter fun item => s.Admits item.2).map fun item => (item.1, s.encode item.2)

/-- The failure of a row that does not pass validation. -/
def refusal? (s : Schema) (item : Nat × Record) : Option BulkFailure :=
  match s.validate .create item.2 with
  | .ok _ => none
  | .error e => some ⟨item.1, e.message, some item.2⟩

/-- The failures of the rows that do not pass validation. -/
def refused (s : Schema) (items : List (Nat × Record)) : List BulkFailure :=
  items.filterMap s.refusal?

theorem index_of_refusal {s : Schema} {item : Nat × Record} {f : BulkFailure}
    (h : s.refusal? item = some f) : f.index = item.1 := by
  unfold refusal? at h
  split at h
  · cases h
  · exact (Option.some.inj h) ▸ rfl

theorem refusal?_eq_none {s : Schema} {item : Nat × Record} :
    s.refusal? item = none ↔ s.Admits item.2 := by
  unfold refusal? Admits
  cases s.validate .create item.2 <;> simp

/-- A failure is listed for every row that does not pass validation, and for no other. -/
theorem mem_refused (s : Schema) (rows : List Record) (i : Nat) :
    i ∈ (s.refused (numbered 0 rows)).map (·.index)
      ↔ ∃ row, rows[i]? = some row ∧ ¬ s.Admits row := by
  rw [refused, List.mem_map]
  constructor
  · rintro ⟨f, member, rfl⟩
    obtain ⟨item, there, refusal⟩ := List.mem_filterMap.1 member
    refine ⟨item.2, ?_, fun admitted => ?_⟩
    · rw [index_of_refusal refusal]
      exact mem_numbered.1 there
    · rw [refusal?_eq_none.2 admitted] at refusal
      cases refusal
  · rintro ⟨row, there, refuses⟩
    have fails : s.refusal? (i, row) ≠ none := mt refusal?_eq_none.1 refuses
    obtain ⟨f, refusal⟩ := Option.ne_none_iff_exists'.1 fails
    exact ⟨f, List.mem_filterMap.2 ⟨(i, row), mem_numbered.2 there, refusal⟩,
      index_of_refusal refusal⟩

/-- The failures are listed in the order of the rows. -/
theorem sorted_refused (s : Schema) (place : Nat) (rows : List Record) :
    (s.refused (numbered place rows)).Pairwise (fun a b => a.index ≤ b.index) := by
  have places : ((numbered place rows).map (·.1)).Pairwise (· ≤ ·) := by
    rw [map_fst_numbered]
    exact List.pairwise_le_range'
  rw [List.pairwise_map] at places
  rw [refused, List.pairwise_filterMap]
  refine places.imp fun {a b} le f hf g hg => ?_
  rw [index_of_refusal hf, index_of_refusal hg]
  exact le

theorem ready_cons (s : Schema) (item : Nat × Record) (rest : List (Nat × Record)) :
    s.ready (item :: rest)
      = if s.Admits item.2 then (item.1, s.encode item.2) :: s.ready rest else s.ready rest := by
  by_cases admitted : s.Admits item.2 <;> simp [ready, admitted]

/-- The records that rows are inserted as: those that pass validation, as they are bound. -/
def inserted (s : Schema) (rows : List Record) : List Record :=
  (rows.filter fun row => s.Admits row).map fun row => (s.encode row).bound

theorem inserted_cons (s : Schema) (row : Record) (rest : List Record) :
    s.inserted (row :: rest)
      = if s.Admits row then (s.encode row).bound :: s.inserted rest else s.inserted rest := by
  by_cases admitted : s.Admits row <;> simp [inserted, admitted]

/-- The rows that are ready, as they are bound. -/
theorem map_bound_ready (s : Schema) (rows : List Record) :
    ∀ place, (s.ready (numbered place rows)).map (·.2.bound) = s.inserted rows := by
  induction rows with
  | nil => exact fun place => rfl
  | cons row rest ih =>
    intro place
    rw [numbered_cons, ready_cons, inserted_cons]
    split
    · rw [List.map_cons, ih]
    · exact ih (place + 1)

/-- The columns of the rows that are ready are those of the inserted records. -/
theorem mem_columnsOf_ready (s : Schema) (rows : List Record) (c : String) :
    c ∈ Model.columnsOf ((s.ready (numbered 0 rows)).map (·.2))
      ↔ ∃ r ∈ s.inserted rows, c ∈ r.fields := by
  rw [(Model.columnsOf_lists _).2 c, ← s.map_bound_ready rows 0]
  constructor
  · rintro ⟨row, member, hc⟩
    obtain ⟨item, there, rfl⟩ := List.mem_map.1 member
    exact ⟨item.2.bound, List.mem_map_of_mem there, by rwa [Record.bound, Record.fields_mapValues]⟩
  · rintro ⟨row, member, hc⟩
    obtain ⟨item, there, rfl⟩ := List.mem_map.1 member
    rw [Record.bound, Record.fields_mapValues] at hc
    exact ⟨item.2, List.mem_map_of_mem there, hc⟩

end Schema

namespace Model

variable {σ : Type} {m : Model σ} {options : BulkOptions}

open Call

/-- What is said of a completed row, where rows are checked. -/
def checkRow (m : Model σ) (options : BulkOptions) (row : Record) : Except Error Unit :=
  if options.validate then m.schema.validate .create row else .ok ()

/-- The rows that are sent: those that are not refused, in stored form. -/
def sendable (m : Model σ) (options : BulkOptions) (items : List (Nat × Record)) :
    List (Nat × Record) :=
  if options.validate then m.schema.ready items
  else items.map fun item => (item.1, m.schema.encode item.2)

/-- The failures of the rows that are refused. -/
def refusals (m : Model σ) (options : BulkOptions) (items : List (Nat × Record)) :
    List BulkFailure :=
  if options.validate then m.schema.refused items else []

/-- A row that passes is sent. -/
theorem prepared_of_ok {item : Nat × Record} (h : m.checkRow options item.2 = .ok ())
    (rest : List (Nat × Record)) :
    m.sendable options (item :: rest)
        = (item.1, m.schema.encode item.2) :: m.sendable options rest ∧
      m.refusals options (item :: rest) = m.refusals options rest := by
  unfold sendable refusals
  cases checks : options.validate with
  | false => exact ⟨rfl, rfl⟩
  | true =>
    have valid : m.schema.validate .create item.2 = .ok () := by simpa [checkRow, checks] using h
    have admitted : m.schema.Admits item.2 := valid
    simp [Schema.ready_cons, admitted, Schema.refused, Schema.refusal?, valid]

/-- A row that does not pass is refused. -/
theorem prepared_of_error {item : Nat × Record} {e : Error}
    (h : m.checkRow options item.2 = .error e) (rest : List (Nat × Record)) :
    m.sendable options (item :: rest) = m.sendable options rest ∧
      m.refusals options (item :: rest)
        = ⟨item.1, e.message, some item.2⟩ :: m.refusals options rest := by
  unfold sendable refusals
  cases checks : options.validate with
  | false => simp [checkRow, checks] at h
  | true =>
    have invalid : m.schema.validate .create item.2 = .error e := by
      simpa [checkRow, checks] using h
    have refused : ¬ m.schema.Admits item.2 := fun admitted => by
      rw [Schema.Admits, invalid] at admitted
      cases admitted
    simp [Schema.ready_cons, refused, Schema.refused, Schema.refusal?, invalid]

/-- **Rows are prepared** one by one, and each is ready or refused. -/
theorem outcome_prepareRows (collects : options.continueOnError = true) (rows : List Record) :
    ∀ place report ready (w : World σ),
      ((numbered place rows).foldlM (m.prepareRow options) (report, ready)).outcome w
        = (let completed := m.schema.completeEach w.now rows w.draws
           let items := numbered place completed.1
           (.ok (report.addErrors (m.refusals options items), ready ++ m.sendable options items),
             { w with draws := completed.2 })) := by
  induction rows with
  | nil =>
    intro place report ready w
    simp [Schema.completeEach, refusals, sendable, Schema.refused, Schema.ready,
      BulkReport.addErrors]
  | cons data rest ih =>
    intro place report ready w
    rcases completed : m.schema.complete w.now data w.draws with ⟨row, draws⟩
    have prepared : outcome (m.prepareInsert data) w = (.ok row, { w with draws }) := by
      show (Except.ok (m.schema.complete w.now data w.draws).1,
        { w with draws := (m.schema.complete w.now data w.draws).2 }) = _
      rw [completed]
    have later : m.schema.completeEach w.now (data :: rest) w.draws
        = (row :: (m.schema.completeEach w.now rest draws).1,
            (m.schema.completeEach w.now rest draws).2) := by
      rw [Schema.completeEach, completed]
    rw [numbered_cons, List.foldlM_cons, prepareRow, bind_assoc, outcome_bind_ok prepared, later]
    have checkRow_def : m.checkRow options row
      = if options.validate then m.schema.validate .create row else .ok () := rfl
    dsimp only
    rw [← checkRow_def]
    cases checked : m.checkRow options row with
    | ok _ =>
      obtain ⟨sent, listed⟩ := @prepared_of_ok σ m options (place, row) checked
        (numbered (place + 1) (m.schema.completeEach w.now rest draws).1)
      simp only [pure_bind]
      rw [ih, numbered_cons, sent, listed]
      simp
    | error e =>
      obtain ⟨sent, listed⟩ := @prepared_of_error σ m options (place, row) e checked
        (numbered (place + 1) (m.schema.completeEach w.now rest draws).1)
      simp only [BulkReport.fail, collects, if_true]
      rw [bind_assoc, outcome_bind_ok (outcome_lift _ _), pure_bind, ih, numbered_cons, sent,
        listed]
      simp [BulkReport.addErrors]

/-- A chunk of rows is one statement, if there is a column. -/
theorem runs_insertChunk (accepts : ∀ s state, ∃ reply, (m.engine s state).1 = .ok reply)
    {columns : List String} (columned : columns ≠ []) (report : BulkReport)
    (chunk : List (Nat × Record)) (w : World σ) :
    ∃ xs w', Runs m.engine (m.insertChunk options columns report chunk) w xs
        (.ok { report with created := report.created + chunk.length }) w' ∧
      xs.map (·.1) = [(Insert.many m.table columns (chunk.map (·.2))).statement.wire] := by
  have single : m.batchStatements columns (chunk.map (·.2))
      = [(Insert.many m.table columns (chunk.map (·.2))).statement] := by
    simp [batchStatements, columned]
  rw [insertChunk_eq, work, single]
  generalize (Insert.many m.table columns (chunk.map (·.2))).statement = s
  obtain ⟨reply, accepted⟩ := accepts s.wire w.engine
  have executed : Runs m.engine (m.execute s >>= fun _ => pure ()) w [(s.wire, .ok reply)]
      (.ok ()) (answered w s.wire (m.engine s.wire w.engine).2) :=
    (runs_execute (Prod.ext accepted rfl)).bind (.pure () _)
  have all : Runs m.engine ([s].forM fun s => do let _ ← m.execute s) w [(s.wire, .ok reply)]
      (.ok ()) (answered w s.wire (m.engine s.wire w.engine).2) :=
    executed.bind (.pure () _)
  exact ⟨_, _, all.attempt.bind (.pure _ _), rfl⟩

/-- **Every chunk of rows is one statement** to an engine that accepts all of them. -/
theorem runs_insertChunks (accepts : ∀ s state, ∃ reply, (m.engine s state).1 = .ok reply)
    {columns : List String} (columned : columns ≠ []) (chunks : List (List (Nat × Record))) :
    ∀ report w, ∃ xs w', Runs m.engine (chunks.foldlM (m.insertChunk options columns) report) w xs
        (.ok { report with created := report.created + chunks.flatten.length }) w' ∧
      xs.map (·.1) = chunks.map fun chunk =>
        (Insert.many m.table columns (chunk.map (·.2))).statement.wire := by
  induction chunks with
  | nil => exact fun report w => ⟨[], w, .pure report w, rfl⟩
  | cons chunk rest ih =>
    intro report w
    obtain ⟨xs, w', inserted, issued⟩ := runs_insertChunk accepts columned report chunk w
    obtain ⟨ys, w'', others, later⟩ :=
      ih { report with created := report.created + chunk.length } w'
    rw [List.foldlM_cons]
    refine ⟨xs ++ ys, w'', ?_, by rw [List.map_append, issued, later, List.map_cons]; rfl⟩
    rw [List.flatten_cons, List.length_append, ← Nat.add_assoc]
    exact inserted.bind others

/-- **A batch of rows**: the rows that are ready are sent chunk by chunk, and the others listed. -/
theorem runs_batchInsert (accepts : ∀ s state, ∃ reply, (m.engine s state).1 = .ok reply)
    (checks : options.validate = true) (collects : options.continueOnError = true)
    {rows : List Record} {w : World σ} {items : List (Nat × Record)}
    (hitems : items = numbered 0 (m.schema.completeEach w.now rows w.draws).1)
    {columns : List String} (hcolumns : columns = columnsOf ((m.schema.ready items).map (·.2)))
    (columned : columns ≠ []) :
    ∃ (chunks : List (List (Nat × Record))) (xs : List (Statement × Answer)) (w' : World σ),
      chunks.flatten = m.schema.ready items ∧ (∀ chunk ∈ chunks, chunk ≠ []) ∧
      Runs m.engine (m.batchInsert rows options) w xs
        (.ok { created := (m.schema.ready items).length, errors := m.schema.refused items }) w' ∧
      xs.map (·.1) = chunks.map fun chunk =>
        (Insert.many m.table columns (chunk.map (·.2))).statement.wire := by
  have prepared : Runs m.engine _ w [] _ _ := Runs.quiet
    (m.schema.completeEach w.now rows w.draws).2
    (@outcome_prepareRows σ m options collects rows 0 {} [] w)
  rw [← hitems, List.nil_append, sendable, refusals, if_pos checks, if_pos checks] at prepared
  generalize hsize : rowsPerStatement (options.chunkSize.getD m.settings.bulk.insertChunk)
    m.settings.maxParameters columns - 1 = size
  obtain ⟨xs, w', inserted, issued⟩ := @runs_insertChunks σ m options accepts columns columned
    (chunksOf size (m.schema.ready items)) (BulkReport.addErrors {} (m.schema.refused items))
    { w with draws := (m.schema.completeEach w.now rows w.draws).2 }
  rw [flatten_chunksOf] at inserted
  have sorted : (m.schema.refused items).mergeSort (fun a b => a.index ≤ b.index)
      = m.schema.refused items := by
    rw [hitems]
    exact List.mergeSort_of_pairwise (by simpa using m.schema.sorted_refused 0 _)
  refine ⟨_, [] ++ (xs ++ []), w', flatten_chunksOf size _, fun _ => ne_nil_of_mem_chunksOf, ?_, ?_⟩
  · refine prepared.bind ?_
    dsimp only
    rw [← hcolumns, hsize]
    refine inserted.bind ?_
    simp only [BulkReport.addErrors, List.nil_append, sorted, Nat.zero_add]
    exact .pure _ _
  · rw [List.nil_append, List.append_nil]
    exact issued

end Model

/-! ## Batches and creations -/

/-- The statements with which rows are created insert the records that pass validation. -/
theorem Model.issued_creations {σ : Type} {m : Model σ} (hm : m.hooks = {}) (rows : List Record)
    (w : World σ) :
    (m.creations rows w).filterMap id
      = (m.schema.inserted (m.schema.completeEach w.now rows w.draws).1).map fun r =>
          (Insert.one m.table r).statement := by
  rw [creations_eq hm]
  generalize (m.schema.completeEach w.now rows w.draws).1 = completed
  induction completed with
  | nil => rfl
  | cons row rest ih =>
    rw [List.map_cons, Schema.inserted_cons]
    split
    · rw [List.filterMap_cons, id, ih, List.map_cons, Insert.wire_one_bound]
    · rw [List.filterMap_cons, id, ih]

/-- **A batch binds what creations bind.** Take a model whose engine accepts every statement, and
another one of the same schema without hooks, at the same time and with the same numbers of drawn
defaults. Let `inserted` be the records, as they are bound, that the other model inserts when it
creates some rows one after another: one for each row that passes validation. If there is a column
among them, then inserting the same rows in batches, checked and collecting failures, sends these
records and no others, in order, each in one statement, over the columns that any of them has. The
parameters of the statements, cut by the number of columns, are one tuple for each record, with its
parameter at every column that it has and null at the others; and the account says how many records
these are, and lists the places of the other rows. -/
theorem batch_agrees_with_creation {σ τ : Type} {m : Model σ} {other : Model τ}
    (plain : other.hooks = {}) (same : other.schema = m.schema)
    (accepts : ∀ s state, ∃ reply, (m.engine s state).1 = .ok reply)
    {options : BulkOptions} (checks : options.validate = true)
    (collects : options.continueOnError = true) {w : World σ} {v : World τ} (now : v.now = w.now)
    (draws : v.draws = w.draws) {rows : List Record}
    (columned : ∃ s, some s ∈ other.creations rows v ∧ s.params ≠ []) :
    ∃ (columns : List String) (inserted : List Record) (batches : List (List Record))
      (report : BulkReport),
      (other.creations rows v).filterMap id
        = inserted.map (fun r => (Insert.one m.table r).statement) ∧
      (other.creations rows v).map Option.isSome
        = (m.schema.completeEach w.now rows w.draws).1.map
            (fun row => decide (m.schema.Admits row)) ∧
      columns.Nodup ∧ (∀ c, c ∈ columns ↔ ∃ r ∈ inserted, c ∈ r.fields) ∧
      batches.flatten = inserted ∧ (∀ batch ∈ batches, batch ≠ []) ∧
      (m.batchInsert rows options).issued w
        = batches.map (fun batch => (Insert.many m.table columns batch).statement) ∧
      ((m.batchInsert rows options).issued w).flatMap
          (fun s => chunksOf (columns.length - 1) s.params)
        = inserted.map (fun r => columns.map fun c => (r.get? c).getD .null) ∧
      ((m.batchInsert rows options).outcome w).1 = .ok report ∧
      report.created = inserted.length ∧
      ∀ i, i ∈ report.errors.map (·.index) ↔ (other.creations rows v)[i]? = some none := by
  have table : other.table = m.table := congrArg Schema.table same
  have statements := Model.creations_eq plain rows v
  have sent := Model.issued_creations plain rows v
  rw [same, table, now, draws] at statements sent
  obtain ⟨completed, hcompleted⟩ : ∃ completed, completed = (m.schema.completeEach w.now rows
    w.draws).1 := ⟨_, rfl⟩
  rw [← hcompleted] at statements sent ⊢
  obtain ⟨columns, hcolumns⟩ : ∃ columns, columns
    = Model.columnsOf ((m.schema.ready (numbered 0 completed)).map (·.2)) := ⟨_, rfl⟩
  have listed := m.schema.mem_columnsOf_ready completed
  rw [← hcolumns] at listed
  have present : columns ≠ [] := by
    obtain ⟨s, member, bound⟩ := columned
    have issued : s ∈ (other.creations rows v).filterMap id :=
      List.mem_filterMap.2 ⟨some s, member, rfl⟩
    rw [sent] at issued
    obtain ⟨r, there, rfl⟩ := List.mem_map.1 issued
    have named : r.fields ≠ [] := by
      rw [Template.statement, Insert.params_one] at bound
      simpa [Record.fields, Entries.names] using bound
    obtain ⟨c, hc⟩ := List.exists_mem_of_ne_nil _ named
    exact List.ne_nil_of_mem ((listed c).2 ⟨r, there, hc⟩)
  obtain ⟨chunks, xs, w', whole, nonempty, run, said⟩ := Model.runs_batchInsert accepts checks
    collects (congrArg (numbered 0) hcompleted) hcolumns present
  obtain ⟨batches, hbatches⟩ : ∃ batches, batches = chunks.map fun chunk =>
    chunk.map (·.2.bound) := ⟨_, rfl⟩
  have issued : (m.batchInsert rows options).issued w
      = batches.map fun batch => (Insert.many m.table columns batch).statement := by
    rw [run.statements, said, hbatches, List.map_map]
    refine List.map_congr_left fun chunk _ => ?_
    rw [Insert.wire_many, List.map_map]
    rfl
  have flat : batches.flatten = m.schema.inserted completed := by
    rw [hbatches, ← m.schema.map_bound_ready completed 0, ← whole, List.map_flatten]
  have tuples : ∀ batch : List Record,
      chunksOf (columns.length - 1) (Insert.many m.table columns batch).statement.params
        = batch.map (Insert.rowValues columns) :=
    Insert.chunksOf_params_many present m.table
  refine ⟨columns, m.schema.inserted completed, batches, _, sent, ?_, ?_, listed, flat, ?_, issued,
    ?_, congrArg Prod.fst run.outcome, ?_, fun i => ?_⟩
  · rw [statements, List.map_map]
    refine List.map_congr_left fun row _ => ?_
    by_cases admitted : m.schema.Admits row <;> simp [admitted]
  · rw [hcolumns]
    exact (Model.columnsOf_lists _).1
  · intro batch member
    rw [hbatches] at member
    obtain ⟨chunk, there, rfl⟩ := List.mem_map.1 member
    simpa using nonempty chunk there
  · rw [issued, ← flat, List.flatMap_map, List.map_flatten]
    simp only [tuples]
    rfl
  · rw [← m.schema.map_bound_ready completed 0, List.length_map]
  · rw [m.schema.mem_refused, statements, List.getElem?_map]
    cases completed[i]? with
    | none => simp
    | some row => by_cases admitted : m.schema.Admits row <;> simp [admitted]

/-- A table of shipments, whose engine accepts everything. -/
def shipments : Model Unit where
  schema := ⟨"shipments", [.id "id", { name := "sku", kind := .string, required := true },
    { name := "note", kind := .text, unique := true }], {}, 0⟩
  engine := .silent

/-- Three shipments, of which the second one lacks its required field and only the last one has a
note. -/
def consignment : List Record :=
  [.ofEntries [("sku", .text "A1")], .ofEntries [("note", .text "?")],
    .ofEntries [("note", .text "fragile"), ("sku", .text "B2")]]

/-- A world in which nothing has been shipped. -/
def shipmentsWorld : World Unit where
  engine := ()
  now := default

theorem consignment_agrees :
    ∃ (columns : List String) (inserted : List Record),
      [⟨"INSERT INTO shipments (sku) VALUES (?)", [.text "A1"]⟩,
        ⟨"INSERT INTO shipments (note, sku) VALUES (?, ?)", [.text "fragile", .text "B2"]⟩]
        = inserted.map (fun r => (Insert.one "shipments" r).statement) ∧
      ((shipments.batchInsert consignment {}).issued shipmentsWorld).flatMap
          (fun s => chunksOf (columns.length - 1) s.params)
        = inserted.map (fun r => columns.map fun c => (r.get? c).getD .null) ∧
      ∃ report, ((shipments.batchInsert consignment {}).outcome shipmentsWorld).1 = .ok report ∧
        report.created = inserted.length ∧ 1 ∈ report.errors.map (·.index) := by
  have statements : shipments.creations consignment shipmentsWorld
      = [some ⟨"INSERT INTO shipments (sku) VALUES (?)", [.text "A1"]⟩, none,
          some ⟨"INSERT INTO shipments (note, sku) VALUES (?, ?)",
            [.text "fragile", .text "B2"]⟩] := by
    decide +kernel
  have columned : ∃ s, some s ∈ shipments.creations consignment shipmentsWorld ∧ s.params ≠ [] := by
    rw [statements]
    exact ⟨_, List.mem_cons_self, List.cons_ne_nil _ _⟩
  obtain ⟨columns, inserted, -, report, sent, -, -, -, -, -, -, tuples, ends, created, listed⟩ :=
    @batch_agrees_with_creation Unit Unit shipments shipments rfl rfl (fun _ _ => ⟨{}, rfl⟩) {} rfl
      rfl shipmentsWorld shipmentsWorld rfl rfl consignment columned
  rw [statements] at sent listed
  exact ⟨columns, inserted, sent, tuples, report, ends, created, (listed 1).2 rfl⟩

end RecordMapper
