import RecordMapper.Proofs.Bulk.Batches

/-!
# What the engine was sent of a batch

The account of rows that are inserted in batches, against the statements that the engine accepted.

* A `Delivery` is a statement with the rows that it carries and its answer, and a `Batch` a chunk of
  rows with its deliveries; `Model.Sent` says how a chunk goes out, up to the first rejection.
* `Delivers` ties the account to the batches: a chunk counts if the engine accepted all of it, and
  else all of its rows are listed.
* `batch_accounts`: every row is in an accepted chunk or listed, and where no chunk was accepted in
  part this is so for the accepted statements.
-/

namespace RecordMapper

/-! ## Deliveries -/

/-- A statement of a batch: the rows that it carries, with their places, and what the engine
answered. -/
structure Delivery where
  /-- The rows. -/
  rows : List (Nat × Record)
  /-- The statement. -/
  statement : Statement
  /-- The answer. -/
  answer : Answer

namespace Delivery

/-- What was said. -/
def exchange (d : Delivery) : Statement × Answer :=
  (d.statement, d.answer)

/-- The places of the rows. -/
def places (d : Delivery) : List Nat :=
  d.rows.map (·.1)

/-- The engine accepted the statement. -/
def Accepted (d : Delivery) : Prop :=
  ∃ reply, d.answer = .ok reply

instance : DecidablePred Accepted := fun d =>
  match h : d.answer with
  | .ok reply => isTrue ⟨reply, h⟩
  | .error _ => isFalse fun ⟨_, accepted⟩ => by rw [h] at accepted; cases accepted

end Delivery

/-- A chunk of rows, and what was sent of it. -/
structure Batch where
  /-- The rows. -/
  rows : List (Nat × Record)
  /-- The statements. -/
  deliveries : List Delivery

namespace Batch

/-- What was said. -/
def exchanges (b : Batch) : Conversation :=
  b.deliveries.map Delivery.exchange

/-- The places of the rows. -/
def places (b : Batch) : List Nat :=
  b.rows.map (·.1)

/-- The engine accepted every statement. -/
def Accepted (b : Batch) : Prop :=
  ∀ d ∈ b.deliveries, d.Accepted

instance : DecidablePred Accepted := fun b =>
  inferInstanceAs (Decidable (∀ d ∈ b.deliveries, d.Accepted))

/-- The engine accepted some statements and rejected another. -/
def Split (b : Batch) : Prop :=
  ¬ b.Accepted ∧ ∃ d ∈ b.deliveries, d.Accepted

end Batch

namespace Model

variable {σ : Type} {m : Model σ} {columns : List String}

/-- The rows of a chunk as its statements carry them: all at once, or one by one where there is no
column. -/
def loads (columns : List String) (rows : List (Nat × Record)) : List (List (Nat × Record)) :=
  if columns = [] then rows.map fun row => [row] else [rows]

/-- The statement that carries a load. -/
def carrier (m : Model σ) (columns : List String) (load : List (Nat × Record)) : Statement :=
  if columns = [] then (Insert.one m.table Record.empty).statement
  else (Insert.many m.table columns (load.map (·.2))).statement

/-- Loads are sent one after another, each in its statement, up to the first that is rejected. -/
inductive Sent (m : Model σ) (columns : List String) :
    List (List (Nat × Record)) → List Delivery → Prop
  /-- Nothing is left. -/
  | none : Sent m columns [] []
  /-- The first load is accepted. -/
  | accepted {load : List (Nat × Record)} {rest : List (List (Nat × Record))}
      {ds : List Delivery} (reply : Reply) (more : Sent m columns rest ds) :
      Sent m columns (load :: rest) (⟨load, (m.carrier columns load).wire, .ok reply⟩ :: ds)
  /-- The first load is rejected, and nothing is sent after it. -/
  | rejected {load : List (Nat × Record)} {rest : List (List (Nat × Record))} (r : Rejection) :
      Sent m columns (load :: rest) [⟨load, (m.carrier columns load).wire, .error r⟩]

theorem flatten_loads (columns : List String) (rows : List (Nat × Record)) :
    (loads columns rows).flatten = rows := by
  unfold loads
  split
  · rw [← List.flatMap_def, List.flatMap_singleton']
  · simp

theorem batchStatements_eq (m : Model σ) (columns : List String) (rows : List (Nat × Record)) :
    m.batchStatements columns (rows.map (·.2)) = (loads columns rows).map (m.carrier columns) := by
  unfold batchStatements loads carrier
  by_cases none : columns = []
  · simp [none, Function.comp_def, List.map_const']
  · simp [none]

namespace Sent

variable {ls : List (List (Nat × Record))} {ds : List Delivery}

/-- Loads that were all accepted were all sent. -/
theorem whole (h : m.Sent columns ls ds) (accepted : ∀ d ∈ ds, d.Accepted) :
    ds.flatMap Delivery.rows = ls.flatten := by
  induction h with
  | none => rfl
  | accepted reply _ ih =>
    rw [List.flatMap_cons, List.flatten_cons, ih (List.forall_mem_cons.1 accepted).2]
  | rejected r =>
    obtain ⟨reply, wrong⟩ := accepted _ List.mem_cons_self
    cases wrong

end Sent

/-- **Loads are put to the engine** one after another, and that ends well if all are accepted. -/
theorem follows_loads (m : Model σ) (columns : List String) (ls : List (List (Nat × Record))) :
    ∀ w, m.Follows ((ls.map (m.carrier columns)).forM fun s => do let _ ← m.execute s) w
      fun xs result => ∃ ds, xs = ds.map Delivery.exchange ∧ m.Sent columns ls ds ∧
        ((result = .ok () ∧ ∀ d ∈ ds, d.Accepted) ∨
          ((∃ e, result = .error e) ∧ ¬ ∀ d ∈ ds, d.Accepted)) := by
  induction ls with
  | nil => exact fun w => .pure ⟨[], rfl, .none, .inl ⟨rfl, by simp⟩⟩
  | cons load rest ih =>
    intro w
    show m.Follows ((m.execute (m.carrier columns load) >>= fun _ => pure ()) >>= fun _ =>
      (rest.map (m.carrier columns)).forM fun s => do let _ ← m.execute s) w _
    rw [bind_assoc]
    refine .execute_bind (fun r => ?_) fun reply w' _ _ => ?_
    · refine ⟨[⟨load, _, .error r⟩], rfl, .rejected r, .inr ⟨⟨_, rfl⟩, fun accepted => ?_⟩⟩
      obtain ⟨reply, wrong⟩ := accepted _ List.mem_cons_self
      cases wrong
    · rw [pure_bind]
      refine (ih w').mono fun xs result => ?_
      rintro ⟨ds, rfl, sent, ends⟩
      refine ⟨⟨load, (m.carrier columns load).wire, .ok reply⟩ :: ds, rfl, .accepted reply sent, ?_⟩
      have first : (⟨load, (m.carrier columns load).wire, .ok reply⟩ : Delivery).Accepted :=
        ⟨reply, rfl⟩
      rwa [List.forall_mem_cons, and_iff_right first]

/-! ## Chunks of rows -/

/-- Chunks of rows are sent one after another. A chunk counts if the engine accepted all of it, and
else all of its rows are listed. -/
structure Delivers (m : Model σ) (columns : List String) (chunks : List (List (Nat × Record)))
    (before : BulkReport) (batches : List Batch) (xs : Conversation) (after : BulkReport) :
    Prop where
  said : xs = batches.flatMap Batch.exchanges
  rows : batches.map Batch.rows = chunks
  sent : ∀ b ∈ batches, m.Sent columns (loads columns b.rows) b.deliveries
  created : after.created
    = before.created + ((batches.filter (·.Accepted)).flatMap Batch.rows).length
  listed : after.errors.map (·.index)
    = before.errors.map (·.index) ++ (batches.filter (¬ ·.Accepted)).flatMap Batch.places

namespace Delivers

variable {chunks : List (List (Nat × Record))} {chunk : List (Nat × Record)}
  {before after : BulkReport} {batches : List Batch} {xs : Conversation} {ds : List Delivery}

theorem nil (report : BulkReport) : m.Delivers columns [] report [] [] report where
  said := rfl
  rows := rfl
  sent := by simp
  created := by simp
  listed := by simp

/-- A chunk that is accepted, and the others. -/
theorem accepted (sent : m.Sent columns (loads columns chunk) ds)
    (all : ∀ d ∈ ds, d.Accepted)
    (h : m.Delivers columns chunks { before with created := before.created + chunk.length } batches
      xs after) :
    m.Delivers columns (chunk :: chunks) before (⟨chunk, ds⟩ :: batches)
      (ds.map Delivery.exchange ++ xs) after where
  said := by rw [h.said, List.flatMap_cons, Batch.exchanges]
  rows := by rw [List.map_cons, h.rows]
  sent := List.forall_mem_cons.2 ⟨sent, h.sent⟩
  created := by
    have whole : (⟨chunk, ds⟩ : Batch).Accepted := all
    rw [h.created, List.filter_cons_of_pos (by simpa using whole), List.flatMap_cons,
      List.length_append, Nat.add_assoc]
  listed := by
    have whole : (⟨chunk, ds⟩ : Batch).Accepted := all
    rw [h.listed, List.filter_cons_of_neg (by simpa using whole)]

/-- A chunk of which something is rejected, and the others. -/
theorem rejected {e : Error} (sent : m.Sent columns (loads columns chunk) ds)
    (some : ¬ ∀ d ∈ ds, d.Accepted)
    (h : m.Delivers columns chunks (before.addErrors (rowEntries chunk e)) batches xs after) :
    m.Delivers columns (chunk :: chunks) before (⟨chunk, ds⟩ :: batches)
      (ds.map Delivery.exchange ++ xs) after where
  said := by rw [h.said, List.flatMap_cons, Batch.exchanges]
  rows := by rw [List.map_cons, h.rows]
  sent := List.forall_mem_cons.2 ⟨sent, h.sent⟩
  created := by
    have broken : ¬ (⟨chunk, ds⟩ : Batch).Accepted := some
    rw [h.created, List.filter_cons_of_neg (by simpa using broken), BulkReport.addErrors]
  listed := by
    have broken : ¬ (⟨chunk, ds⟩ : Batch).Accepted := some
    rw [h.listed, List.filter_cons_of_pos (by simpa using broken), List.flatMap_cons,
      BulkReport.addErrors, List.map_append, List.append_assoc, rowEntries, List.map_map]
    rfl

end Delivers

/-- **Chunks of rows go out** one after another. -/
theorem follows_insertChunks {options : BulkOptions} (collects : options.continueOnError = true)
    (m : Model σ) (columns : List String) (chunks : List (List (Nat × Record))) :
    ∀ report w, m.Follows (chunks.foldlM (m.insertChunk options columns) report) w
      fun xs result => ∃ batches after, result = .ok after ∧
        m.Delivers columns chunks report batches xs after := by
  induction chunks with
  | nil => exact fun report w => .pure ⟨[], report, rfl, .nil report⟩
  | cons chunk rest ih =>
    intro report w
    rw [List.foldlM_cons, insertChunk, batchStatements_eq, bind_assoc]
    refine .attempt_bind (m.follows_loads columns (loads columns chunk) w) ?_
    rintro ys ends w' ⟨ds, rfl, sent, ⟨rfl, all⟩ | ⟨⟨e, rfl⟩, some⟩⟩ -
    · rw [pure_bind]
      refine (ih { report with created := report.created + chunk.length } w').mono ?_
      rintro zs result ⟨batches, after, rfl, h⟩
      exact ⟨_, after, rfl, .accepted sent all h⟩
    · dsimp only
      rw [BulkReport.fail, if_pos collects]
      refine .lift_bind (fun _ h => by cases h) fun failed h => ?_
      cases h
      refine (ih (report.addErrors (rowEntries chunk e)) w').mono ?_
      rintro zs result ⟨batches, after, rfl, h⟩
      exact ⟨_, after, rfl, .rejected sent some h⟩

/-! ## Rows that are ready -/

/-- The rows that are ready are those that are not refused, at their places. -/
theorem mem_sendable {options : BulkOptions} {rows : List Record} {i : Nat} {row : Record} :
    (i, row) ∈ m.sendable options (numbered 0 rows) ↔
      ∃ data, rows[i]? = some data ∧ (options.validate = true → m.schema.Admits data) ∧
        row = m.schema.encode data := by
  have stored : ∀ items : List (Nat × Record),
      (i, row) ∈ items.map (fun item => (item.1, m.schema.encode item.2)) ↔
        ∃ data, (i, data) ∈ items ∧ row = m.schema.encode data := by
    intro items
    simp only [List.mem_map, Prod.exists, Prod.mk.injEq]
    constructor
    · rintro ⟨_, data, mem, rfl, rfl⟩
      exact ⟨data, mem, rfl⟩
    · rintro ⟨data, mem, rfl⟩
      exact ⟨i, data, mem, rfl, rfl⟩
  unfold sendable
  cases options.validate with
  | true =>
    rw [if_pos rfl, Schema.ready, stored]
    simp [mem_numbered, and_assoc]
  | false =>
    rw [if_neg Bool.false_ne_true, stored]
    simp [mem_numbered]

/-- Every row is ready or refused. -/
theorem perm_prepared (m : Model σ) (options : BulkOptions) (items : List (Nat × Record)) :
    ((m.refusals options items).map (·.index) ++ (m.sendable options items).map (·.1)).Perm
      (items.map (·.1)) := by
  induction items with
  | nil => cases checks : options.validate <;> simp [refusals, sendable, checks, Schema.refused,
      Schema.ready]
  | cons item rest ih =>
    cases checked : m.checkRow options item.2 with
    | ok _ =>
      obtain ⟨sent, listed⟩ := prepared_of_ok checked rest
      rw [sent, listed]
      exact List.perm_middle.trans (ih.cons item.1)
    | error e =>
      obtain ⟨sent, listed⟩ := prepared_of_error checked rest
      rw [sent, listed]
      exact ih.cons item.1

end Model

/-! ## Accounts -/

namespace Batch

variable {σ : Type} {m : Model σ} {columns : List String} {batches : List Batch}

/-- The statements that the engine accepted. -/
def delivered (batches : List Batch) : List Delivery :=
  (batches.flatMap deliveries).filter (·.Accepted)

/-- Rows with columns go out in one statement, which is accepted or rejected. -/
theorem not_split (columned : columns ≠ []) {b : Batch}
    (sent : m.Sent columns (Model.loads columns b.rows) b.deliveries) : ¬ b.Split := by
  rintro ⟨broken, d, mem, accepted⟩
  unfold Accepted at broken
  rw [Model.loads, if_neg columned] at sent
  generalize b.deliveries = ds at sent mem broken
  cases sent with
  | accepted reply more =>
    cases more
    exact broken (by simpa using ⟨reply, rfl⟩)
  | rejected r =>
    rw [List.mem_singleton] at mem
    subst mem
    obtain ⟨reply, wrong⟩ := accepted
    cases wrong

/-- Where no chunk is accepted in part, the accepted statements carry the accepted chunks. -/
theorem rows_delivered
    (sent : ∀ b ∈ batches, m.Sent columns (Model.loads columns b.rows) b.deliveries)
    (unsplit : ∀ b ∈ batches, ¬ b.Split) :
    (delivered batches).flatMap Delivery.rows
      = (batches.filter (·.Accepted)).flatMap Batch.rows := by
  induction batches with
  | nil => rfl
  | cons b rest ih =>
    obtain ⟨first, sent⟩ := List.forall_mem_cons.1 sent
    obtain ⟨whole, unsplit⟩ := List.forall_mem_cons.1 unsplit
    have others := ih sent unsplit
    unfold delivered at others ⊢
    rw [List.flatMap_cons, List.filter_append, List.flatMap_append, others]
    by_cases accepted : b.Accepted
    · have all : b.deliveries.filter (·.Accepted) = b.deliveries :=
        List.filter_eq_self.2 fun d mem => by simpa using accepted d mem
      rw [List.filter_cons_of_pos (by simpa using accepted), List.flatMap_cons, all,
        first.whole accepted, Model.flatten_loads]
    · have none : b.deliveries.filter (·.Accepted) = [] := by
        refine List.filter_eq_nil_iff.2 fun d mem there => whole ⟨accepted, d, mem, ?_⟩
        simpa using there
      rw [List.filter_cons_of_neg (by simpa using accepted), none]
      rfl

theorem map_rows_flatMap (batches : List Batch) :
    (batches.flatMap Batch.rows).map (·.1) = batches.flatMap Batch.places :=
  List.map_flatMap

theorem map_rows_delivered (ds : List Delivery) :
    (ds.flatMap Delivery.rows).map (·.1) = ds.flatMap Delivery.places :=
  List.map_flatMap

theorem places_delivered
    (sent : ∀ b ∈ batches, m.Sent columns (Model.loads columns b.rows) b.deliveries)
    (unsplit : ∀ b ∈ batches, ¬ b.Split) :
    (delivered batches).flatMap Delivery.places
      = (batches.filter (·.Accepted)).flatMap Batch.places := by
  rw [← map_rows_delivered, rows_delivered sent unsplit, map_rows_flatMap]

end Batch

open Model in
/-- The places of a batch insertion: those of the accepted chunks and those that are listed are the
places of all rows. -/
theorem Model.Delivers.perm {σ : Type} {m : Model σ} {columns : List String} {size : Nat}
    {items : List (Nat × Record)} {options : BulkOptions} {batches : List Batch}
    {xs : Conversation} {after : BulkReport}
    (h : m.Delivers columns (chunksOf size (m.sendable options items))
      (BulkReport.addErrors {} (m.refusals options items)) batches xs after) :
    ((batches.filter (·.Accepted)).flatMap Batch.places ++ after.errors.map (·.index)).Perm
      (items.map (·.1)) := by
  have places : batches.flatMap Batch.places = (m.sendable options items).map (·.1) := by
    rw [← flatten_chunksOf size (m.sendable options items), ← h.rows, ← Batch.map_rows_flatMap,
      List.flatMap_def]
  have halves : ((batches.filter (·.Accepted)).flatMap Batch.places
      ++ (batches.filter (¬ ·.Accepted)).flatMap Batch.places).Perm
        (batches.flatMap Batch.places) := by
    rw [← List.flatMap_append]
    refine List.Perm.flatMap_right _ ?_
    simpa using List.filter_append_perm (fun b : Batch => decide b.Accepted) batches
  rw [h.listed]
  simp only [BulkReport.addErrors, List.nil_append]
  rw [places] at halves
  exact (List.perm_append_comm_assoc _ _ _).trans
    ((halves.append_left _).trans (m.perm_prepared options items))

theorem Schema.length_completeEach (s : Schema) (now : Instant) (rows : List Record) :
    ∀ draws, (s.completeEach now rows draws).1.length = rows.length := by
  induction rows with
  | nil => exact fun draws => rfl
  | cons data rest ih => exact fun draws => congrArg Nat.succ (ih _)

/-- Of numbers that are gone through once in two lists, each is in the one or in the other. -/
theorem mem_right_iff_of_perm {left right : List Nat} {n i : Nat}
    (once : (left ++ right).Perm (List.range n)) (bound : i < n) : i ∈ right ↔ i ∉ left := by
  have distinct : (left ++ right).Nodup := once.nodup_iff.2 List.nodup_range
  have there : i ∈ left ++ right := once.mem_iff.2 (List.mem_range.2 bound)
  constructor
  · intro onRight onLeft
    exact (List.nodup_append.1 distinct).2.2 i onLeft i onRight rfl
  · exact (List.mem_append.1 there).resolve_left

/-- What is sent of completed rows, over some columns, in batches. -/
structure Model.Dispatches {σ : Type} (m : Model σ) (options : BulkOptions)
    (completed : List Record) (columns : List String) (batches : List Batch) : Prop where
  /-- The rows are those that are not refused, in stored form and at their places. -/
  rows : ∀ i row, (i, row) ∈ batches.flatMap Batch.rows ↔ ∃ data, completed[i]? = some data ∧
    (options.validate = true → m.schema.Admits data) ∧ row = m.schema.encode data
  /-- The columns are those that any of them has. -/
  named : ∀ name, name ∈ columns ↔ ∃ item ∈ batches.flatMap Batch.rows, name ∈ item.2.fields
  /-- The rows of a chunk go out together, or row by row where there is no column, up to the first
  rejection. -/
  sent : ∀ b ∈ batches, m.Sent columns (Model.loads columns b.rows) b.deliveries

/-- The rows that are not refused are dispatched. -/
theorem Model.Delivers.dispatches {σ : Type} {m : Model σ} {options : BulkOptions} {size : Nat}
    {completed : List Record} {before after : BulkReport} {batches : List Batch} {xs : Conversation}
    (h : m.Delivers (columnsOf ((m.sendable options (numbered 0 completed)).map (·.2)))
      (chunksOf size (m.sendable options (numbered 0 completed))) before batches xs after) :
    m.Dispatches options completed
      (columnsOf ((m.sendable options (numbered 0 completed)).map (·.2))) batches := by
  have items : batches.flatMap Batch.rows = m.sendable options (numbered 0 completed) := by
    rw [List.flatMap_def, h.rows, flatten_chunksOf]
  refine ⟨fun i row => by rw [items, mem_sendable], fun name => ?_, h.sent⟩
  rw [items, (columnsOf_lists _).2 name]
  simp only [List.mem_map, exists_exists_and_eq_and]

/-- A row that an accepted statement carries has passed its checks. -/
theorem Model.Dispatches.admits {σ : Type} {m : Model σ} {options : BulkOptions}
    {completed : List Record} {columns : List String} {batches : List Batch}
    (h : m.Dispatches options completed columns batches) (unsplit : ∀ b ∈ batches, ¬ b.Split)
    (checks : options.validate = true) {i : Nat} {data : Record} (there : completed[i]? = some data)
    (carried : ∃ d ∈ Batch.delivered batches, i ∈ d.places) : m.schema.Admits data := by
  obtain ⟨d, accepted, place⟩ := carried
  obtain ⟨item, mem, rfl⟩ := List.mem_map.1 place
  have given : item ∈ (Batch.delivered batches).flatMap Delivery.rows :=
    List.mem_flatMap.2 ⟨d, accepted, mem⟩
  rw [Batch.rows_delivered h.sent unsplit] at given
  obtain ⟨b, whole, mem⟩ := List.mem_flatMap.1 given
  have ready := List.mem_flatMap.2 ⟨b, (List.mem_filter.1 whole).1, mem⟩
  obtain ⟨data', same, passed, -⟩ := (h.rows item.1 item.2).1 ready
  rw [there] at same
  cases same
  exact passed checks

/-- **The account of a batch insertion.** Rows are inserted in batches, failures are collected, and
the engine answers as it likes. The account counts the rows of the chunks that the engine accepted
as a whole, and lists every other row once.

So if no chunk was accepted in part, as is always so where there is a column, it counts the rows of
the accepted statements, and each row is either carried by one of these or listed: it is listed
exactly if it did not pass validation or no accepted statement carried it. -/
theorem batch_accounts {σ : Type} (m : Model σ) (rows : List Record) {options : BulkOptions}
    (collects : options.continueOnError = true) (w : World σ) :
    m.Follows (m.batchInsert rows options) w fun xs result =>
      ∃ (completed : List Record) (columns : List String) (batches : List Batch)
        (report : BulkReport),
        completed = (m.schema.completeEach w.now rows w.draws).1 ∧
        m.Dispatches options completed columns batches ∧
        xs = batches.flatMap Batch.exchanges ∧ result = .ok report ∧
        report.created = ((batches.filter (·.Accepted)).flatMap Batch.rows).length ∧
        ((batches.filter (·.Accepted)).flatMap Batch.places
          ++ report.errors.map (·.index)).Perm (List.range rows.length) ∧
        (columns ≠ [] → ∀ b ∈ batches, ¬ b.Split) ∧
        ((∀ b ∈ batches, ¬ b.Split) →
          report.created = ((Batch.delivered batches).flatMap Delivery.rows).length ∧
          ((Batch.delivered batches).flatMap Delivery.places
            ++ report.errors.map (·.index)).Perm (List.range rows.length) ∧
          ∀ i < rows.length, i ∈ report.errors.map (·.index) ↔
            (options.validate = true ∧ ∃ data, completed[i]? = some data ∧
              ¬ m.schema.Admits data) ∨
            ∀ d ∈ Batch.delivered batches, i ∉ d.places) := by
  obtain ⟨completed, hcompleted⟩ : ∃ completed,
    completed = (m.schema.completeEach w.now rows w.draws).1 := ⟨_, rfl⟩
  have length : completed.length = rows.length := by
    rw [hcompleted, Schema.length_completeEach]
  have prepared := @Model.outcome_prepareRows σ m options collects rows 0 {} [] w
  dsimp only at prepared
  rw [← hcompleted, List.nil_append] at prepared
  unfold Model.batchInsert
  refine .quiet_bind _ prepared ?_
  dsimp only
  generalize Model.rowsPerStatement _ _ _ - 1 = size
  refine (m.follows_insertChunks collects _ _ _ _).bind (fun xs e h => ?_) ?_
  · obtain ⟨batches, after, wrong, -⟩ := h
    cases wrong
  rintro xs ended w' ⟨batches, after, ends, h⟩ -
  obtain rfl : ended = after := Except.ok.inj ends
  have dispatched := h.dispatches
  have counted : ended.created = ((batches.filter (·.Accepted)).flatMap Batch.rows).length := by
    rw [h.created, BulkReport.addErrors, Nat.zero_add]
  have once : ((batches.filter (·.Accepted)).flatMap Batch.places
      ++ (ended.errors.mergeSort fun a b => a.index ≤ b.index).map (·.index)).Perm
        (List.range rows.length) := by
    have all := h.perm
    rw [map_fst_numbered, length, ← List.range_eq_range'] at all
    exact (((List.mergeSort_perm _ _).map _).append_left _).trans all
  refine .pure ⟨completed, _, batches, _, hcompleted, dispatched,
    by rw [List.append_nil, h.said], rfl, counted, once,
    fun columned b mem => Batch.not_split columned (h.sent b mem), fun unsplit => ?_⟩
  have places := Batch.places_delivered h.sent unsplit
  refine ⟨by rw [counted, Batch.rows_delivered h.sent unsplit], places ▸ once, fun i bound => ?_⟩
  have elsewhere : (∀ d ∈ Batch.delivered batches, i ∉ d.places) ↔
      i ∉ (batches.filter (·.Accepted)).flatMap Batch.places := by
    simp [← places]
  refine (mem_right_iff_of_perm once bound).trans ?_
  rw [← elsewhere]
  refine ⟨.inr, fun h => h.elim ?_ id⟩
  rintro ⟨checks, data, there, refused⟩ d accepted carries
  exact refused (dispatched.admits unsplit checks there ⟨d, accepted, carries⟩)

/-! ### A table without columns -/

/-- A table of receipts that have nothing but a number, in an engine that rejects the second
statement. -/
def receipts : Model Nat where
  schema := ⟨"receipts", [.id "id"], {}, 0⟩
  engine := fun _ n => (if n = 1 then .error ⟨"disk full"⟩ else .ok {}, n + 1)

/-- A world in which nothing was put to the engine. -/
def receiptsWorld : World Nat where
  engine := 0
  now := default

/-- The statement that inserts a receipt. -/
def newReceipt : Statement :=
  ⟨"INSERT INTO receipts DEFAULT VALUES", []⟩

theorem receipts_accounted :
    receipts.Follows (receipts.batchInsert [∅, ∅, ∅] {}) receiptsWorld fun xs result =>
      ∃ (batches : List Batch) (report : BulkReport), xs = batches.flatMap Batch.exchanges ∧
        result = .ok report ∧ report.created + report.errors.length = 3 := by
  refine (batch_accounts receipts [∅, ∅, ∅] rfl receiptsWorld).mono fun xs result => ?_
  rintro ⟨_, _, batches, report, -, -, said, ends, created, once, -⟩
  refine ⟨batches, report, said, ends, ?_⟩
  have all := once.length_eq
  rwa [← Batch.map_rows_flatMap, List.length_append, List.length_map, List.length_map,
    ← created] at all

/-- Three receipts are one chunk, and all of them are listed as the second statement is rejected. -/
theorem runs_receipts :
    ∃ w', Call.Runs receipts.engine (receipts.batchInsert [∅, ∅, ∅] {}) receiptsWorld
      [(newReceipt, .ok {}), (newReceipt, .error ⟨"disk full"⟩)]
      (.ok { errors :=
        Model.rowEntries [(0, ∅), (1, ∅), (2, ∅)] (receipts.failure newReceipt ⟨"disk full"⟩) })
      w' := by
  have ready : receipts.sendable {} (numbered 0
      (receipts.schema.completeEach receiptsWorld.now [∅, ∅, ∅] receiptsWorld.draws).1)
        = [(0, ∅), (1, ∅), (2, ∅)] := by decide +kernel
  have refused : receipts.refusals {} (numbered 0
      (receipts.schema.completeEach receiptsWorld.now [∅, ∅, ∅] receiptsWorld.draws).1) = [] := by
    decide +kernel
  have prepared := @Model.outcome_prepareRows _ receipts {} rfl [∅, ∅, ∅] 0 {} [] receiptsWorld
  dsimp only at prepared
  rw [ready, refused] at prepared
  -- All three rows are one chunk, and the second of its statements is rejected.
  generalize hfailures : Model.rowEntries [(0, ∅), (1, ∅), (2, ∅)]
    (receipts.failure newReceipt ⟨"disk full"⟩) = failures
  have chunk : Call.Runs receipts.engine
      (receipts.insertChunk {} [] {} [(0, ∅), (1, ∅), (2, ∅)]) receiptsWorld
      [(newReceipt, .ok {}), (newReceipt, .error ⟨"disk full"⟩)] (.ok { errors := failures })
      { receiptsWorld with engine := 2, trace := [.statement newReceipt, .statement newReceipt] } :=
    hfailures ▸ ⟨rfl, rfl, rfl, rfl, rfl⟩
  have ends : ∀ w : World Nat, Call.Runs receipts.engine
      (pure ({ errors := failures.mergeSort fun a b => a.index ≤ b.index } : BulkReport)) w []
      (.ok { errors := failures }) w := by
    rw [← hfailures, List.mergeSort_of_pairwise (by simp [Model.rowEntries])]
    exact fun w => .pure _ w
  have cut : chunksOf 99 [(0, (∅ : Record)), (1, ∅), (2, ∅)] = [[(0, ∅), (1, ∅), (2, ∅)]] := by
    simp [chunksOf]
  refine ⟨{ receiptsWorld with
    engine := 2, trace := [.statement newReceipt, .statement newReceipt] },
    (Call.Runs.quiet _ prepared).bind ?_⟩
  show Call.Runs receipts.engine
    ((chunksOf 99 [(0, ∅), (1, ∅), (2, ∅)]).foldlM (receipts.insertChunk {} []) {} >>= fun report =>
      pure { report with errors := report.errors.mergeSort fun a b => a.index ≤ b.index })
    receiptsWorld _ _ _
  rw [cut]
  exact (chunk.bind (.pure _ _)).bind (ends _)

/-- **A chunk that is accepted in part** is not counted, and listed as a whole: of three receipts
the engine takes the first and rejects the second, and the account says that none was inserted. -/
theorem receipts_split :
    ∃ report w', Call.Runs receipts.engine (receipts.batchInsert [∅, ∅, ∅] {}) receiptsWorld
      [(newReceipt, .ok {}), (newReceipt, .error ⟨"disk full"⟩)] (.ok report) w' ∧
      report.created = 0 ∧ report.errors.map (·.index) = [0, 1, 2] := by
  obtain ⟨w', run⟩ := runs_receipts
  exact ⟨_, w', run, rfl, rfl⟩

end RecordMapper
