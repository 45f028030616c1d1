import Mathlib.Data.List.Flatten
import Mathlib.Order.Bounds.Defs
import RecordMapper.Proofs.Bulk.Deliveries
import RecordMapper.Proofs.Bulk.Limits

/-!
# The layout of a batch

A batch insertion computes from the size of a chunk, from the limit on parameters and from the
number of columns how many rows go out in a statement.

* `Caps.Allows` are the numbers of rows that a statement may have, and `rowsPerStatement_greatest`
  says that the layout takes the greatest of them.
* `Statement.insertRows` is the text of an insertion with what it binds; `Model.wire_carrier`: it is
  what a batch sends.
* `Model.Sends`: chunks of rows are sent in turn; `Model.follows_layout` is this for the rows of a
  batch, whether failures are collected or the first one ends the operation.
* `batch_layout` is what every statement of a batch has.
-/

namespace RecordMapper

/-! ## Full chunks -/

/-- Every chunk but the last is full. -/
theorem length_of_mem_dropLast_chunksOf {α : Type} {size : Nat} {items chunk : List α}
    (h : chunk ∈ (chunksOf size items).dropLast) : chunk.length = size + 1 := by
  induction items using chunksOf.induct size with
  | case1 => simp [chunksOf] at h
  | case2 x rest ih =>
    rw [chunksOf] at h
    rcases later : chunksOf size (rest.drop size) with _ | ⟨next, more⟩
    · rw [later] at h
      cases h
    · rw [later, List.dropLast_cons_cons, ← later] at h
      rcases List.mem_cons.1 h with rfl | there
      · -- Something is left, so there were enough items.
        have left : rest.drop size ≠ [] := fun none => by
          rw [none, chunksOf] at later
          cases later
        have enough : size < rest.length := by simpa using left
        rw [List.length_cons, List.length_take, Nat.min_eq_left (Nat.le_of_lt enough)]
      · exact ih there

/-- Where chunks break off, every one but the last is full. -/
theorem length_of_mem_dropLast_prefix {α : Type} {size : Nat} {items chunk : List α}
    {begun : List (List α)} (h : begun <+: chunksOf size items) (mem : chunk ∈ begun.dropLast) :
    chunk.length = size + 1 := by
  obtain ⟨more, whole⟩ := h
  have there : chunk ∈ (chunksOf size items).dropLast := by
    rw [← whole]
    rcases more.eq_nil_or_concat with rfl | ⟨more, x, rfl⟩
    · rwa [List.append_nil]
    · rw [List.concat_eq_append, ← List.append_assoc, List.dropLast_concat]
      exact List.mem_append_left _ (List.mem_of_mem_dropLast mem)
  exact length_of_mem_dropLast_chunksOf there

/-! ## Caps -/

/-- The caps on a statement that inserts rows. -/
structure Caps where
  /-- How many rows a chunk may have. -/
  size : Nat
  /-- How many parameters a statement may bind. -/
  limit : Nat
  /-- How many columns there are. -/
  columns : Nat

/-- The caps allow a statement with a number of rows. -/
structure Caps.Allows (caps : Caps) (n : Nat) : Prop where
  /-- No statement is without a row. -/
  some : 0 < n
  /-- The rows are of one chunk. -/
  few : n ≤ caps.size
  /-- Their parameters are within the limit, which a single row may pass. -/
  bound : n * caps.columns ≤ caps.limit ∨ n = 1

/-- Where some rows are allowed, fewer of them are. -/
theorem Caps.Allows.of_le {caps : Caps} {n k : Nat} (h : caps.Allows n) (some : 0 < k)
    (le : k ≤ n) : caps.Allows k where
  some := some
  few := le.trans h.few
  bound := h.bound.imp (Nat.mul_le_mul_right _ le).trans (by omega)

section

variable (size maxParameters : UInt64) (columns : List String)

/-- **The layout keeps the caps**, also where the limit is less than the number of columns. -/
theorem rowsPerStatement_allowed :
    Caps.Allows ⟨max size.toNat 1, maxParameters.toNat, columns.length⟩
      (Model.rowsPerStatement size maxParameters columns) := by
  have divisor : 0 < max columns.length 1 := by omega
  obtain ⟨budget, hbudget⟩ : ∃ budget, budget = maxParameters.toNat / max columns.length 1 :=
    ⟨_, rfl⟩
  have rows : Model.rowsPerStatement size maxParameters columns
      = max (min (max size.toNat 1) budget) 1 := by rw [hbudget]; rfl
  have spent : budget * columns.length ≤ maxParameters.toNat :=
    calc budget * columns.length ≤ budget * max columns.length 1 :=
          Nat.mul_le_mul_left _ (Nat.le_max_left ..)
      _ ≤ maxParameters.toNat := hbudget ▸ Nat.div_mul_le_self ..
  rw [rows]
  refine ⟨by omega, by dsimp only; omega, ?_⟩
  rcases Nat.lt_or_ge 1 (min (max size.toNat 1) budget) with more | one
  · refine .inl ((Nat.mul_le_mul_right _ ?_).trans spent)
    omega
  · exact .inr (by omega)

/-- **The layout uses the caps up**, where there is a column. -/
theorem rowsPerStatement_greatest {columns : List String} (columned : columns ≠ []) :
    IsGreatest {n | Caps.Allows ⟨max size.toNat 1, maxParameters.toNat, columns.length⟩ n}
      (Model.rowsPerStatement size maxParameters columns) := by
  refine ⟨rowsPerStatement_allowed size maxParameters columns, fun n allowed => ?_⟩
  have positive : 0 < columns.length := List.length_pos_of_ne_nil columned
  have rows : Model.rowsPerStatement size maxParameters columns
      = max (min (max size.toNat 1) (maxParameters.toNat / max columns.length 1)) 1 := rfl
  rw [rows, Nat.max_eq_left positive]
  have few := allowed.few
  dsimp only at few
  rcases allowed.bound with bound | one
  · have fits : n ≤ maxParameters.toNat / columns.length :=
      (Nat.le_div_iff_mul_le positive).2 bound
    omega
  · omega

end

/-! ## Statements -/

/-- Inserts rows over some columns, null where a row lacks one; without columns, everything is left
to the defaults. -/
def Statement.insertRows (table : String) (columns : List String) (rows : List Record) :
    Statement where
  sql := "INSERT INTO " ++ table ++
    if columns = [] then " DEFAULT VALUES"
    else " (" ++ ", ".intercalate columns ++ ") VALUES " ++ ", ".intercalate
      (List.replicate rows.length
        ("(" ++ ", ".intercalate (List.replicate columns.length "?") ++ ")"))
  params := rows.flatMap fun row => columns.map fun c => ((row.get? c).getD .null).param

/-- An insertion binds a tuple for each row. -/
theorem Statement.length_params_insertRows (table : String) (columns : List String)
    (rows : List Record) :
    (insertRows table columns rows).params.length = rows.length * columns.length := by
  simp [insertRows, List.length_flatMap]

theorem Insert.wire_many_eq (table : String) {columns : List String} (columned : columns ≠ [])
    (rows : List Record) :
    (many table columns rows).statement.wire = .insertRows table columns rows := by
  have tuples : (rows.map fun row => tuple (rowValues columns row)).map Template.sql
      = List.replicate rows.length
          ("(" ++ ", ".intercalate (List.replicate columns.length "?") ++ ")") := by
    rw [List.map_map]
    refine List.eq_replicate_iff.2 ⟨by simp, fun text htext => ?_⟩
    obtain ⟨row, -, rfl⟩ := List.mem_map.1 htext
    simp only [Function.comp_apply, tuple, Template.sql_append, Template.sql_raw,
      Template.sql_join, Template.map_sql_bind, rowValues, List.length_map]
  have sql : (many table columns rows).sql = (Statement.insertRows table columns rows).sql := by
    rw [many, Template.sql_append, Template.sql_raw, Template.sql_join, tuples,
      Statement.insertRows, if_neg columned]
    simp only [String.append_assoc]
  have params : (many table columns rows).params.map Value.param
      = (Statement.insertRows table columns rows).params := by
    simp only [params_many, List.map_flatMap, rowValues, List.map_map]
    rfl
  rw [Statement.wire, Template.statement, sql, params]

namespace Model

variable {σ : Type} {m : Model σ} {columns : List String}

/-- The statement that carries a load inserts the rows of the load. -/
theorem wire_carrier (m : Model σ) (columns : List String) (load : List (Nat × Record)) :
    (m.carrier columns load).wire = .insertRows m.table columns (load.map (·.2)) := by
  unfold carrier
  by_cases none : columns = []
  · have params : (Statement.insertRows m.table columns (load.map (·.2))).params = [] := by
      simp [Statement.insertRows, none]
    have sql : (Statement.insertRows m.table columns (load.map (·.2))).sql
        = "INSERT INTO " ++ m.table ++ " DEFAULT VALUES" := by
      rw [Statement.insertRows, if_pos none]
    have empty : Insert.one m.table Record.empty
        = .raw ("INSERT INTO " ++ m.table ++ " DEFAULT VALUES") := if_pos rfl
    rw [if_pos none, empty, Statement.wire, Template.statement, Template.sql_raw, ← sql,
      Template.params_raw, List.map_nil, ← params]
  · rw [if_neg none, Insert.wire_many_eq _ none]

/-- The loads of chunks have the rows of the chunks. -/
theorem flatten_flatMap_loads (columns : List String) (chunks : List (List (Nat × Record))) :
    (chunks.flatMap (loads columns)).flatten = chunks.flatten := by
  induction chunks with
  | nil => rfl
  | cons chunk rest ih =>
    rw [List.flatMap_cons, List.flatten_append, flatten_loads, ih, List.flatten_cons]

/-! ## Sent loads -/

namespace Sent

variable {ls : List (List (Nat × Record))} {ds : List Delivery}

/-- Loads are sent from the first one on. -/
theorem rows_inTurn (h : m.Sent columns ls ds) : ds.map Delivery.rows <+: ls := by
  induction h with
  | none => exact List.prefix_rfl
  | accepted reply more ih => exact List.cons_prefix_cons.2 ⟨rfl, ih⟩
  | rejected r => exact List.cons_prefix_cons.2 ⟨rfl, List.nil_prefix⟩

/-- The statements insert what they carry. -/
theorem statement_eq (h : m.Sent columns ls ds) :
    ∀ d ∈ ds, d.statement = .insertRows m.table columns (d.rows.map (·.2)) := by
  induction h with
  | none => simp
  | accepted reply more ih => exact List.forall_mem_cons.2 ⟨wire_carrier _ _ _, ih⟩
  | rejected r => exact List.forall_mem_singleton.2 (wire_carrier _ _ _)

/-- A single load is sent. -/
theorem rows_singleton {load : List (Nat × Record)} (h : m.Sent columns [load] ds) :
    ds.map Delivery.rows = [load] := by
  cases h with
  | accepted reply more => cases more; rfl
  | rejected r => rfl

end Sent

/-! ## The chunks of a batch -/

/-- Rows are completed and checked before anything is put to the engine. -/
theorem follows_sendable (m : Model σ) (options : BulkOptions) (rows : List Record) :
    ∀ place report ready (w : World σ),
      m.Follows ((numbered place rows).foldlM (m.prepareRow options) (report, ready)) w
        fun xs result => xs = [] ∧ ∀ state, result = .ok state →
          state.2 = ready ++
            m.sendable options (numbered place (m.schema.completeEach w.now rows w.draws).1) := by
  induction rows with
  | nil =>
    intro place report ready w
    refine .pure ⟨rfl, fun state ends => ?_⟩
    cases ends
    simp [Schema.completeEach, sendable, Schema.ready]
  | cons data rest ih =>
    intro place report ready w
    obtain ⟨row, draws, completed⟩ : ∃ row draws,
      m.schema.complete w.now data w.draws = (row, draws) := ⟨_, _, rfl⟩
    have later : m.schema.completeEach w.now (data :: rest) w.draws
        = (row :: (m.schema.completeEach w.now rest draws).1,
            (m.schema.completeEach w.now rest draws).2) := by
      rw [Schema.completeEach, completed]
    rw [numbered_cons, List.foldlM_cons, prepareRow, bind_assoc, later, numbered_cons]
    refine .prepareInsert_bind ?_
    rw [completed]
    dsimp only
    have checkRow_def : m.checkRow options row
      = if options.validate then m.schema.validate .create row else .ok () := rfl
    rw [← checkRow_def]
    cases checked : m.checkRow options row with
    | ok _ =>
      obtain ⟨sent, -⟩ := @prepared_of_ok σ m options (place, row) checked
        (numbered (place + 1) (m.schema.completeEach w.now rest draws).1)
      rw [sent]
      simp only [pure_bind]
      refine (ih _ _ _ _).mono fun xs result h => ⟨h.1, fun state ends => ?_⟩
      rw [h.2 state ends, List.append_assoc, List.singleton_append]
    | error e =>
      obtain ⟨sent, -⟩ := @prepared_of_error σ m options (place, row) e checked
        (numbered (place + 1) (m.schema.completeEach w.now rest draws).1)
      rw [sent]
      dsimp only
      rw [bind_assoc]
      refine .lift_bind (fun _ _ => ⟨rfl, fun _ ends => by cases ends⟩) fun report _ => ?_
      rw [pure_bind]
      exact ih _ _ _ _

/-- Chunks of rows are sent from the first one on, and all of them where the operation does not
fail. -/
structure Sends (m : Model σ) (columns : List String) (chunks : List (List (Nat × Record)))
    (batches : List Batch) (xs : Conversation) (result : Except Error BulkReport) : Prop where
  said : xs = batches.flatMap Batch.exchanges
  inTurn : batches.map Batch.rows <+: chunks
  sent : ∀ b ∈ batches, m.Sent columns (loads columns b.rows) b.deliveries
  all : (∃ report, result = .ok report) → batches.map Batch.rows = chunks

/-- **Chunks of rows are sent** one after another. -/
theorem follows_chunks (m : Model σ) (options : BulkOptions) (columns : List String)
    (chunks : List (List (Nat × Record))) :
    ∀ report w, m.Follows (chunks.foldlM (m.insertChunk options columns) report) w
      fun xs result => ∃ batches, m.Sends columns chunks batches xs result := by
  induction chunks with
  | nil => exact fun report w => .pure ⟨[], rfl, List.prefix_rfl, by simp, fun _ => rfl⟩
  | cons chunk rest ih =>
    intro report w
    have next : ∀ {ds : List Delivery} {batches : List Batch} {ys : Conversation}
        {result : Except Error BulkReport}, m.Sent columns (loads columns chunk) ds →
        m.Sends columns rest batches ys result →
        m.Sends columns (chunk :: rest) (⟨chunk, ds⟩ :: batches)
          (ds.map Delivery.exchange ++ ys) result := fun sent h =>
      ⟨by rw [h.said, List.flatMap_cons, Batch.exchanges],
        List.cons_prefix_cons.2 ⟨rfl, h.inTurn⟩, List.forall_mem_cons.2 ⟨sent, h.sent⟩,
        fun ends => by rw [List.map_cons, h.all ends]⟩
    rw [List.foldlM_cons, insertChunk, batchStatements_eq, bind_assoc]
    refine .attempt_bind (m.follows_loads columns (loads columns chunk) w) ?_
    rintro ys ends w' ⟨ds, rfl, sent, ⟨rfl, -⟩ | ⟨⟨e, rfl⟩, -⟩⟩ -
    · rw [pure_bind]
      refine (ih _ w').mono ?_
      rintro zs result ⟨batches, h⟩
      exact ⟨_, next sent h⟩
    · refine .lift_bind (fun e' _ => ?_) fun failed _ => ?_
      · refine ⟨[⟨chunk, ds⟩], ?_, List.cons_prefix_cons.2 ⟨rfl, List.nil_prefix⟩,
          List.forall_mem_singleton.2 sent, ?_⟩
        · rw [List.append_nil, List.flatMap_singleton, Batch.exchanges]
        · rintro ⟨_, ends⟩
          cases ends
      · refine (ih _ w').mono ?_
        rintro zs result ⟨batches, h⟩
        exact ⟨_, next sent h⟩

/-- The caps on the statements of a batch. -/
def caps (m : Model σ) (options : BulkOptions) (columns : List String) : Caps :=
  ⟨options.size m.settings.bulk.insertChunk, m.settings.maxParameters.toNat, columns.length⟩

/-- A statement of a batch inserts its rows, within the caps. -/
structure Inserts (m : Model σ) (options : BulkOptions) (columns : List String) (d : Delivery) :
    Prop where
  /-- It has a tuple for each row. -/
  statement : d.statement = .insertRows m.table columns (d.rows.map (·.2))
  /-- There is a row. -/
  some : d.rows ≠ []
  /-- There are not more rows than a chunk has. -/
  few : d.rows.length ≤ options.size m.settings.bulk.insertChunk
  /-- It binds a parameter for each column of each row. -/
  params : d.statement.params.length = d.rows.length * columns.length
  /-- These are within the limit of the engine, unless there is only one row. -/
  limit : d.statement.params.length ≤ m.settings.maxParameters.toNat ∨ d.rows.length = 1
  /-- Where there is no column, there is only one row. -/
  single : columns = [] → d.rows.length = 1

variable {options : BulkOptions}

theorem Inserts.of_allowed {d : Delivery}
    (statement : d.statement = .insertRows m.table columns (d.rows.map (·.2)))
    (allowed : (m.caps options columns).Allows d.rows.length)
    (single : columns = [] → d.rows.length = 1) : m.Inserts options columns d := by
  have params : d.statement.params.length = d.rows.length * columns.length := by
    rw [statement, Statement.length_params_insertRows, List.length_map]
  exact ⟨statement, List.ne_nil_of_length_pos allowed.some, allowed.few, params,
    params ▸ allowed.bound, single⟩

variable {batches : List Batch} {xs : Conversation} {result : Except Error BulkReport}
  {chunks : List (List (Nat × Record))}

namespace Sends

/-- Where there is a column, every statement carries a chunk. -/
theorem rows_eq (h : m.Sends columns chunks batches xs result) (columned : columns ≠ []) :
    (batches.flatMap Batch.deliveries).map Delivery.rows = batches.map Batch.rows := by
  rw [List.map_flatMap, List.map_eq_flatMap]
  refine List.flatMap_congr fun b mem => ?_
  have single := h.sent b mem
  rw [loads, if_neg columned] at single
  exact single.rows_singleton

/-- The statements carry the loads of the chunks, in order. -/
theorem rows_sublist (h : m.Sends columns chunks batches xs result) :
    ((batches.flatMap Batch.deliveries).map Delivery.rows).Sublist
      (chunks.flatMap (loads columns)) := by
  have sent : ((batches.flatMap Batch.deliveries).map Delivery.rows).Sublist
      ((batches.map Batch.rows).flatMap (loads columns)) := by
    rw [List.map_flatMap, List.flatMap_map]
    exact .flatMap_right _ fun b mem => (h.sent b mem).rows_inTurn.sublist
  exact sent.trans (h.inTurn.sublist.flatMap _)

/-- The statements insert what they carry. -/
theorem statement_eq (h : m.Sends columns chunks batches xs result) :
    ∀ d ∈ batches.flatMap Batch.deliveries,
      d.statement = .insertRows m.table columns (d.rows.map (·.2)) := by
  intro d mem
  obtain ⟨b, there, mem⟩ := List.mem_flatMap.1 mem
  exact (h.sent b there).statement_eq d mem

/-- Of chunks that the caps allow, every statement inserts its rows within the caps. -/
theorem inserts {items : List (Nat × Record)} {size : Nat}
    (h : m.Sends columns (chunksOf size items) batches xs result)
    (allowed : (m.caps options columns).Allows (size + 1)) :
    ∀ d ∈ batches.flatMap Batch.deliveries, m.Inserts options columns d := by
  intro d mem
  obtain ⟨chunk, there, load⟩ :=
    List.mem_flatMap.1 (h.rows_sublist.subset (List.mem_map_of_mem mem))
  have some := List.length_pos_of_ne_nil (ne_nil_of_mem_chunksOf there)
  unfold loads at load
  split at load
  · next none =>
    obtain ⟨row, -, single⟩ := List.mem_map.1 load
    have one : d.rows.length = 1 := by rw [← single, List.length_singleton]
    exact .of_allowed (h.statement_eq d mem)
      (allowed.of_le (by omega) (by omega)) fun _ => one
  · next columned =>
    have whole : d.rows = chunk := List.mem_singleton.1 load
    rw [← whole] at some there
    exact .of_allowed (h.statement_eq d mem)
      (allowed.of_le some (length_of_mem_chunksOf there)) fun none => absurd none columned

/-- Where there is a column, every statement but the last has the rows of a full chunk. -/
theorem length_rows {items : List (Nat × Record)} {size : Nat}
    (h : m.Sends columns (chunksOf size items) batches xs result) (columned : columns ≠ []) :
    ∀ d ∈ (batches.flatMap Batch.deliveries).dropLast, d.rows.length = size + 1 := by
  intro d mem
  refine length_of_mem_dropLast_prefix h.inTurn ?_
  rw [← h.rows_eq columned, ← List.map_dropLast]
  exact List.mem_map_of_mem mem

end Sends

/-- **Rows go out in chunks** of the size that the layout computes. -/
theorem follows_layout (m : Model σ) (rows : List Record) (options : BulkOptions) (w : World σ)
    {ready : List (Nat × Record)} {size : Nat}
    (hready : ready = m.sendable options (numbered 0 (m.schema.completeEach w.now rows w.draws).1))
    (hcolumns : columns = columnsOf (ready.map (·.2)))
    (hsize : size = rowsPerStatement (options.chunkSize.getD m.settings.bulk.insertChunk)
      m.settings.maxParameters columns) :
    m.Follows (m.batchInsert rows options) w fun xs result =>
      ∃ batches, m.Sends columns (chunksOf (size - 1) ready) batches xs result := by
  rw [batchInsert]
  refine (m.follows_sendable options rows 0 {} [] w).bind ?_ ?_
  · rintro xs e ⟨rfl, -⟩
    refine ⟨[], rfl, List.nil_prefix, by simp, ?_⟩
    rintro ⟨_, ends⟩
    cases ends
  rintro xs ⟨report, there⟩ w' ⟨rfl, ends⟩ -
  have same : there = ready := (ends _ rfl).trans hready.symm
  dsimp only
  rw [same, ← hcolumns, ← hsize]
  refine (m.follows_chunks options columns (chunksOf (size - 1) ready) report w').bind
    (fun xs e h => h) ?_
  rintro xs after w'' ⟨batches, h⟩ -
  exact .pure ⟨batches, by rw [List.append_nil]; exact h.said, h.inTurn, h.sent,
    fun _ => h.all ⟨after, rfl⟩⟩

end Model

/-- **The layout of a batch.** Rows are inserted in batches, into any table and with any sizes and
limits, zero among them, and the engine answers as it likes. The rows that are ready go out in
order, over the columns that any of them has, and every statement inserts at least one of them,
within the caps: not more than a chunk has, and with not more parameters than the engine accepts
unless the row is a single one. Where there is a column, every statement but the last has the
greatest number of rows that the caps allow, and none is left out unless the operation fails.

The number comes from a division by a positive number and is itself positive, so that there is
always something to cut off. -/
theorem batch_layout {σ : Type} (m : Model σ) (rows : List Record) (options : BulkOptions)
    (w : World σ) :
    m.Follows (m.batchInsert rows options) w fun xs result =>
      ∃ (ready : List (Nat × Record)) (columns : List String) (caps : Caps) (size divisor : Nat)
        (ds : List Delivery),
        ready = m.sendable options (numbered 0 (m.schema.completeEach w.now rows w.draws).1) ∧
        columns = Model.columnsOf (ready.map (·.2)) ∧ caps = m.caps options columns ∧
        size = Model.rowsPerStatement (options.chunkSize.getD m.settings.bulk.insertChunk)
          m.settings.maxParameters columns ∧
        size = max (min caps.size (caps.limit / divisor)) 1 ∧ 0 < divisor ∧ 0 < size ∧
        xs = ds.map Delivery.exchange ∧ (ds.flatMap Delivery.rows).Sublist ready ∧
        (∀ d ∈ ds, m.Inserts options columns d) ∧
        (columns ≠ [] → ∀ d ∈ ds.dropLast, IsGreatest {n | caps.Allows n} d.rows.length) ∧
        (columns ≠ [] → (∃ report, result = .ok report) → ds.flatMap Delivery.rows = ready) := by
  obtain ⟨ready, hready⟩ : ∃ ready, ready
    = m.sendable options (numbered 0 (m.schema.completeEach w.now rows w.draws).1) := ⟨_, rfl⟩
  obtain ⟨columns, hcolumns⟩ : ∃ columns, columns = Model.columnsOf (ready.map (·.2)) := ⟨_, rfl⟩
  obtain ⟨size, hsize⟩ : ∃ size, size = Model.rowsPerStatement
    (options.chunkSize.getD m.settings.bulk.insertChunk) m.settings.maxParameters columns :=
    ⟨_, rfl⟩
  have allowed : (m.caps options columns).Allows size :=
    hsize ▸ rowsPerStatement_allowed _ _ columns
  have full : size - 1 + 1 = size := Nat.sub_add_cancel allowed.some
  refine (m.follows_layout rows options w hready hcolumns hsize).mono ?_
  rintro xs result ⟨batches, h⟩
  refine ⟨ready, columns, _, size, max columns.length 1, batches.flatMap Batch.deliveries, hready,
    hcolumns, rfl, hsize, hsize, by omega, allowed.some, ?_, ?_, h.inserts (full ▸ allowed), ?_, ?_⟩
  · rw [h.said, List.map_flatMap]
    rfl
  · have carried := h.rows_sublist.flatten
    rwa [Model.flatten_flatMap_loads, flatten_chunksOf, ← List.flatMap_def] at carried
  · intro columned d mem
    rw [h.length_rows columned d mem, full, hsize]
    exact rowsPerStatement_greatest _ _ columned
  · intro columned ends
    rw [List.flatMap_def, h.rows_eq columned, h.all ends, flatten_chunksOf]

end RecordMapper
