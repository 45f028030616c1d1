import RecordMapper.Proofs.Failure
import RecordMapper.Proofs.Model.Runs
import RecordMapper.Proofs.Upsert.Engine

/-!
# Calls on a shared table

What a call of one client does to a table that other clients write to as well.

* `Call.Passes` is a run together with what it means for the table: the writes of everyone that were
  made from its beginning to its end, and whether an insertion of this client was accepted. Calls in
  a row pass in a row (`Call.Passes.bind`).
* `Model.passes_queryOne`, `Model.passes_insert` and `Model.passes_update` are the calls of a single
  statement. The last one shows that assigning a record to a row that has its key already is a write
  that respects the constraint.
-/

namespace RecordMapper

/-- Whether an exchange is an insertion that was accepted. -/
def accepted (x : Statement × Answer) : Bool :=
  x.1.isInsert && x.2.isOk

theorem accepted_error (s : Statement) (rejection : Rejection) :
    [(s, (.error rejection : Answer))].any accepted = false := by
  simp [accepted, Except.isOk, Except.toBool]

theorem accepted_ok (s : Statement) (reply : Reply) :
    [(s, (.ok reply : Answer))].any accepted = s.isInsert := by
  simp [accepted, Except.isOk, Except.toBool]

namespace Call

variable {σ α β : Type} {engine : Engine σ} {rows : σ → List Record} {k : UniqueKey}

/-- Whether an insertion of a call is accepted. -/
def inserts (engine : Engine σ) (c : Call σ α) (w : World σ) : Bool :=
  (engine.exchanges (c.issued w) w.engine).any accepted

/-- A run of a call on a table that others write to. -/
structure Passes (engine : Engine σ) (rows : σ → List Record) (k : UniqueKey) (c : Call σ α)
    (w : World σ) (inserted : Bool) (result : Except Error α) (w' : World σ) : Prop where
  /-- What is exchanged, and whether an insertion is accepted. -/
  runs : ∃ xs, Runs engine c w xs result w' ∧ xs.any accepted = inserted
  /-- The writes of everyone. -/
  steps : k.Steps (rows w.engine) (rows w'.engine)

namespace Passes

variable {c : Call σ α} {w w' w'' : World σ} {inserted more : Bool}

/-- A stage that says nothing to the engine. -/
theorem quiet (draws : Draws) {result : Except Error α}
    (h : c.outcome w = (result, { w with draws })) :
    Passes engine rows k c w false result { w with draws } :=
  ⟨⟨[], .quiet draws h, rfl⟩, .refl⟩

theorem pure (a : α) (w : World σ) : Passes engine rows k (pure a) w false (.ok a) w :=
  quiet w.draws rfl

theorem lift (result : Except Error α) (w : World σ) :
    Passes engine rows k (lift result) w false result w :=
  quiet w.draws (outcome_lift result w)

theorem clock (w : World σ) : Passes engine rows k Call.now w false (.ok w.now) w :=
  quiet w.draws rfl

/-- **A call passes after another.** -/
theorem bind {a : α} {f : α → Call σ β} {result : Except Error β}
    (hc : Passes engine rows k c w inserted (.ok a) w')
    (hf : Passes engine rows k (f a) w' more result w'') :
    Passes engine rows k (c >>= f) w (inserted || more) result w'' := by
  obtain ⟨xs, run, hx⟩ := hc.runs
  obtain ⟨ys, next, hy⟩ := hf.runs
  refine ⟨⟨xs ++ ys, run.bind next, ?_⟩, hc.steps.trans hf.steps⟩
  rw [List.any_append, hx, hy]

/-- A call after which nothing is inserted. -/
theorem bind_false {a : α} {f : α → Call σ β} {result : Except Error β}
    (hc : Passes engine rows k c w inserted (.ok a) w')
    (hf : Passes engine rows k (f a) w' false result w'') :
    Passes engine rows k (c >>= f) w inserted result w'' :=
  Bool.or_false inserted ▸ hc.bind hf

theorem bind_error {e : Error} (hc : Passes engine rows k c w inserted (.error e) w')
    (f : α → Call σ β) : Passes engine rows k (c >>= f) w inserted (.error e) w' := by
  obtain ⟨xs, run, hx⟩ := hc.runs
  exact ⟨⟨xs, run.bind_error f, hx⟩, hc.steps⟩

theorem attempt {result : Except Error α} (hc : Passes engine rows k c w inserted result w') :
    Passes engine rows k (attempt c) w inserted (.ok result) w' := by
  obtain ⟨xs, run, hx⟩ := hc.runs
  exact ⟨⟨xs, run.attempt, hx⟩, hc.steps⟩

variable {result : Except Error α}

theorem outcome (h : Passes engine rows k c w inserted result w') :
    c.outcome w = (result, w') := by
  obtain ⟨_, run, -⟩ := h.runs
  exact run.outcome

theorem now (h : Passes engine rows k c w inserted result w') : w'.now = w.now := by
  obtain ⟨_, run, -⟩ := h.runs
  exact run.now

theorem inserts (h : Passes engine rows k c w inserted result w') :
    c.inserts engine w = inserted := by
  obtain ⟨xs, run, hx⟩ := h.runs
  rw [Call.inserts, run.issued, hx]

theorem respects (h : Passes engine rows k c w inserted result w')
    (hr : k.Respects (rows w.engine)) : k.Respects (rows w'.engine) :=
  hr.steps h.steps

end Passes

end Call

/-! ## Writes of this client -/

/-- A row that is stored while no row carries the key of its record has keys of its own. -/
theorem Stores.respects {k : UniqueKey} {table : List Record} {data row : Record}
    {info : ReplyInfo} (h : Stores k table data info row) (hr : k.Respects table)
    (covers : ∀ column ∈ k.columns, column ∈ data.fields) (ordinary : k.primary ∉ k.columns)
    (free : ∀ other ∈ table, ¬ k.Clash data.bound other) : k.Respects (table ++ [row]) := by
  obtain ⟨v, hv, null, bound, fresh, -⟩ := h.primary
  refine hr.append hv null bound fresh fun other ho clash => free other ho ?_
  refine clash.congr fun column hc => (h.columns column (covers column hc) ?_).symm
  rintro rfl
  exact ordinary hc

/-- Assigning to a row the key that it has leaves every row its keys. -/
theorem Assigns.keeps {k : UniqueKey} {table : List Record} {id : Value} {set : Record}
    {f : Record → Record} (h : Assigns k id set f) (hr : k.Respects table) {row : Record}
    (there : row ∈ table) (carries : k.Carries row [(k.primary, id)])
    (primary : k.primary ∉ set.fields)
    (same : ∀ column ∈ k.columns,
      column ∈ set.fields ∧ k.cell set.bound column = k.cell row column) :
    ∀ other ∈ table, k.Keeps other (f other) := by
  intro other ho
  by_cases hc : k.Carries other [(k.primary, id)]
  · -- No other row has this primary key.
    obtain rfl := hr.eq_of_carries ho there hc carries
    refine ⟨h.rest other hc _ primary, fun column hm => ?_⟩
    obtain ⟨assigned, value⟩ := same column hm
    rw [h.columns other hc column assigned, value]
  · rw [h.others other hc]
    exact .refl k other

namespace Model

variable {σ : Type} {m : Model σ} {rows : σ → List Record} {k : UniqueKey} {w : World σ}

open Call

/-- A failure to insert a key that is taken is one. -/
theorem isDuplicateEntry_failure (m : Model σ) (s : Statement) {rejection : Rejection}
    (h : "UNIQUE constraint failed".toList <:+: rejection.message.toList) :
    (m.failure s rejection).isDuplicateEntry = true := by
  have kind := classify_of_unique h (some m.schema) m.settings.excerptLength.toNat s.sql
  simp [failure, Error.isDuplicateEntry, Error.kind?, kind]

/-- **Looking for a row.** -/
theorem passes_queryOne {wanted : Entries} (ne : wanted ≠ [])
    (values : ∀ entry ∈ wanted, entry.2.isNull = false)
    (h : Selects m.engine rows k (.selectRow m.table wanted) wanted)
    (hr : k.Respects (rows w.engine)) :
    ∃ found w', Passes m.engine rows k (m.fetch (m.queryOne wanted)) w false
        (.ok (found.map m.schema.hydrate)) w' ∧
      w'.draws = w.draws ∧
      ((found = [] ∧ ∀ row ∈ rows w'.engine, ¬ k.Carries row wanted) ∨
        ∃ row ∈ rows w'.engine, k.Carries row wanted ∧ found = [row]) := by
  obtain ⟨reply, next, answer, steps, found⟩ := h w.engine hr
  rw [← m.wire_queryOne ne values] at answer
  refine ⟨reply.rows, answered w _ next, ⟨⟨_, runs_fetch answer, ?_⟩, steps⟩, rfl, found⟩
  rw [accepted_ok, m.wire_queryOne ne values, Statement.isInsert_selectRow]

/-- What becomes of an insertion: some row carries the key, or the record is stored. -/
inductive Inserted (rows : List Record) (k : UniqueKey) (data : Record) :
    Bool → Except Error Reply → Prop
  /-- Some row carries the key. -/
  | taken {e : Error} (duplicate : e.isDuplicateEntry = true)
    (clash : ∃ row ∈ rows, k.Clash data.bound row) : Inserted rows k data false (.error e)
  /-- The record is stored. -/
  | stored {reply : Reply} {table : List Record} {row : Record} (last : rows = table ++ [row])
    (stores : Stores k table data reply.info row) : Inserted rows k data true (.ok reply)

/-- **Inserting a record.** -/
theorem passes_insert {data : Record} (constrained : k.columns ≠ [])
    (covers : ∀ column ∈ k.columns, column ∈ data.fields) (ordinary : k.primary ∉ k.columns)
    (h : Inserts m.engine rows k (.insertRow m.table data) data) (hr : k.Respects (rows w.engine)) :
    ∃ inserted result w',
      Passes m.engine rows k (m.execute (Insert.one m.table data).statement) w inserted result w' ∧
        Inserted (rows w'.engine) k data inserted result := by
  have some : data.isEmpty = false := by
    obtain ⟨column, hc⟩ := List.exists_mem_of_ne_nil _ constrained
    rw [Record.isEmpty_eq, List.isEmpty_eq_false_iff]
    exact List.ne_nil_of_mem (covers column hc)
  have spelled : (Insert.one m.table data).statement.wire = .insertRow m.table data :=
    Insert.wire_one some
  obtain ⟨table, steps, ⟨clash, rejection, next, answer, rfl, unique⟩ |
    ⟨free, reply, row, next, answer, last, stores⟩⟩ := h w.engine hr
  · rw [← spelled] at answer
    exact ⟨false, _, _, ⟨⟨_, runs_execute_rejected answer, accepted_error _ _⟩, steps⟩,
      .taken (isDuplicateEntry_failure m _ unique) clash⟩
  · rw [← spelled] at answer
    refine ⟨true, _, _, ⟨⟨_, runs_execute answer, ?_⟩, ?_⟩, .stored last stores⟩
    · rw [accepted_ok, spelled, Statement.isInsert_insertRow]
    · have respects := stores.respects (hr.steps steps) covers ordinary free
      show k.Steps (rows w.engine) (rows next)
      rw [last]
      exact steps.tail (.insert respects)

/-- **Assigning a record to a row**, where that leaves the row its key. -/
theorem passes_update {id : Value} {set : Record} {t : Template} (null : id.isNull = false)
    (ht : m.assignOne id set = .ok t)
    (h : Updates m.engine rows k (.updateRow m.table m.schema.keyName id set) id set)
    (hr : k.Respects (rows w.engine)) {row : Record} (there : row ∈ rows w.engine)
    (carries : k.Carries row [(k.primary, id)]) (primary : k.primary ∉ set.fields)
    (same : ∀ column ∈ k.columns,
      column ∈ set.fields ∧ k.cell set.bound column = k.cell row column) :
    ∃ reply w', Passes m.engine rows k (m.execute t.statement) w false (.ok reply) w' := by
  obtain ⟨table, f, steps, assigns, answer⟩ := h w.engine hr
  obtain ⟨row', there', keeps⟩ := UniqueKey.persists steps there
  have respects := hr.steps steps
  have carries' : k.Carries row' [(k.primary, id)] := by
    rw [UniqueKey.carries_primary, keeps.cell_primary]
    exact UniqueKey.carries_primary.1 carries
  have step : k.Step table (table.map f) := by
    refine .update f (assigns.keeps respects there' carries' primary fun column hc => ?_)
    rw [keeps.columns column hc]
    exact same column hc
  obtain ⟨reply, next, answer, last⟩ := answer (respects.step step)
  rw [← wire_assignOne null ht] at answer
  refine ⟨reply, _, ⟨⟨_, runs_execute answer, ?_⟩, ?_⟩⟩
  · rw [accepted_ok, wire_assignOne null ht, Statement.isInsert_updateRow]
  · show k.Steps (rows w.engine) (rows next)
    rw [last]
    exact steps.tail step

end Model

end RecordMapper
