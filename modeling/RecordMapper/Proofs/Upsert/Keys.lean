import RecordMapper.Proofs.Upsert.Outcomes
import RecordMapper.Proofs.Upsert.Passes
import RecordMapper.Proofs.Upsert.Setting

/-!
# Upserting by a primary key

What becomes of an upsert by a primary key that a row of the table has already.

Three statements see the key: the lookup passes over rows that are marked as deleted, but neither
the constraint of the table nor the reading of a row that was written does.

* `KeepsRows` is an engine that keeps a table for one client, and `Model.KeySetting` puts a model, a
  record and such an engine together.
* `Model.FindsAgain`: a row is found again by its key as that is read. This is so for every kind of
  key that reading leaves as it is (`Model.findsAgain_of_kind`).
* `Model.KeySetting.runs_applyUpdate` and `Model.KeySetting.runs_create` are the two ways to go on
  after the lookup.
* `existing_key_is_updated`: a row that the lookup sees is updated, and nothing is inserted.
* `hidden_key_is_refused`: for a row that the lookup passes over, the upsert ends with a duplicate
  entry, and `deleted_note_is_refused` is such a row.
-/

namespace RecordMapper

variable {σ : Type}

/-! ## The engine -/

/-- Selects the row of a primary key, unless it is marked as deleted. -/
def Statement.selectAlive (table primary : String) (id : Value) : Statement where
  sql := "SELECT * FROM " ++ table ++ " WHERE " ++ primary
    ++ " = ? AND deleted_at IS NULL LIMIT 1"
  params := [id.param]

namespace Statement

theorem sql_selectAlive (table primary : String) (id : Value) :
    (selectAlive table primary id).sql = "SELECT * FROM " ++ table ++ " WHERE " ++ primary
      ++ " = ? AND deleted_at IS NULL LIMIT 1" := rfl

theorem keyword_selectAlive (table primary : String) (id : Value) :
    (selectAlive table primary id).keyword = "SELECT" := by
  refine keyword_eq ?_ (by decide)
  simp only [sql_selectAlive, String.toList_append, List.append_assoc]
  exact ⟨_, rfl⟩

theorem selectAlive_ne_selectRow (table primary : String) (id : Value) :
    (selectAlive table primary id).sql ≠ (selectRow table [(primary, .null)]).sql := by
  have single : " AND ".intercalate (assignments [primary]) = primary ++ " = ?" :=
    String.intercalate_singleton
  have text : (selectRow table [(primary, .null)]).sql = "SELECT * FROM " ++ table ++ " WHERE "
      ++ " AND ".intercalate (assignments [primary]) ++ " LIMIT 1" := rfl
  have shown : (selectRow table [(primary, .null)]).sql
      = "SELECT * FROM " ++ table ++ " WHERE " ++ primary ++ (" = ?" ++ " LIMIT 1") := by
    rw [text, single]
    simp only [String.append_assoc]
  rw [shown]
  intro same
  exact absurd ((String.append_right_inj _).1 same) (by decide)

end Statement

/-- What a search of a table gives: a row that meets a condition, if there is one. -/
inductive Sighted (table : List Record) (P : Record → Prop) : Option Record → Prop
  /-- There is none. -/
  | missed (absent : ∀ row ∈ table, ¬ P row) : Sighted table P none
  /-- There is one. -/
  | seen {row : Record} (there : row ∈ table) (meets : P row) : Sighted table P (some row)

/-- Answers with a row that meets a condition, if there is one, and writes nothing. -/
def Finds (engine : Engine σ) (rows : σ → List Record) (s : Statement) (P : Record → Prop) : Prop :=
  ∀ state, ∃ reply found next, engine s state = (.ok reply, next) ∧ rows next = rows state ∧
    reply.rows = found.toList ∧ Sighted (rows state) P found

/-- An engine that keeps a table for one client, which `rows` reads from its state; `inserted` and
`assigned` are the records of the client. -/
structure KeepsRows (engine : Engine σ) (table : String) (rows : σ → List Record) (k : UniqueKey)
    (inserted assigned : Record) : Prop where
  /-- The row of a primary key is found. -/
  select : ∀ id : Value, id.isNull = false →
    Finds engine rows (.selectRow table [(k.primary, id)]) (k.Carries · [(k.primary, id)])
  /-- It is found if it is not marked as deleted. -/
  selectAlive : ∀ id : Value, id.isNull = false →
    Finds engine rows (.selectAlive table k.primary id) fun row =>
      k.Carries row [(k.primary, id)] ∧ row.isUnset deletedAt = true
  /-- A record with a primary key that some row has, deleted or not, is not inserted. -/
  insert : ∀ id state, k.Carries inserted.bound [(k.primary, id)] →
    k.Taken (rows state) [(k.primary, id)] →
      ∃ rejection next, engine (.insertRow table inserted) state = (.error rejection, next) ∧
        rows next = rows state ∧ "UNIQUE constraint failed".toList <:+: rejection.message.toList
  /-- A record is assigned to the row of a primary key. -/
  update : ∀ id : Value, id.isNull = false → ∀ state,
    ∃ f reply next, Assigns k id assigned f ∧
      engine (.updateRow table k.primary id assigned) state = (.ok reply, next) ∧
        rows next = (rows state).map f

/-! ## Rows of a table -/

namespace Assigns

variable {k : UniqueKey} {table : List Record} {id other : Value} {set row : Record}
  {f : Record → Record}

/-- A record without a primary key changes none. -/
theorem cell_primary (h : Assigns k id set f) (primary : k.primary ∉ set.fields) (row : Record) :
    k.cell (f row) k.primary = k.cell row k.primary := by
  by_cases hc : k.Carries row [(k.primary, id)]
  · rw [UniqueKey.cell, UniqueKey.cell, h.rest row hc _ primary]
  · rw [h.others row hc]

/-- Values that one row carries as its key are the same key. -/
theorem of_carries (h : Assigns k id set f) (hc : k.Carries row [(k.primary, id)])
    (hc' : k.Carries row [(k.primary, other)]) : Assigns k other set f := by
  have same : k.norm id.param = k.norm other.param := by
    rw [← Option.some_inj, ← UniqueKey.carries_primary.1 hc, ← UniqueKey.carries_primary.1 hc']
  have alike (r : Record) : k.Carries r [(k.primary, other)] ↔ k.Carries r [(k.primary, id)] := by
    rw [UniqueKey.carries_primary, UniqueKey.carries_primary, same]
  exact ⟨fun r hr => h.others r fun hi => hr ((alike r).2 hi),
    fun r hr => h.columns r ((alike r).1 hr), fun r hr => h.rest r ((alike r).1 hr)⟩

/-- **The row that was assigned to** is the one that is found then. -/
theorem sighted (h : Assigns k id set f) (primary : k.primary ∉ set.fields)
    (hr : k.Respects table) (there : row ∈ table) (hc : k.Carries row [(k.primary, id)])
    {found : Option Record}
    (sighted : Sighted (table.map f) (k.Carries · [(k.primary, id)]) found) :
    found = some (f row) := by
  cases sighted with
  | missed absent =>
    refine absurd (UniqueKey.carries_primary.2 ?_) (absent _ (List.mem_map_of_mem there))
    rw [h.cell_primary primary, UniqueKey.carries_primary.1 hc]
  | seen there' meets =>
    obtain ⟨row', hrow', rfl⟩ := List.mem_map.1 there'
    -- No other row has this primary key.
    have carried : k.Carries row' [(k.primary, id)] := by
      rw [UniqueKey.carries_primary, ← h.cell_primary primary, UniqueKey.carries_primary.1 meets]
    rw [hr.eq_of_carries hrow' there carried hc]

end Assigns

namespace Model

variable {m : Model σ} {rows : σ → List Record} {k : UniqueKey} {id : Value} {data : Record}
  {w w₁ : World σ} {row : Record}

open Call

/-- A row that the operations which look for rows can see. -/
def Visible (m : Model σ) (row : Record) : Prop :=
  m.schema.hidesDeleted = true → row.isUnset deletedAt = true

/-- The key of a row is read as a value by which the row is found. -/
def FindsAgain (m : Model σ) (k : UniqueKey) (row : Record) : Prop :=
  ∃ v, (m.schema.hydrate row).get? k.primary = some v ∧ v.isNull = false ∧
    k.Carries row [(k.primary, v)]

/-- Keys that are read as they are stored are found again. -/
theorem findsAgain_of_kind {table : List Record} (hr : k.Respects table) (there : row ∈ table)
    (plain : ∀ f, m.schema.field? k.primary = some f → f.kind ≠ .boolean ∧ f.kind ≠ .json) :
    m.FindsAgain k row := by
  obtain ⟨v, hv, null, bound⟩ := hr.primary row there
  refine ⟨v, by rw [Schema.get?_hydrate plain, hv], null, ?_⟩
  rw [UniqueKey.carries_primary, UniqueKey.cell_eq_some hv null, bound]

/-! ## The statements -/

theorem isNull_of_checkIdentifier (h : m.checkIdentifier id = .ok ()) : id.isNull = false := by
  cases id with
  | null =>
    -- No table has null for a key, be its rows numbered or not.
    unfold checkIdentifier at h
    cases numbered : m.schema.key.autoIncrement <;> simp [numbered, Value.isNull] at h
  | _ => rfl

theorem wire_selectById (null : id.isNull = false) :
    m.selectById id = .selectRow m.table [(m.schema.keyName, id)] := by
  have plain : { m.query.addCondition (.eq m.schema.keyName id) with limit := some 1 }
      = m.queryOne [(m.schema.keyName, id)] := rfl
  rw [selectById, plain, wire_queryOne (List.cons_ne_nil _ _) (by simpa using null)]

theorem wire_selectKey (null : id.isNull = false) (shows : m.schema.hidesDeleted = false) :
    m.selectOne [.eq m.schema.keyName id] = .selectRow m.table [(m.schema.keyName, id)] := by
  have plain : m.rowOf [.eq m.schema.keyName id] = m.queryOne [(m.schema.keyName, id)] := by
    rw [rowOf, shows]
    rfl
  rw [selectOne, plain, wire_queryOne (List.cons_ne_nil _ _) (by simpa using null)]

theorem wire_selectAlive (null : id.isNull = false) (hides : m.schema.hidesDeleted = true) :
    m.selectOne [.eq m.schema.keyName id] = .selectAlive m.table m.schema.keyName id := by
  have conditions : m.rowOf [.eq m.schema.keyName id] = { m.query with
      conditions := [.eq m.schema.keyName id, .isNull deletedAt], limit := some 1 } := by
    rw [rowOf, hides]
    rfl
  have conjunction : Filter.conjunction [.eq m.schema.keyName id, .isNull deletedAt]
      = .raw (m.schema.keyName ++ " " ++ "=" ++ " ") ++ .bind id ++ .raw " AND "
        ++ .raw "deleted_at IS NULL" := by
    rw [Filter.conjunction, List.map_cons, Condition.template_eq null]
    rfl
  have text : " " ++ ("=" ++ (" " ++ ("?" ++ (" AND " ++ ("deleted_at IS NULL" ++ " LIMIT 1")))))
      = " = ? AND deleted_at IS NULL LIMIT 1" := rfl
  rw [selectOne, conditions, wire_limitOne (List.cons_ne_nil _ _), conjunction]
  refine congrArg₂ Statement.mk ?_ rfl
  simp only [Template.sql_append, Template.sql_raw, Template.sql_bind, String.append_assoc]
  exact congrArg (fun rest => "SELECT * FROM " ++ (m.table ++ (" WHERE "
    ++ (m.schema.keyName ++ rest)))) text

/-! ## Looking for rows -/

/-- A query for one row, put to an engine that finds rows. -/
theorem runs_search {q : Query} {P : Record → Prop}
    (h : Finds m.engine rows q.find.statement.wire P) (w : World σ) :
    ∃ reply found w', Runs m.engine (m.fetch q >>= fun records => pure records.head?) w
        [(q.find.statement.wire, .ok reply)] (.ok (found.map m.schema.hydrate)) w' ∧
      rows w'.engine = rows w.engine ∧ w'.draws = w.draws ∧ Sighted (rows w.engine) P found := by
  obtain ⟨reply, found, next, answer, same, single, sighted⟩ := h w.engine
  have head : (reply.rows.map m.schema.hydrate).head? = found.map m.schema.hydrate := by
    rw [single, List.head?_map, Option.head?_toList]
  have run := (runs_fetch answer).bind
    (f := fun records => (pure records.head? : Call σ _)) (Runs.pure _ _)
  rw [head] at run
  exact ⟨reply, found, _, run, same, rfl, sighted⟩

/-! ## Refused insertions -/

theorem runs_store_rejected {record : Record} {r : Rejection} {next : σ}
    (answer : m.engine (m.insertion record) w.engine = (.error r, next)) :
    Runs m.engine (m.store record) w [(m.insertion record, .error r)]
      (.error (m.failure (m.insertion record) r)) (answered w (m.insertion record) next) :=
  (runs_execute_rejected answer).bind_error _

/-- A record that is valid, but is rejected by the engine, is not created. -/
theorem runs_create_rejected (hm : m.hooks = {}) {r : Rejection} {next : σ}
    (valid : m.schema.validate .create (m.schema.complete w.now data w.draws).1 = .ok ())
    (answer : m.engine (m.insertion (m.inserted data w)) w.engine = (.error r, next)) :
    ∃ w', Runs m.engine (m.create data) w [(m.insertion (m.inserted data w), .error r)]
        (.error (m.failure (m.insertion (m.inserted data w)) r)) w' ∧
      w'.engine = next := by
  have prepared : Runs m.engine (m.prepareInsert data) w []
      (.ok (m.schema.complete w.now data w.draws).1)
      { w with draws := (m.schema.complete w.now data w.draws).2 } := .quiet _ rfl
  refine ⟨answered { w with draws := (m.schema.complete w.now data w.draws).2 }
    (m.insertion (m.inserted data w)) next, ?_, rfl⟩
  rw [create_eq hm]
  refine prepared.bind ?_
  rw [valid]
  exact (Runs.lift (.ok ()) _).bind (runs_store_rejected answer)

/-! ## The setting -/

/-- The record that an upsert by a primary key inserts. -/
def keyed (m : Model σ) (id : Value) (data : Record) : Record :=
  data.set m.schema.keyName id

/-- A record that is upserted by a primary key, into a table that `rows` reads from the state of the
engine. -/
structure KeySetting (m : Model σ) (rows : σ → List Record) (k : UniqueKey) (id : Value)
    (data : Record) (w : World σ) : Prop where
  /-- There are no hooks. -/
  hooks : m.hooks = {}
  /-- The primary key is that of the schema. -/
  primary : k.primary = m.schema.keyName
  /-- The identifier is one of the key's kind. -/
  valid : m.checkIdentifier id = .ok ()
  /-- The record assigns something. -/
  assigns : m.assigns data = true
  /-- The record can be assigned. -/
  updatable : m.schema.validate .partialUpdate (m.stamped w.now (m.assignable data)) = .ok ()
  /-- The stamp of an update is not the primary key. -/
  stamp : m.schema.options.timestamps = true → updatedAt ≠ m.schema.keyName
  /-- The table respects its constraint. -/
  respects : k.Respects (rows w.engine)
  /-- The engine keeps the table. -/
  keeps : KeepsRows m.engine m.table rows k (m.inserted (m.keyed id data) w)
    (m.assigned data w)

/-- An upsert by a key that is valid, from its lookup on. -/
theorem upsertById_eq (h : m.checkIdentifier id = .ok ()) (data : Record) :
    m.upsertById id data
      = m.findOne { filter := [.eq m.schema.keyName id] } >>= fun found => match found with
        | some found => m.applyUpdate found data
        | none => m.createOrElse (m.keyed id data) [.eq m.schema.keyName id]
            fun found => m.applyUpdate found data := by
  simp only [upsertById, h]
  rfl

namespace KeySetting

/-- The lookup of the key finds the row that has it, if that is visible. -/
theorem finds (h : m.KeySetting rows k id data w) :
    Finds m.engine rows (m.selectOne [.eq m.schema.keyName id]) fun row =>
      k.Carries row [(k.primary, id)] ∧ m.Visible row := by
  have null := isNull_of_checkIdentifier h.valid
  cases hides : m.schema.hidesDeleted with
  | true =>
    rw [wire_selectAlive null hides, ← h.primary]
    simpa only [Visible, hides, forall_const] using h.keeps.selectAlive id null
  | false =>
    rw [wire_selectKey null hides, ← h.primary]
    simpa only [Visible, hides, Bool.false_eq_true, false_imp_iff, and_true]
      using h.keeps.select id null

theorem runs_findOne (h : m.KeySetting rows k id data w) (w₁ : World σ) :
    ∃ reply found w', Runs m.engine (m.findOne { filter := [.eq m.schema.keyName id] }) w₁
        [(m.selectOne [.eq m.schema.keyName id], .ok reply)]
        (.ok (found.map m.schema.hydrate)) w' ∧
      rows w'.engine = rows w₁.engine ∧ w'.draws = w₁.draws ∧
        Sighted (rows w₁.engine) (fun row => k.Carries row [(k.primary, id)] ∧ m.Visible row)
          found := by
  obtain ⟨reply, found, w', run, rest⟩ := runs_search h.finds w₁
  refine ⟨reply, found, w', ?_, rest⟩
  rw [findOne, findAll_eq h.hooks, queryFor_one (checkFilter_key m id)]
  exact run

/-- A row is read back by its key, be it marked as deleted. -/
theorem runs_fetchById (h : m.KeySetting rows k id data w) {v : Value} (null : v.isNull = false)
    (w₁ : World σ) :
    ∃ reply found w', Runs m.engine (m.fetchById v) w₁ [(m.selectById v, .ok reply)]
        (.ok (found.map m.schema.hydrate)) w' ∧
      rows w'.engine = rows w₁.engine ∧
        Sighted (rows w₁.engine) (k.Carries · [(k.primary, v)]) found := by
  have selects := h.keeps.select v null
  rw [h.primary, ← wire_selectById null] at selects
  obtain ⟨reply, found, w', run, same, -, sighted⟩ := runs_search selects w₁
  rw [h.primary]
  exact ⟨reply, found, w', run, same, sighted⟩

/-! ### Rows that are visible -/

/-- The statement that assigns the record to the row of a key. -/
theorem updateTemplate_eq (h : m.KeySetting rows k id data w) (v : Value) :
    ∃ t, m.assignOne v (m.assigned data w) = .ok t ∧
      m.updateTemplate w.now data [.eq m.schema.keyName v] = .ok t := by
  rcases updateTemplate_key_cases h.assigns w.now v with ⟨e, invalid, -⟩ | decided
  · rw [h.updatable] at invalid
    cases invalid
  · exact decided

/-- A row is updated by its key and read back. -/
theorem runs_updateById (h : m.KeySetting rows k id data w) (now : w₁.now = w.now)
    (same : rows w₁.engine = rows w.engine) (there : row ∈ rows w.engine) {v : Value}
    (null : v.isNull = false) (carries : k.Carries row [(k.primary, v)]) :
    ∃ f xs w', Runs m.engine (m.updateById v data) w₁ xs
        (.ok (some (m.schema.hydrate (f row)))) w' ∧
      Assigns k v (m.assigned data w) f ∧ Conversation.inserts xs = 0 ∧
        rows w'.engine = (rows w.engine).map f := by
  obtain ⟨f, reply, next, assigns, answer, written⟩ := h.keeps.update v null w₁.engine
  obtain ⟨t, set, template⟩ := h.updateTemplate_eq v
  have spelled := wire_assignOne null set
  rw [h.primary, ← spelled] at answer
  rw [same] at written
  rw [← now] at template
  -- What is read back is the row that was assigned to.
  have primary : k.primary ∉ (m.assigned data w).fields :=
    h.primary ▸ keyName_not_mem_assigned data w h.stamp
  have between : rows (answered w₁ t.statement.wire next).engine = (rows w.engine).map f := written
  obtain ⟨reply', reread, w', fetched, kept, sighted⟩ :=
    h.runs_fetchById null (answered w₁ t.statement.wire next)
  rw [between] at kept sighted
  rw [assigns.sighted primary h.respects there carries sighted] at fetched
  refine ⟨f, [(t.statement.wire, .ok reply), (m.selectById v, .ok reply')], w', ?_, assigns, ?_,
    kept⟩
  · simp only [updateById, update_eq h.hooks, bind_assoc, pure_bind, afterUpdate_eq h.hooks]
    refine (Runs.quiet w₁.draws (outcome_now w₁)).bind ?_
    rw [template]
    exact (Runs.lift _ _).bind ((runs_execute answer).bind (fetched.bind (.pure _ _)))
  · rw [spelled]
    simp [Statement.isInsert_updateRow]

/-- **A row that was found is updated.** -/
theorem runs_applyUpdate (h : m.KeySetting rows k id data w) (now : w₁.now = w.now)
    (same : rows w₁.engine = rows w.engine) (there : row ∈ rows w.engine)
    (carries : k.Carries row [(k.primary, id)]) (again : m.FindsAgain k row) :
    ∃ f xs w', Runs m.engine (m.applyUpdate (m.schema.hydrate row) data) w₁ xs
        (.ok { record := m.schema.hydrate (f row), updated := true }) w' ∧
      Assigns k id (m.assigned data w) f ∧ Conversation.inserts xs = 0 ∧
        rows w'.engine = (rows w.engine).map f := by
  obtain ⟨v, read, null, found⟩ := again
  obtain ⟨f, xs, w', updated, assigns, none, kept⟩ := h.runs_updateById now same there null found
  refine ⟨f, xs ++ [], w', ?_, assigns.of_carries found carries, by simpa using none, kept⟩
  have some : (data.fields.any fun f => f != m.schema.keyName && f != "id" && f != createdAt)
      = true := h.assigns
  rw [h.primary] at read
  simp only [applyUpdate, read, some, Bool.not_true, Bool.false_eq_true, if_false]
  exact updated.bind (.pure _ _)

/-! ### Rows that are hidden -/

/-- The record that is inserted has the key. -/
theorem carries_inserted (h : m.KeySetting rows k id data w)
    (plain : ∀ f, m.schema.field? k.primary = some f → f.kind ≠ .json) :
    k.Carries (m.inserted (m.keyed id data) w).bound [(k.primary, id)] := by
  have null := isNull_of_checkIdentifier h.valid
  have given : (m.keyed id data).get? k.primary = some id := by
    rw [keyed, Record.get?_set, if_pos h.primary.symm]
  have kept : (m.inserted (m.keyed id data) w).get? k.primary = some id := by
    rw [inserted, Schema.get?_encode plain, Schema.get?_complete, given]
    exact Record.isUnset_eq_false.2 ⟨id, given, null⟩
  rw [UniqueKey.carries_primary, UniqueKey.cell_bound, kept, Option.bind_some, null]
  rfl

/-- **A record with a key that is taken is not created.** -/
theorem runs_create (h : m.KeySetting rows k id data w) (now : w₁.now = w.now)
    (draws : w₁.draws = w.draws) (same : rows w₁.engine = rows w.engine)
    (taken : k.Taken (rows w.engine) [(k.primary, id)])
    (plain : ∀ f, m.schema.field? k.primary = some f → f.kind ≠ .json)
    (valid : m.schema.validate .create
      (m.schema.complete w.now (m.keyed id data) w.draws).1 = .ok ()) :
    ∃ xs e w', Runs m.engine (m.create (m.keyed id data)) w₁ xs (.error e) w' ∧
      e.isDuplicateEntry = true ∧ rows w'.engine = rows w.engine := by
  have carries := h.carries_inserted plain
  obtain ⟨r, next, answer, kept, unique⟩ := h.keeps.insert id w₁.engine carries (same ▸ taken)
  have filled : (m.inserted (m.keyed id data) w).isEmpty = false := by
    have there : k.primary ∈ (m.inserted (m.keyed id data) w).bound.fields := by
      obtain ⟨v, hv, -⟩ := Option.bind_eq_some_iff.1 (UniqueKey.carries_primary.1 carries)
      rw [Record.mem_fields, hv]
      rfl
    rw [Record.bound, Record.fields_mapValues] at there
    rw [Record.isEmpty_eq, List.isEmpty_eq_false_iff]
    exact List.ne_nil_of_mem there
  have alike : m.inserted (m.keyed id data) w₁
      = m.inserted (m.keyed id data) w := by
    rw [inserted, inserted, now, draws]
  rw [← Insert.wire_one filled, ← alike] at answer
  rw [← now, ← draws] at valid
  obtain ⟨w', run, rfl⟩ := runs_create_rejected h.hooks valid answer
  exact ⟨_, _, w', run, isDuplicateEntry_failure m _ unique, kept.trans same⟩

end KeySetting

end Model

/-! ## A table with a primary key -/

/-- A table into which one client upserts a record by a primary key. -/
structure KeyTable where
  /-- The schema of the table. -/
  schema : Schema
  /-- The primary key. -/
  id : Value
  /-- The record. -/
  data : Record
  /-- The time. -/
  now : Instant

namespace KeyTable

variable (x : KeyTable)

/-- The key of the table. -/
def key : UniqueKey where
  primary := x.schema.keyName
  columns := [x.schema.keyName]
  norm v := v

/-- The model of the schema, without an engine that answers. -/
def plain : Model Unit where
  schema := x.schema
  engine := .silent

/-- The record that is inserted. -/
def inserted : Record :=
  x.plain.inserted (x.plain.keyed x.id x.data) { engine := (), now := x.now }

/-- The record that is assigned. -/
def assigned : Record :=
  x.plain.assigned x.data { engine := (), now := x.now }

/-- The first row that meets a condition. -/
def search (rows : List Record) (P : Record → Prop) [DecidablePred P] : Reply where
  rows := (rows.find? fun row => decide (P row)).toList

/-- Inserts the record, if no row has its primary key. -/
def insert (rows : List Record) : Answer × List Record :=
  if ∃ row ∈ rows, x.key.Clash x.inserted.bound row then (.error ⟨"UNIQUE constraint failed"⟩, rows)
  else (.ok { info := { changes := 1 } }, rows ++ [x.inserted.bound])

/-- The number of rows of a primary key. -/
def changes (id : Value) (rows : List Record) : UInt64 :=
  .ofNat (rows.countP fun row => decide (x.key.Carries row [(x.key.primary, id)]))

/-- Assigns the record to the row of a primary key. -/
def assign (id : Value) (rows : List Record) : Answer × List Record :=
  (.ok { info := { changes := x.changes id rows } }, rows.map fun row =>
    if x.key.Carries row [(x.key.primary, id)] then row.merge x.assigned.bound else row)

/-- The engine. A primary key is the last parameter of its statements. -/
def engine : Engine (List Record) := fun s rows =>
  let id := s.params.getLast?.getD .null
  if s.isInsert then x.insert rows
  else if s.keyword == "UPDATE" then x.assign id rows
  else if s.sql == (Statement.selectRow x.schema.table [(x.key.primary, .null)]).sql then
    (.ok (search rows fun row => x.key.Carries row [(x.key.primary, id)]), rows)
  else
    (.ok (search rows fun row =>
      x.key.Carries row [(x.key.primary, id)] ∧ row.isUnset deletedAt = true), rows)

/-- The model of the schema on the table. -/
def model : Model (List Record) where
  schema := x.schema
  engine := x.engine

/-- The world before the upsert. -/
def world (rows : List Record) : World (List Record) where
  engine := rows
  now := x.now

variable {x}

theorem sighted_search (rows : List Record) (P : Record → Prop) [DecidablePred P] :
    ∃ found, (search rows P).rows = found.toList ∧ Sighted rows P found := by
  refine ⟨_, rfl, ?_⟩
  cases found : rows.find? fun row => decide (P row) with
  | none => exact .missed (by simpa using found)
  | some row => exact .seen (List.mem_of_find?_eq_some found) (by simpa using List.find?_some found)

/-! ### What the engine keeps to -/

theorem engine_insert {s : Statement} (word : s.keyword = "INSERT") (rows : List Record) :
    x.engine s rows = x.insert rows := by
  simp only [engine, Statement.isInsert, word]
  rfl

theorem engine_update {s : Statement} (word : s.keyword = "UPDATE") (rows : List Record) :
    x.engine s rows = x.assign (s.params.getLast?.getD .null) rows := by
  simp only [engine, Statement.isInsert, word]
  rfl

theorem engine_select (id : Value) (rows : List Record) :
    x.engine (.selectRow x.schema.table [(x.key.primary, id)]) rows
      = (.ok (search rows (x.key.Carries · [(x.key.primary, id)])), rows) := by
  -- The text does not depend on the key.
  have text : (Statement.selectRow x.schema.table [(x.key.primary, id)]).sql
      = (Statement.selectRow x.schema.table [(x.key.primary, .null)]).sql := rfl
  have last : (Statement.selectRow x.schema.table [(x.key.primary, id)]).params.getLast?
      = some id.param := rfl
  simp only [engine, Statement.isInsert, Statement.keyword_selectRow, text, last, Option.getD_some,
    UniqueKey.carries_param, beq_self_eq_true, if_true]
  rfl

theorem engine_selectAlive (id : Value) (rows : List Record) :
    x.engine (.selectAlive x.schema.table x.key.primary id) rows
      = (.ok (search rows fun row =>
          x.key.Carries row [(x.key.primary, id)] ∧ row.isUnset deletedAt = true), rows) := by
  have other : ((Statement.selectAlive x.schema.table x.key.primary id).sql
      == (Statement.selectRow x.schema.table [(x.key.primary, .null)]).sql) = false :=
    beq_eq_false_iff_ne.2 (Statement.selectAlive_ne_selectRow _ _ _)
  have last : (Statement.selectAlive x.schema.table x.key.primary id).params.getLast?
      = some id.param := rfl
  simp only [engine, Statement.isInsert, Statement.keyword_selectAlive, other, last,
    Option.getD_some, UniqueKey.carries_param, Bool.false_eq_true, if_false]
  rfl

/-- **The table is kept for one client.** -/
theorem keeps :
    KeepsRows x.engine x.schema.table (fun rows => rows) x.key x.inserted x.assigned where
  select id _ rows := by
    obtain ⟨found, single, sighted⟩ := sighted_search rows (x.key.Carries · [(x.key.primary, id)])
    exact ⟨_, found, rows, engine_select id rows, rfl, single, sighted⟩
  selectAlive id _ rows := by
    obtain ⟨found, single, sighted⟩ := sighted_search rows fun row =>
      x.key.Carries row [(x.key.primary, id)] ∧ row.isUnset deletedAt = true
    exact ⟨_, found, rows, engine_selectAlive id rows, rfl, single, sighted⟩
  insert id rows carries taken := by
    obtain ⟨row, there, carries'⟩ := taken
    have clash : ∃ row ∈ rows, x.key.Clash x.inserted.bound row :=
      ⟨row, there, UniqueKey.clash_of_carries (by simp [key, Entries.names]) carries carries'⟩
    refine ⟨⟨"UNIQUE constraint failed"⟩, rows, ?_, rfl, List.infix_rfl⟩
    rw [engine_insert (Statement.keyword_insertRow _ _), insert, if_pos clash]
  update id _ rows := by
    have last : (Statement.updateRow x.schema.table x.key.primary id x.assigned).params.getLast?
        = some id.param := List.getLast?_concat
    refine ⟨_, { info := { changes := x.changes id rows } }, _, assigns_merge x.key id x.assigned,
      ?_, rfl⟩
    rw [engine_update (Statement.keyword_updateRow _ _ _ _), last, Option.getD_some]
    simp only [assign, changes, UniqueKey.carries_param]

end KeyTable

/-! ## Existing keys -/

section

variable {m : Model σ} {rows : σ → List Record} {k : UniqueKey} {id : Value} {data : Record}
  {w : World σ} {row : Record}

open Call

/-- **An existing key is updated.** Where a row of the table has the key, and is not marked as
deleted or the schema shows deleted rows, an upsert by this key assigns the record to it and gives
it as it is then; no insertion is tried. -/
theorem existing_key_is_updated (h : m.KeySetting rows k id data w) (there : row ∈ rows w.engine)
    (carries : k.Carries row [(k.primary, id)]) (visible : m.Visible row)
    (again : m.FindsAgain k row) :
    ∃ f xs w', Runs m.engine (m.upsertById id data) w xs
        (.ok { record := m.schema.hydrate (f row), updated := true }) w' ∧
      Assigns k id (m.assigned data w) f ∧ Conversation.inserts xs = 0 ∧
        rows w'.engine = (rows w.engine).map f := by
  obtain ⟨reply, found, w₁, looked, same, -, sighted⟩ := h.runs_findOne w
  cases sighted with
  | missed absent => exact absurd ⟨carries, visible⟩ (absent row there)
  | @seen other there' meets =>
    obtain rfl := h.respects.eq_of_carries there' there meets.1 carries
    obtain ⟨f, xs, w', updated, assigns, none, kept⟩ :=
      h.runs_applyUpdate looked.now same there carries again
    refine ⟨f, [(m.selectOne [.eq m.schema.keyName id], .ok reply)] ++ xs, w', ?_, assigns, ?_,
      kept⟩
    · rw [Model.upsertById_eq h.valid]
      exact looked.bind updated
    · simp [none]

/-- Notes, where deleted ones are kept and hidden. -/
def notebook : KeyTable where
  schema := ⟨"notes", [.id "id", { name := "title", kind := .string },
    { name := deletedAt, kind := .date }], { softDelete := true }, 0⟩
  id := .int 1
  data := .ofEntries [("title", .text "b")]
  now := default

/-- A note. -/
def keptNote : Record :=
  .ofEntries [("id", .int 1), ("title", .text "a")]

/-- A note that is marked as deleted. -/
def trashedNote : Record :=
  keptNote.set deletedAt (.text "2020-01-01")

/-- A table with one note is the setting of an upsert by its key. -/
theorem notebook_setting (row : Record) (h : row.get? "id" = some (.int 1)) :
    notebook.model.KeySetting (fun rows => rows) notebook.key notebook.id notebook.data
      (notebook.world [row]) where
  hooks := rfl
  primary := rfl
  valid := by decide
  assigns := by decide
  updatable := by
    show notebook.schema.validate .partialUpdate (notebook.plain.stamped notebook.now
      (notebook.plain.assignable notebook.data)) = .ok ()
    decide
  stamp := by decide
  respects := UniqueKey.respects_singleton h rfl rfl
  keeps := KeyTable.keeps

theorem live_note_is_updated :
    ∃ (f : Record → Record) (xs : Conversation) (w' : World (List Record)),
      Runs notebook.model.engine (notebook.model.upsertById notebook.id notebook.data)
        (notebook.world [keptNote]) xs
        (.ok { record := notebook.schema.hydrate (f keptNote), updated := true }) w' ∧
      notebook.key.cell (f keptNote) "title" = some (.text "b") ∧
        Conversation.inserts xs = 0 ∧ w'.engine = [f keptNote] := by
  have respects : notebook.key.Respects [keptNote] := UniqueKey.respects_singleton rfl rfl rfl
  have again : notebook.model.FindsAgain notebook.key keptNote :=
    Model.findsAgain_of_kind respects (List.mem_singleton_self _) (by rintro f ⟨⟩; decide)
  obtain ⟨f, xs, w', run, assigns, none, kept⟩ := existing_key_is_updated
    (notebook_setting keptNote rfl) (List.mem_singleton_self _) (by decide)
    (fun _ => rfl) again
  exact ⟨f, xs, w', run, assigns.columns keptNote (by decide) "title" (by decide), none, kept⟩

/-- **A hidden key is refused.** Where the row of the key is marked as deleted, and the schema hides
it, an upsert by this key ends with a duplicate entry, and nothing is written. -/
theorem hidden_key_is_refused (h : m.KeySetting rows k id data w) (there : row ∈ rows w.engine)
    (carries : k.Carries row [(k.primary, id)]) (hidden : ¬ m.Visible row)
    (plain : ∀ f, m.schema.field? k.primary = some f → f.kind ≠ .json)
    (valid : m.schema.validate .create
      (m.schema.complete w.now (m.keyed id data) w.draws).1 = .ok ()) :
    ∃ xs e w', Runs m.engine (m.upsertById id data) w xs (.error e) w' ∧
      e.isDuplicateEntry = true ∧ rows w'.engine = rows w.engine := by
  -- No other row has the key, and this one is not seen.
  have unseen : ∀ {found}, Sighted (rows w.engine)
      (fun row => k.Carries row [(k.primary, id)] ∧ m.Visible row) found → found = none := by
    rintro found (absent | ⟨there', carries', visible⟩)
    · rfl
    · obtain rfl := h.respects.eq_of_carries there' there carries' carries
      exact absurd visible hidden
  obtain ⟨reply, found, w₁, looked, same, draws, sighted⟩ := h.runs_findOne w
  obtain rfl := unseen sighted
  obtain ⟨xs, e, w₂, refused, duplicate, kept⟩ :=
    h.runs_create looked.now draws same ⟨row, there, carries⟩ plain valid
  obtain ⟨reply', found, w₃, again, still, -, sighted⟩ := h.runs_findOne w₂
  rw [kept] at sighted
  obtain rfl := unseen sighted
  refine ⟨[(m.selectOne [.eq m.schema.keyName id], .ok reply)] ++ (xs
    ++ ([(m.selectOne [.eq m.schema.keyName id], .ok reply')] ++ [])), e, w₃, ?_, duplicate,
    still.trans kept⟩
  rw [Model.upsertById_eq h.valid]
  refine looked.bind (refused.attempt.bind ?_)
  simp only [duplicate, if_true]
  exact again.bind (.quiet w₃.draws rfl)

theorem deleted_note_is_refused :
    notebook.model.KeySetting (fun rows => rows) notebook.key notebook.id notebook.data
        (notebook.world [trashedNote]) ∧
      notebook.key.Carries trashedNote [(notebook.key.primary, notebook.id)] ∧
        ∃ xs e w', Runs notebook.model.engine
            (notebook.model.upsertById notebook.id notebook.data)
            (notebook.world [trashedNote]) xs (.error e) w' ∧
          e.isDuplicateEntry = true ∧ w'.engine = [trashedNote] := by
  have setting := notebook_setting trashedNote rfl
  have hidden : ¬ notebook.model.Visible trashedNote :=
    fun visible => absurd (visible rfl) (by decide)
  refine ⟨setting, by decide, hidden_key_is_refused setting (List.mem_singleton_self _)
    (by decide) hidden ?_ (by decide)⟩
  rintro f ⟨⟩
  decide

end

end RecordMapper
