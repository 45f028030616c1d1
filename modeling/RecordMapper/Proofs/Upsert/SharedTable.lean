import RecordMapper.Proofs.Upsert.Setting

/-!
# A shared table

An engine that keeps the table of an upsert as a list of rows, and another client that may insert
the same key just before the upsert does.

* `SharedTable.engine` evaluates the statements of the upsert on the rows.
* `SharedTable.serves`: it is an engine that serves several clients.
* `SharedTable.setting` puts it into the setting of an upsert, from conditions that can be decided.
-/

namespace RecordMapper

/-- A table into which one client upserts a record while another one may insert its key. -/
structure SharedTable where
  /-- The schema of the table. -/
  schema : Schema
  /-- The columns in which no two rows agree. -/
  columns : List String
  /-- The record. -/
  data : Record
  /-- The time. -/
  now : Instant
  /-- Whether the other client is faster. -/
  raced : Bool := false

namespace SharedTable

variable (x : SharedTable)

/-- The keys of the table. -/
def key : UniqueKey where
  primary := x.schema.keyName
  columns := x.columns
  norm := id

/-- The model of the schema, without an engine that answers. -/
def plain : Model Unit where
  schema := x.schema
  engine := .silent

/-- The key that is looked for. -/
def wanted : Entries :=
  x.data.pick x.columns

/-- The record that is inserted. -/
def inserted : Record :=
  x.plain.inserted x.data { engine := (), now := x.now }

/-- The record that is assigned. -/
def assigned : Record :=
  x.plain.assigned x.data { engine := (), now := x.now }

/-! ## What the engine does -/

/-- The first row that holds the wanted values. -/
def select (wanted : Entries) (rows : List Record) : Reply where
  rows := (rows.find? fun row => decide (x.key.Carries row wanted)).toList

/-- The record is assigned to a row if that has the primary key. -/
def assign (id : Value) (row : Record) : Record :=
  if x.key.Carries row [(x.key.primary, id)] then row.merge x.assigned.bound else row

/-- The number of the next row. -/
def number (rows : List Record) : Int64 :=
  Int64.ofNat (rows.length + 1)

/-- The primary key of the inserted row: the one that it has, or else its number. -/
def nextKey (rows : List Record) : Value :=
  (x.key.cell x.inserted.bound x.key.primary).getD (.int (number rows))

/-- The greatest length of a primary key. -/
def longest (rows : List Record) : Nat :=
  rows.foldr (fun row n => max ((row.get? x.key.primary).getD .null).display.length n) 0

/-- A primary key of the other client: a text that is longer than all primary keys. -/
def otherKey (rows : List Record) : Value :=
  .text (String.ofList (List.replicate (x.longest rows + 1) 'k'))

/-- The inserted record as a row. -/
def row (id : Value) : Record :=
  x.inserted.bound.set x.key.primary id

/-- Inserts the record. The other client is faster if it is meant to be, and also where the number
of the row is taken. -/
def insert (rows : List Record) : Answer × List Record :=
  let rejected : Answer := .error ⟨"UNIQUE constraint failed"⟩
  if ∃ row ∈ rows, x.key.Clash x.inserted.bound row then (rejected, rows)
  else if x.raced ∨ ∃ row ∈ rows, x.key.cell row x.key.primary = some (x.nextKey rows) then
    (rejected, rows ++ [x.row (x.otherKey rows)])
  else
    (.ok { info := { changes := 1, lastInsertId := some (number rows) } },
      rows ++ [x.row (x.nextKey rows)])

/-- The engine. A primary key is the last parameter of its statements. -/
def engine : Engine (List Record) := fun s rows =>
  let id := s.params.getLast?.getD .null
  if s.isInsert then x.insert rows
  else if s.keyword == "UPDATE" then (.ok {}, rows.map (x.assign id))
  else if s.sql == (Statement.selectRow x.schema.table x.wanted).sql then
    (.ok (x.select x.wanted rows), rows)
  else (.ok (x.select [(x.key.primary, id)] rows), rows)

/-- The model of the schema on the shared table. -/
def model : Model (List Record) where
  schema := x.schema
  engine := x.engine

/-- The world before the upsert. -/
def world (rows : List Record) : World (List Record) where
  engine := rows
  now := x.now

/-! ## What the engine keeps to -/

variable {x}

/-- An engine that looks at all rows selects. -/
theorem selects {engine : Engine (List Record)} {s : Statement} {wanted : Entries}
    (h : ∀ rows, engine s rows = (.ok (x.select wanted rows), rows)) :
    Selects engine id x.key s wanted := by
  intro rows _
  refine ⟨_, rows, h rows, .refl, ?_⟩
  unfold select
  cases found : rows.find? fun row => decide (x.key.Carries row wanted) with
  | none => exact .inl ⟨rfl, by simpa using found⟩
  | some row =>
    exact .inr ⟨row, List.mem_of_find?_eq_some found, by simpa using List.find?_some found, rfl⟩

theorem assigns (id : Value) : Assigns x.key id x.assigned (x.assign id) :=
  assigns_merge x.key id x.assigned

/-! ### Insertions -/

/-- A primary key that the inserted row may have. -/
structure Fresh (x : SharedTable) (rows : List Record) (id : Value) : Prop where
  /-- It is not null. -/
  null : id.isNull = false
  /-- It is in the form in which values are bound. -/
  bound : id.param = id
  /-- No row has it. -/
  unused : ∀ other ∈ rows, x.key.cell other x.key.primary ≠ some id

theorem get?_row (id : Value) (column : String) :
    (x.row id).get? column
      = if x.key.primary = column then some id else x.inserted.bound.get? column :=
  Record.get?_set _ _ _ _

theorem cell_row (id : Value) {column : String} (ne : column ≠ x.key.primary) :
    x.key.cell (x.row id) column = x.key.cell x.inserted.bound column := by
  rw [UniqueKey.cell, UniqueKey.cell, get?_row, if_neg ne.symm]

theorem fresh_otherKey (rows : List Record) : Fresh x rows (x.otherKey rows) where
  null := rfl
  bound := rfl
  unused other ho same := by
    have short : ∀ rows : List Record, other ∈ rows →
        ((other.get? x.key.primary).getD .null).display.length ≤ x.longest rows := by
      intro rows
      induction rows with
      | nil => intro h; cases h
      | cons row rest ih =>
        intro h
        rcases List.mem_cons.1 h with rfl | h
        · exact Nat.le_max_left _ _
        · exact Nat.le_trans (ih h) (Nat.le_max_right _ _)
    have bound := short rows ho
    rw [UniqueKey.cell] at same
    obtain ⟨v, hv, hn⟩ := Option.bind_eq_some_iff.1 same
    have text : v = x.otherKey rows := by
      split at hn
      · cases hn
      · exact Option.some_inj.1 hn
    rw [hv, text] at bound
    simp only [otherKey, Option.getD_some, Value.display, String.length_ofList,
      List.length_replicate] at bound
    omega

theorem nextKey_cases (rows : List Record) :
    (x.nextKey rows).isNull = false ∧ (x.nextKey rows).param = x.nextKey rows ∧
      (x.key.cell x.inserted.bound x.key.primary = some (x.nextKey rows) ∨
        x.key.cell x.inserted.bound x.key.primary = none ∧
          x.nextKey rows = .int (number rows)) := by
  unfold nextKey
  rw [UniqueKey.cell_bound]
  rcases x.inserted.get? x.key.primary with _ | v
  · exact ⟨rfl, rfl, .inr ⟨rfl, rfl⟩⟩
  · cases hn : v.isNull with
    | true =>
      rw [Option.bind_some, if_pos hn]
      exact ⟨rfl, rfl, .inr ⟨rfl, rfl⟩⟩
    | false =>
      rw [Option.bind_some, hn]
      exact ⟨(Value.isNull_param v).trans hn, Value.param_param v, .inl rfl⟩

/-- A row with a fresh primary key can be inserted where no row carries the key. -/
theorem respects_row (ordinary : x.key.primary ∉ x.columns) {rows : List Record}
    (hr : x.key.Respects rows) {id : Value} (fresh : Fresh x rows id)
    (free : ∀ row ∈ rows, ¬ x.key.Clash x.inserted.bound row) :
    x.key.Respects (rows ++ [x.row id]) := by
  have primary : (x.row id).get? x.key.primary = some id := by rw [get?_row, if_pos rfl]
  refine hr.append primary fresh.null fresh.bound fresh.unused fun other ho clash => ?_
  refine free other ho (clash.congr fun column hc => (cell_row id ?_).symm)
  rintro rfl
  exact ordinary hc

/-- The engine inserts. -/
theorem inserts (ordinary : x.key.primary ∉ x.columns)
    (keyed : ∀ column ∈ x.columns, x.inserted.isUnset column = false) {s : Statement}
    (h : ∀ rows, x.engine s rows = x.insert rows) :
    Inserts x.engine id x.key s x.inserted := by
  intro rows hr
  rw [h rows, insert]
  by_cases taken : ∃ row ∈ rows, x.key.Clash x.inserted.bound row
  · refine ⟨rows, .refl, .inl ⟨taken, _, _, if_pos taken, rfl, List.infix_rfl⟩⟩
  have free : ∀ row ∈ rows, ¬ x.key.Clash x.inserted.bound row := fun row hr clash =>
    taken ⟨row, hr, clash⟩
  rw [if_neg taken]
  by_cases lost : x.raced ∨ ∃ row ∈ rows, x.key.cell row x.key.primary = some (x.nextKey rows)
  · have respects := respects_row ordinary hr (fresh_otherKey rows) free
    have clash : x.key.Clash x.inserted.bound (x.row (x.otherKey rows)) := by
      intro column hc
      have ne : column ≠ x.key.primary := by
        rintro rfl
        exact ordinary hc
      obtain ⟨v, hv, null⟩ := Record.isUnset_eq_false.1 (keyed column hc)
      rw [cell_row _ ne, UniqueKey.cell_bound, hv, Option.bind_some, null]
      exact ⟨rfl, rfl⟩
    rw [if_pos lost]
    refine ⟨_, .single (.insert respects), .inl ⟨⟨_, List.mem_append_right _ (by simp), clash⟩,
      _, _, rfl, rfl, List.infix_rfl⟩⟩
  · obtain ⟨null, bound, origin⟩ := x.nextKey_cases rows
    have primary : (x.row (x.nextKey rows)).get? x.key.primary = some (x.nextKey rows) := by
      rw [get?_row, if_pos rfl]
    rw [if_neg lost]
    refine ⟨rows, .refl, .inr ⟨free, _, _, _, rfl, rfl, ?_⟩⟩
    refine ⟨fun column _ ne => cell_row _ ne, _, primary, null, bound, ?_, ?_⟩
    · exact fun other ho same => lost (.inr ⟨other, ho, same⟩)
    · exact origin.imp_right fun ⟨absent, number⟩ => ⟨absent, _, rfl, number⟩

/-! ## The setting of an upsert -/

variable (x) in
/-- What is asked of a shared table: the schema does not hide rows, the record holds the key, can be
inserted and assigned, and the two selections differ in their texts. -/
def fits : Bool :=
  !x.schema.hidesDeleted && !x.columns.isEmpty
    && (x.columns.all fun column => column != x.key.primary && column != "id"
      && column != createdAt && !x.data.isUnset column
      && (x.schema.field? column).all fun f => f.kind != .json)
    && !x.data.contains x.key.primary
    && (x.schema.validate .create (x.schema.complete x.now x.data []).1).isOk
    && (x.schema.validate .partialUpdate (x.plain.stamped x.now (x.plain.assignable x.data))).isOk
    && (Statement.selectRow x.schema.table [(x.key.primary, .null)]).sql
      != (Statement.selectRow x.schema.table x.wanted).sql

theorem engine_select {s : Statement} (word : s.keyword = "SELECT") (rows : List Record) :
    x.engine s rows
      = if s.sql == (Statement.selectRow x.schema.table x.wanted).sql then
          (.ok (x.select x.wanted rows), rows)
        else (.ok (x.select [(x.key.primary, s.params.getLast?.getD .null)] rows), rows) := by
  simp only [engine, Statement.isInsert, word]
  rfl

theorem engine_insert {s : Statement} (word : s.keyword = "INSERT") (rows : List Record) :
    x.engine s rows = x.insert rows := by
  simp only [engine, Statement.isInsert, word]
  rfl

theorem engine_update {s : Statement} (word : s.keyword = "UPDATE") (rows : List Record) :
    x.engine s rows = (.ok {}, rows.map (x.assign (s.params.getLast?.getD .null))) := by
  simp only [engine, Statement.isInsert, word]
  rfl

/-- **The shared table serves several clients.** -/
theorem serves (ordinary : x.key.primary ∉ x.columns)
    (keyed : ∀ column ∈ x.columns, x.inserted.isUnset column = false)
    (differ : (Statement.selectRow x.schema.table [(x.key.primary, .null)]).sql
      ≠ (Statement.selectRow x.schema.table x.wanted).sql) :
    Serves x.engine x.schema.table id x.key x.wanted x.inserted x.assigned where
  select := selects fun rows => by
    rw [engine_select (Statement.keyword_selectRow _ _), if_pos (beq_self_eq_true _)]
  selectById := fun id null => selects fun rows => by
    -- The text does not depend on the primary key.
    have other : (Statement.selectRow x.schema.table [(x.key.primary, id)]).sql
        ≠ (Statement.selectRow x.schema.table x.wanted).sql := differ
    have last : (Statement.selectRow x.schema.table [(x.key.primary, id)]).params.getLast?
        = some id.param := rfl
    rw [engine_select (Statement.keyword_selectRow _ _), if_neg (by simpa using other), last,
      Option.getD_some]
    simp only [select, UniqueKey.carries_param]
  insert := inserts ordinary keyed (engine_insert (Statement.keyword_insertRow _ _))
  update := fun id null rows hr => by
    refine ⟨rows, x.assign id, .refl, assigns id, fun _ => ⟨{}, _, ?_, rfl⟩⟩
    have last : (Statement.updateRow x.schema.table x.key.primary id x.assigned).params.getLast?
        = some id.param := List.getLast?_concat
    have assigned : x.assign id.param = x.assign id := by
      funext row
      simp only [assign, UniqueKey.carries_param]
    rw [engine_update (Statement.keyword_updateRow _ _ _ _), last, Option.getD_some, assigned]

theorem eq_ok_of_isOk {ε : Type} {result : Except ε Unit} (h : result.isOk = true) :
    result = .ok () := by
  cases result with
  | ok _ => rfl
  | error e => cases h

/-- A shared table that fits is the setting of an upsert. -/
theorem setting (h : x.fits = true) {rows : List Record} (hr : x.key.Respects rows) :
    x.model.Setting id x.key x.data x.columns (x.world rows) := by
  simp only [fits, Bool.and_eq_true, Bool.not_eq_true', List.all_eq_true, bne_iff_ne] at h
  obtain ⟨⟨⟨⟨⟨⟨visible, constrained⟩, columns⟩, unkeyed⟩, creatable⟩, updatable⟩, differ⟩ := h
  have assignable : ∀ column ∈ x.columns,
      column ≠ x.key.primary ∧ column ≠ "id" ∧ column ≠ createdAt := by
    intro column hc
    obtain ⟨⟨⟨⟨ne_primary, ne_id⟩, ne_created⟩, -⟩, -⟩ := columns column hc
    exact ⟨ne_primary, ne_id, ne_created⟩
  have given : ∀ column ∈ x.columns, x.data.isUnset column = false :=
    fun column hc => (columns column hc).1.2
  have ordinary : x.key.primary ∉ x.columns := fun hc => (assignable _ hc).1 rfl
  have scalar : ∀ column ∈ x.columns, ∀ f, x.schema.field? column = some f → f.kind ≠ .json := by
    intro column hc f hf
    have kind := (columns column hc).2
    rw [hf] at kind
    simpa using kind
  have keyed : ∀ column ∈ x.columns, x.inserted.isUnset column = false := by
    intro column hc
    rw [← given column hc]
    refine Record.isUnset_congr ?_
    refine (Schema.get?_encode (scalar column hc) _).trans ?_
    exact Schema.get?_complete x.schema x.now [] (given column hc)
  exact
    { hooks := rfl
      visible := visible
      primary := rfl
      columns := fun _ => Iff.rfl
      constrained := List.isEmpty_eq_false_iff.1 constrained
      assignable := assignable
      given := given
      scalar := scalar
      unkeyed := by simpa [Record.contains] using unkeyed
      creatable := eq_ok_of_isOk creatable
      updatable := eq_ok_of_isOk updatable
      respects := hr
      serves := serves ordinary keyed differ }

end SharedTable

end RecordMapper
