import RecordMapper.Proofs.Upsert.Statements
import RecordMapper.Proofs.Upsert.Table

/-!
# An engine that serves several clients

What an engine does with the statements of one client, when it keeps a table with a unique
constraint and other clients write to that table between any two of these statements.

* `Selects`, `Inserts` and `Updates` say what the engine does with a statement, on whatever table
  the others have left.
* `Serves` says this of all statements about one key.
-/

namespace RecordMapper

theorem UniqueKey.cell_bound (k : UniqueKey) (r : Record) (column : String) :
    k.cell r.bound column = (r.get? column).bind fun v =>
      if v.isNull then none else some (k.norm v.param) := by
  rw [cell, Record.bound, Record.get?_mapValues]
  cases r.get? column with
  | none => rfl
  | some v => rw [Option.map_some, Option.bind_some, Option.bind_some, Value.isNull_param]

/-- Values are compared as they are bound. -/
theorem UniqueKey.carries_param (k : UniqueKey) (row : Record) (column : String) (v : Value) :
    k.Carries row [(column, v.param)] ↔ k.Carries row [(column, v)] := by
  simp [Carries]

variable {σ : Type}

/-- Selects a row that holds the wanted values, if there is one. -/
def Selects (engine : Engine σ) (rows : σ → List Record) (k : UniqueKey) (s : Statement)
    (wanted : Entries) : Prop :=
  ∀ state, k.Respects (rows state) →
    ∃ reply next, engine s state = (.ok reply, next) ∧ k.Steps (rows state) (rows next) ∧
      ((reply.rows = [] ∧ ∀ row ∈ rows next, ¬ k.Carries row wanted) ∨
        ∃ row ∈ rows next, k.Carries row wanted ∧ reply.rows = [row])

/-- The row that is stored for an inserted record. -/
structure Stores (k : UniqueKey) (table : List Record) (data : Record) (info : ReplyInfo)
    (row : Record) : Prop where
  /-- It holds the values that are bound. -/
  columns : ∀ column ∈ data.fields, column ≠ k.primary →
    k.cell row column = k.cell data.bound column
  /-- It has a primary key that no other row has: the one that is bound, or else one that the engine
  chooses and reports. -/
  primary : ∃ v, row.get? k.primary = some v ∧ v.isNull = false ∧ v.param = v ∧
    (∀ other ∈ table, k.cell other k.primary ≠ some (k.norm v)) ∧
    (k.cell data.bound k.primary = some (k.norm v) ∨
      k.cell data.bound k.primary = none ∧
        ∃ n, info.lastInsertId = some n ∧ k.norm v = k.norm (.int n))

/-- Rejects a record whose key a row of the table carries, and stores any other record. -/
def Inserts (engine : Engine σ) (rows : σ → List Record) (k : UniqueKey) (s : Statement)
    (data : Record) : Prop :=
  ∀ state, k.Respects (rows state) → ∃ table, k.Steps (rows state) table ∧
    (((∃ row ∈ table, k.Clash data.bound row) ∧
        ∃ rejection next, engine s state = (.error rejection, next) ∧ rows next = table ∧
          "UNIQUE constraint failed".toList <:+: rejection.message.toList) ∨
      ((∀ row ∈ table, ¬ k.Clash data.bound row) ∧
        ∃ reply row next, engine s state = (.ok reply, next) ∧ rows next = table ++ [row] ∧
          Stores k table data reply.info row))

/-- A change that assigns a record to the row of a primary key and leaves all else as it is. -/
structure Assigns (k : UniqueKey) (id : Value) (set : Record) (f : Record → Record) : Prop where
  /-- Other rows are not touched. -/
  others : ∀ row, ¬ k.Carries row [(k.primary, id)] → f row = row
  /-- The row holds the values that are bound. -/
  columns : ∀ row, k.Carries row [(k.primary, id)] → ∀ column ∈ set.fields,
    k.cell (f row) column = k.cell set.bound column
  /-- Other columns are not touched. -/
  rest : ∀ row, k.Carries row [(k.primary, id)] → ∀ column, column ∉ set.fields →
    (f row).get? column = row.get? column

/-- Merging the bound record into the rows of the key is such a change. -/
theorem assigns_merge (k : UniqueKey) (id : Value) (set : Record) :
    Assigns k id set fun row =>
      if k.Carries row [(k.primary, id)] then row.merge set.bound else row where
  others row h := if_neg h
  columns row h column hc := by
    have there : column ∈ set.bound.fields := by
      rwa [Record.bound, Record.fields_mapValues]
    obtain ⟨v, hv⟩ := Option.isSome_iff_exists.1 ((Record.mem_fields _ column).1 there)
    rw [if_pos h, UniqueKey.cell, UniqueKey.cell, Record.get?_merge, hv, Option.some_or]
  rest row h column hc := by
    have absent : column ∉ set.bound.fields := by
      rwa [Record.bound, Record.fields_mapValues]
    rw [if_pos h, Record.get?_merge, Record.get?_of_not_mem absent, Option.none_or]

/-- Assigns a record to the row of a primary key, if the table respects its constraint then. -/
def Updates (engine : Engine σ) (rows : σ → List Record) (k : UniqueKey) (s : Statement)
    (id : Value) (set : Record) : Prop :=
  ∀ state, k.Respects (rows state) →
    ∃ table f, k.Steps (rows state) table ∧ Assigns k id set f ∧
      (k.Respects (table.map f) →
        ∃ reply next, engine s state = (.ok reply, next) ∧ rows next = table.map f)

/-- An engine that keeps a table with a unique constraint for several clients: each statement is
evaluated at once, on the table that the others have left. `rows` reads the table from the engine's
state, `wanted` is a key, and `inserted` and `assigned` are the records of one client. -/
structure Serves (engine : Engine σ) (table : String) (rows : σ → List Record) (k : UniqueKey)
    (wanted : Entries) (inserted assigned : Record) : Prop where
  /-- The key is looked for. -/
  select : Selects engine rows k (.selectRow table wanted) wanted
  /-- A primary key is looked for. -/
  selectById : ∀ id : Value, id.isNull = false →
    Selects engine rows k (.selectRow table [(k.primary, id)]) [(k.primary, id)]
  /-- The record is inserted. -/
  insert : Inserts engine rows k (.insertRow table inserted) inserted
  /-- The record is assigned. -/
  update : ∀ id : Value, id.isNull = false →
    Updates engine rows k (.updateRow table k.primary id assigned) id assigned

end RecordMapper
