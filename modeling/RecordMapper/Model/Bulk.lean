import RecordMapper.Model.Upsert

/-!
# Bulk operations

The operations on many records at once, in chunks, with an account of what failed.

* `bulkCreate`, `bulkUpdate` and `bulkUpsert` run the operation on every item (`eachItem`).
* `bulkDelete` deletes the keys of a chunk with one statement.
* `batchInsert` inserts the rows of a chunk with one statement and calls no hook.

Failures are collected, or else the first one ends the operation; nothing is taken back.
-/

namespace RecordMapper

/-- How a bulk operation goes about its items. -/
structure BulkOptions where
  /-- The size of a chunk, if it is not that of the settings. -/
  chunkSize : Option UInt64 := none
  /-- Whether failures are collected. -/
  continueOnError : Bool := true
  /-- Whether rows are checked before a batch is inserted. -/
  validate : Bool := true
deriving DecidableEq, Repr

/-- An item that failed. -/
structure BulkFailure where
  /-- Its place among the items. -/
  index : Nat
  /-- Why it failed. -/
  message : String
  /-- The item. -/
  data : Option Record
deriving DecidableEq, Repr

/-- The account of a bulk operation. -/
structure BulkReport where
  /-- The number of inserted records. -/
  created : Nat := 0
  /-- The number of updated records. -/
  updated : Nat := 0
  /-- The number of deleted rows. -/
  deleted : UInt64 := 0
  /-- The items that failed, in order. -/
  errors : List BulkFailure := []
deriving DecidableEq, Repr

namespace BulkReport

/-- The number of records that were done. -/
def completed (r : BulkReport) : UInt64 :=
  UInt64.ofNat (r.created + r.updated) + r.deleted

/-- The number of items that failed. -/
def failed (r : BulkReport) : Nat :=
  r.errors.length

/-- Whether no item failed. -/
def isSuccess (r : BulkReport) : Bool :=
  r.errors.isEmpty

/-- Adds failures at the end. -/
def addErrors (r : BulkReport) (failures : List BulkFailure) : BulkReport :=
  { r with errors := r.errors ++ failures }

/-- Accounts for a failure: adds the failed items, or ends the operation at the first of them. -/
def fail (r : BulkReport) (options : BulkOptions) (first : Nat) (e : Error)
    (failures : List BulkFailure) : Except Error BulkReport :=
  if options.continueOnError then .ok (r.addErrors failures)
  else .error (.bulkAborted first r.completed e)

end BulkReport

/-- The items in chunks of `size + 1`, the last one with what is left. -/
def chunksOf {α : Type} (size : Nat) : List α → List (List α)
  | [] => []
  | x :: rest => (x :: rest.take size) :: chunksOf size (rest.drop size)
termination_by items => items.length
decreasing_by simp only [List.length_drop, List.length_cons]; omega

/-- The items of a list with their places, counted from `start`. -/
def numbered {α : Type} (start : Nat) (items : List α) : List (Nat × α) :=
  items.zipIdx start |>.map fun (x, i) => (i, x)

/-- The chunks of a list, each with its items' places. A size of zero counts as one. -/
def numberedChunks {α : Type} (size : UInt64) (items : List α) : List (List (Nat × α)) :=
  let size := max size.toNat 1
  (numbered 0 (chunksOf (size - 1) items)).map fun (n, chunk) => numbered (n * size) chunk

namespace Model

variable {σ : Type}

/-! ## Item by item -/

/-- What an item counts as when it succeeds. -/
inductive Success where
  /-- An insertion. -/
  | created
  /-- An update. -/
  | updated
deriving DecidableEq, Repr

/-- Counts a success. -/
def Success.count (s : Success) (r : BulkReport) : BulkReport :=
  match s with
  | .created => { r with created := r.created + 1 }
  | .updated => { r with updated := r.updated + 1 }

/-- Runs an operation on one item and accounts for it. -/
def oneItem (options : BulkOptions) (op : Record → Call σ Success) (report : BulkReport)
    (item : Nat × Record) : Call σ BulkReport := do
  match ← Call.attempt (op item.2) with
  | .ok success => return success.count report
  | .error e => Call.lift (report.fail options item.1 e [⟨item.1, e.message, some item.2⟩])

/-- Runs an operation on every item, chunk by chunk. -/
def eachItem (options : BulkOptions) (size : UInt64) (op : Record → Call σ Success)
    (items : List Record) : Call σ BulkReport :=
  (numberedChunks (options.chunkSize.getD size) items).foldlM
    (fun report chunk => chunk.foldlM (oneItem options op) report) {}

/-- Creates every record. -/
def bulkCreate (m : Model σ) (items : List Record) (options : BulkOptions) :
    Call σ BulkReport :=
  eachItem options m.settings.bulk.createChunk
    (fun item => do
      let _ ← m.create item
      return .created) items

/-- Updates one record by the key that it carries. -/
def updateItem (m : Model σ) (item : Record) : Call σ Success := do
  match (item.get? m.schema.keyName).bind Value.nonNull? with
  | none => throw (.invalidArgument (.itemWithoutKey m.table m.schema.keyName))
  | some id =>
    match ← m.updateById id (item.erase m.schema.keyName) with
    | some _ => return .updated
    | none => throw (.invalidArgument (.noSuchRecord m.table m.schema.keyName id))

/-- Updates every record by the key that it carries. -/
def bulkUpdate (m : Model σ) (items : List Record) (options : BulkOptions) :
    Call σ BulkReport :=
  eachItem options m.settings.bulk.updateChunk m.updateItem items

/-- Updates or creates every record, matched by the given fields. -/
def bulkUpsert (m : Model σ) (items : List Record) (fields : List String)
    (options : BulkOptions) : Call σ BulkReport :=
  eachItem options m.settings.bulk.upsertChunk
    (fun item => do
      let outcome ← m.upsert (.byFields item fields)
      return if outcome.created then .created else .updated) items

/-! ## Chunk by chunk -/

/-- Deletes the rows of a chunk of keys. -/
def deleteChunk (m : Model σ) (options : BulkOptions) (report : BulkReport)
    (chunk : List (Nat × Value)) : Call σ BulkReport := do
  let key := m.schema.keyName
  match ← Call.attempt (m.delete [.isIn key (chunk.map (·.2))]) with
  | .ok n => return { report with deleted := report.deleted + n }
  | .error e =>
    let failures := chunk.map fun (i, id) =>
      (⟨i, e.message, some (Record.empty.set key id)⟩ : BulkFailure)
    Call.lift (report.fail options ((chunk.head?.map (·.1)).getD 0) e failures)

/-- Deletes the rows of all keys. -/
def bulkDelete (m : Model σ) (ids : List Value) (options : BulkOptions) :
    Call σ BulkReport :=
  (numberedChunks (options.chunkSize.getD m.settings.bulk.deleteChunk) ids).foldlM
    (m.deleteChunk options) {}

/-- Completes and checks one row; a good one is added, in stored form, to those that are ready. -/
def prepareRow (m : Model σ) (options : BulkOptions)
    (state : BulkReport × List (Nat × Record)) (item : Nat × Record) :
    Call σ (BulkReport × List (Nat × Record)) := do
  let (report, ready) := state
  let row ← m.prepareInsert item.2
  let checked := if options.validate then m.schema.validate .create row else .ok ()
  match checked with
  | .ok () => return (report, ready ++ [(item.1, m.schema.encode row)])
  | .error e =>
    let report ← Call.lift (report.fail options item.1 e [⟨item.1, e.message, some row⟩])
    return (report, ready)

/-- The columns of some rows, in the order in which they first occur. -/
def columnsOf (rows : List Record) : List String :=
  (rows.flatMap Record.fields).foldl
    (fun columns field => if columns.contains field then columns else columns ++ [field]) []

/-- The statements that insert a chunk of rows: one for all rows, or one for each row where there is
no column. -/
def batchStatements (m : Model σ) (columns : List String) (rows : List Record) :
    List Statement :=
  if columns.isEmpty then
    List.replicate rows.length (Insert.one m.table Record.empty).statement
  else [(Insert.many m.table columns rows).statement]

/-- Inserts a chunk of rows. -/
def insertChunk (m : Model σ) (options : BulkOptions) (columns : List String)
    (report : BulkReport) (chunk : List (Nat × Record)) : Call σ BulkReport := do
  let statements := m.batchStatements columns (chunk.map (·.2))
  match ← Call.attempt (statements.forM fun s => do let _ ← m.execute s) with
  | .ok () => return { report with created := report.created + chunk.length }
  | .error e =>
    let failures := chunk.map fun (i, row) => (⟨i, e.message, some row⟩ : BulkFailure)
    Call.lift (report.fail options ((chunk.head?.map (·.1)).getD 0) e failures)

/-- The number of rows of one statement: the size of a chunk, as far as the parameters allow, and at
least one. -/
def rowsPerStatement (size maxParameters : UInt64) (columns : List String) : Nat :=
  let budget := maxParameters.toNat / Nat.max columns.length 1
  Nat.max (Nat.min (Nat.max size.toNat 1) budget) 1

/-- Inserts rows with as few statements as the limits allow. -/
def batchInsert (m : Model σ) (rows : List Record) (options : BulkOptions) :
    Call σ BulkReport := do
  let (report, ready) ← (numbered 0 rows).foldlM (m.prepareRow options) ({}, [])
  let columns := columnsOf (ready.map (·.2))
  let size := rowsPerStatement (options.chunkSize.getD m.settings.bulk.insertChunk)
    m.settings.maxParameters columns
  let report ← (chunksOf (size - 1) ready).foldlM (m.insertChunk options columns) report
  return { report with errors := report.errors.mergeSort fun a b => a.index ≤ b.index }

end Model

end RecordMapper
