import RecordMapper.Model.Basic
import RecordMapper.Schema.Validation

/-!
# Changing and deleting records

* `Model.update` assigns the fields of a record to all rows of a filter. The primary key, `id` and
  `created_at` are never assigned, and a table with timestamps stamps `updated_at`.
* `Model.softDelete` and `Model.restore` are updates of the mark of deletion.
* `Model.delete` removes the rows of a filter.
-/

namespace RecordMapper.Model

variable {σ : Type}

/-! ## Updates -/

/-- The fields of a record that an update assigns. -/
def assignable (m : Model σ) (data : Record) : Record :=
  ((data.erase m.schema.keyName).erase "id").erase createdAt

/-- The assigned fields, with the stamp of a table that has timestamps. -/
def stamped (m : Model σ) (now : Instant) (data : Record) : Record :=
  if m.schema.options.timestamps then data.set updatedAt (.stamp now) else data

/-- Calls the hook before an update, if one is registered. -/
def beforeUpdate (m : Model σ) (data : Record) (filter : Filter) : Call σ (Record × Filter) :=
  Call.change (m.hooks.beforeUpdate.map fun f (data, filter) => f data filter)
    (fun (data, filter) => .beforeUpdate data filter) (data, filter)

/-- Assigns the fields of a record to the rows of a filter. -/
def update (m : Model σ) (data : Record) (filter : Filter) : Call σ ReplyInfo := do
  let (data, filter) ← m.beforeUpdate data filter
  let data := m.assignable data
  if data.isEmpty then throw .noFieldsToUpdate
  let data := m.stamped (← Call.now) data
  Call.lift (m.schema.validate .partialUpdate data)
  Call.lift (m.checkFilter filter)
  let t ← Call.lift ((m.query.addFilter filter).update (m.schema.encode data))
  let reply ← m.execute t.statement
  return reply.info

/-- Assigns fields to the row of a key and gives the record as it is stored, if there is one. -/
def updateById (m : Model σ) (id : Value) (data : Record) : Call σ (Option Record) := do
  let _ ← m.update data [.eq m.schema.keyName id]
  match ← m.fetchById id with
  | none => return none
  | some record =>
    Call.notify m.hooks.afterUpdate .afterUpdate record
    return some record

/-! ## Marks of deletion -/

/-- Refuses a table that does not keep deleted rows. -/
def requireSoftDelete (m : Model σ) (operation : String) : Except Error Unit :=
  if m.schema.options.softDelete then .ok ()
  else .error (.invalidArgument (.needsSoftDelete m.table operation))

/-- Marks the rows of a filter as deleted and gives their number; rows that are marked already stay
as they are. -/
def softDelete (m : Model σ) (filter : Filter) : Call σ UInt64 := do
  Call.lift (m.requireSoftDelete "soft_delete")
  let data := Record.empty.set deletedAt (.stamp (← Call.now))
  let info ← m.update data (filter ++ [.isNull deletedAt])
  return info.changes

/-- Removes the mark from the rows of a filter that are marked as deleted and gives their number. -/
def restore (m : Model σ) (filter : Filter) : Call σ UInt64 := do
  Call.lift (m.requireSoftDelete "restore")
  let data := Record.empty.set deletedAt .null
  let info ← m.update data (filter ++ [.isNotNull deletedAt])
  return info.changes

/-! ## Deletion -/

/-- Deletes the rows of a filter and gives their number. -/
def delete (m : Model σ) (filter : Filter) : Call σ UInt64 := do
  let filter ← Call.change m.hooks.beforeDelete .beforeDelete filter
  Call.lift (m.checkFilter filter)
  let reply ← m.execute (m.query.addFilter filter).delete.statement
  Call.notify m.hooks.afterDelete .afterDelete reply.info.changes
  return reply.info.changes

/-- Deletes the row of a key, and tells whether there was one. -/
def deleteById (m : Model σ) (id : Value) : Call σ Bool := do
  return 0 < (← m.delete [.eq m.schema.keyName id])

end RecordMapper.Model
