import RecordMapper.Engine.Basic
import RecordMapper.Sql.Query
import RecordMapper.Text.Quoted

/-!
# Hooks

The functions that a model calls around its statements, at most one for each event. A hook before a
stage may change what the stage works on, and every hook may refuse.
-/

namespace RecordMapper

/-- The hooks of a model. -/
structure Hooks where
  /-- Before a record is inserted. -/
  beforeCreate : Option (Record → Except Error Record) := none
  /-- After a record was inserted and read back. -/
  afterCreate : Option (Record → Except Error Unit) := none
  /-- Before rows are changed. -/
  beforeUpdate : Option (Record → Filter → Except Error (Record × Filter)) := none
  /-- After a row was changed and read back. -/
  afterUpdate : Option (Record → Except Error Unit) := none
  /-- Before rows are deleted. -/
  beforeDelete : Option (Filter → Except Error Filter) := none
  /-- After rows were deleted. -/
  afterDelete : Option (UInt64 → Except Error Unit) := none
  /-- Before rows are looked for. -/
  beforeFind : Option (Query → Except Error Query) := none
  /-- After rows were found. -/
  afterFind : Option (List Record → Except Error (List Record)) := none

/-- The call of a hook, with what it received. -/
inductive HookCall where
  /-- With the record to be inserted. -/
  | beforeCreate (data : Record)
  /-- With the record as read back. -/
  | afterCreate (record : Record)
  /-- With the assigned fields and the filter. -/
  | beforeUpdate (data : Record) (filter : Filter)
  /-- With the record as read back. -/
  | afterUpdate (record : Record)
  /-- With the filter. -/
  | beforeDelete (filter : Filter)
  /-- With the number of deleted rows. -/
  | afterDelete (count : UInt64)
  /-- With the query. -/
  | beforeFind (query : Query)
  /-- With the records. -/
  | afterFind (records : List Record)
deriving DecidableEq, Repr

namespace Hooks

/-- The events for which a hook is registered. -/
def registered (h : Hooks) : List String :=
  let events :=
    [("before_create", h.beforeCreate.isSome), ("after_create", h.afterCreate.isSome),
     ("before_update", h.beforeUpdate.isSome), ("after_update", h.afterUpdate.isSome),
     ("before_delete", h.beforeDelete.isSome), ("after_delete", h.afterDelete.isSome),
     ("before_find", h.beforeFind.isSome), ("after_find", h.afterFind.isSome)]
  (events.filter (·.2)).map (·.1)

/-- The hooks as diagnostics show them. -/
def inspect (h : Hooks) : String :=
  "ModelHooks \x7b registered: [" ++ ", ".intercalate (h.registered.map Text.quoteDouble)
    ++ "] \x7d"

end Hooks

end RecordMapper
