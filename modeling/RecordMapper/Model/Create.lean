import RecordMapper.Model.Basic
import RecordMapper.Schema.Validation
import RecordMapper.Sql.Insert

/-!
# Creating records

A record is completed, checked, inserted and read back.

* `Schema.complete` fills the fields that are not set: a declared default comes first; an optional
  field without one takes the fallback of its kind if its own constraints accept that; the engine's
  fields, unique fields, relations and the mark of deletion take nothing.
* `Model.create` is the whole operation, with its hooks.
-/

namespace RecordMapper

/-! ## Completing a record -/

/-- The default of a field, and the count of drawn values after it. An instant is given as its
text. -/
def Field.draw? (f : Field) (now : Instant) (draws : Draws) : Option Value × Draws :=
  let given (v : Value) : Value := match v with
    | .instant t => .text t.canonical
    | v => v
  match f.default? with
  | none => (none, draws)
  | some (.literal v) => (some (given v), draws)
  | some (.produced produce) => (some (given (produce (draws.count f.name) now)), draws.add f.name)

/-- Whether a field without default takes no fallback. -/
def Field.withoutFallback (f : Field) : Bool :=
  f.required || f.primaryKey || f.autoIncrement || f.unique || f.relation.isSome
    || f.name == deletedAt

/-- The fallback of a field: that of its kind, if the field's constraints accept it. -/
def Field.fallback? (f : Field) (now : Instant) : Option Value :=
  if f.withoutFallback then none
  else
    let v := f.kind.fallback now
    if v.isNull || f.constraints.all fun c => (c.check f.name v).isNone then some v else none

/-- Fills one field that is not set. -/
def Field.complete (f : Field) (now : Instant) (data : Record) (draws : Draws) : Record × Draws :=
  if !data.isUnset f.name then (data, draws)
  else
    match f.draw? now draws with
    | (some v, draws) => (data.set f.name v, draws)
    | (none, draws) =>
      match f.fallback? now with
      | some v => (data.set f.name v, draws)
      | none => (data, draws)

/-- Stamps a field that is not set. -/
def Record.stampUnset (now : Instant) (data : Record) (field : String) : Record :=
  if data.isUnset field then data.set field (.stamp now) else data

/-- Fills the fields that are not set, in declared order, and then the timestamps. -/
def Schema.complete (s : Schema) (now : Instant) (data : Record) (draws : Draws) :
    Record × Draws :=
  let (data, draws) :=
    s.fields.foldl (fun (data, draws) f => f.complete now data draws) (data, draws)
  if s.options.timestamps then ([createdAt, updatedAt].foldl (Record.stampUnset now) data, draws)
  else (data, draws)

namespace Model

variable {σ : Type}

/-- Completes a record that is about to be inserted. -/
def prepareInsert (m : Model σ) (data : Record) : Call σ Record :=
  modifyGet fun w =>
    let (data, draws) := m.schema.complete w.now data w.draws
    (data, { w with draws })

/-! ## Inserting -/

/-- The key of a row that was inserted: the one it was given, or else the one that the engine
reports. -/
def insertedKey (m : Model σ) (data : Record) (info : ReplyInfo) : Except Error Value :=
  match data.get? m.schema.keyName with
  | some id => if id.isNull then reported info else .ok id
  | none => reported info
where
  /-- The key that the engine reports. -/
  reported (info : ReplyInfo) : Except Error Value :=
    match info.lastInsertId with
    | some n => .ok (.int n)
    | none => .error (.missingRow (.noIdentifier m.table))

/-- Inserts a record and gives it as it is stored. -/
def create (m : Model σ) (data : Record) : Call σ Record := do
  let data ← Call.change m.hooks.beforeCreate .beforeCreate data
  let data ← m.prepareInsert data
  Call.lift (m.schema.validate .create data)
  let data := m.schema.encode data
  let reply ← m.execute (Insert.one m.table data).statement
  let id ← Call.lift (m.insertedKey data reply.info)
  match ← m.fetchById id with
  | none => throw (.missingRow (.notFound m.table id))
  | some record =>
    Call.notify m.hooks.afterCreate .afterCreate record
    return record

end Model

end RecordMapper
