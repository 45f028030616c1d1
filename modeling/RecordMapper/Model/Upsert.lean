import RecordMapper.Model.Create
import RecordMapper.Model.Find
import RecordMapper.Model.Update

/-!
# Finding or creating

An engine without transactions cannot insert or update in one step: a row is looked for and then
updated or inserted. Another client may insert the row in between. The insertion then fails as a
duplicate entry, and the row is looked for once more.
-/

namespace RecordMapper

/-- Which row is meant, and what is to become of it. -/
inductive UpsertRequest where
  /-- The row that agrees with `data` in some fields; `data` is inserted or assigned. -/
  | byFields (data : Record) (fields : List String)
  /-- The row of a filter; `create` is inserted or `update` assigned. -/
  | explicit (filter : Filter) (create update : Record)
deriving DecidableEq, Repr

/-- What was done. -/
structure UpsertOutcome where
  /-- The record as it is stored. -/
  record : Record
  /-- Whether it was inserted. -/
  created : Bool := false
  /-- Whether it was updated. -/
  updated : Bool := false
deriving DecidableEq, Repr

/-- The filter, the record to insert and the record to assign. Fields without a value do not take
part in the filter. -/
def UpsertRequest.parts : UpsertRequest → Filter × Record × Record
  | .byFields data fields =>
    let condition (field : String) : Option Condition :=
      match data.get? field with
      | some v => if v.isNull then none else some (.eq field v)
      | none => none
    (fields.filterMap condition, data, data)
  | .explicit filter create update => (filter, create, update)

namespace Model

variable {σ : Type}

/-! ## Rows that are there -/

/-- Assigns a record to a row that was found, if it assigns anything. -/
def applyUpdate (m : Model σ) (found update : Record) : Call σ UpsertOutcome := do
  match found.get? m.schema.keyName with
  | none => throw (.invalidArgument (.rowWithoutKey m.table m.schema.keyName))
  | some id =>
    let assigns := update.fields.any fun f =>
      f != m.schema.keyName && f != "id" && f != createdAt
    if !assigns then return { record := found }
    else
      match ← m.updateById id update with
      | some record => return { record, updated := true }
      | none => throw (.missingRow (.disappeared m.table id))

/-- Inserts a record. If that fails as a duplicate entry, looks for the row again and goes on with
`lost`; if the row is not there the failure stands. -/
def createOrElse (m : Model σ) (data : Record) (filter : Filter)
    (lost : Record → Call σ UpsertOutcome) : Call σ UpsertOutcome := do
  match ← Call.attempt (m.create data) with
  | .ok record => return { record, created := true }
  | .error e =>
    if e.isDuplicateEntry then
      match ← m.findOne { filter } with
      | some found => lost found
      | none => throw e
    else throw e

/-- Refuses an empty filter. -/
def requireMatch (m : Model σ) (operation : String) (filter : Filter) : Except Error Unit :=
  if filter.isEmpty then .error (.invalidArgument (.nothingToMatch m.table operation)) else .ok ()

/-! ## Operations -/

/-- Updates the row that is meant, or inserts it. -/
def upsert (m : Model σ) (request : UpsertRequest) : Call σ UpsertOutcome := do
  let (filter, create, update) := request.parts
  Call.lift (m.requireMatch "upsert" filter)
  match ← m.findOne { filter } with
  | some found => m.applyUpdate found update
  | none => m.createOrElse create filter fun found => m.applyUpdate found update

/-- Refuses a value that can be no key: where the engine numbers the rows, what is no positive whole
number, and else what the key's kind does not accept. -/
def checkIdentifier (m : Model σ) (id : Value) : Except Error Unit :=
  let key := m.schema.key
  let valid :=
    if key.autoIncrement then
      match id with
      | .int n => 0 < n
      | _ => false
    else !id.isNull && key.kind.accepts id
  if valid then .ok ()
  else
    .error (.invalidArgument (.invalidIdentifier m.table id key.name
      (if key.autoIncrement then "a positive integer is required" else key.kind.describe)))

/-- Updates the row of a key, or inserts it with that key. -/
def upsertById (m : Model σ) (id : Value) (data : Record) : Call σ UpsertOutcome := do
  Call.lift (m.checkIdentifier id)
  let key := m.schema.keyName
  m.upsert (.explicit [.eq key id] (data.set key id) data)

/-- The record of a filter, inserted if there is none; never updates. -/
def createIfNotExists (m : Model σ) (filter : Filter) (data : Record) :
    Call σ UpsertOutcome := do
  Call.lift (m.requireMatch "create_if_not_exists" filter)
  match ← m.findOne { filter } with
  | some found => return { record := found }
  | none => m.createOrElse data filter fun found => pure { record := found }

end Model

end RecordMapper
