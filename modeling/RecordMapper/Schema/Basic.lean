import RecordMapper.Failure.Basic
import RecordMapper.Schema.Field
import RecordMapper.Text.Words

/-!
# Schemas

The fields and options of one table.

* `Schema.declare` checks a declaration and adds the managed fields: `created_at` and `updated_at`
  for a table with timestamps, and `deleted_at` for one that keeps deleted rows. A field declared
  under one of these names stays as it is.
* A schema knows the place of its primary key.
-/

namespace RecordMapper

/-- The field that holds when a row was created. -/
def createdAt : String := "created_at"

/-- The field that holds when a row was last changed. -/
def updatedAt : String := "updated_at"

/-- The field that holds when a row was deleted, null as long as it is not. -/
def deletedAt : String := "deleted_at"

/-- An index over several columns. -/
structure CompositeIndex where
  /-- The columns in order. -/
  fields : List String
  /-- Whether no two rows agree in all columns. -/
  unique : Bool := false
  /-- The name, if it is not to be made from the columns. -/
  name : Option String := none
deriving DecidableEq, Repr

/-- The options of a table. -/
structure SchemaOptions where
  /-- Whether creation and change are stamped. -/
  timestamps : Bool := false
  /-- Whether deleted rows are kept and marked. -/
  softDelete : Bool := false
  /-- Whether marked rows are found all the same. -/
  paranoid : Bool := false
  /-- The indexes over several columns. -/
  indexes : List CompositeIndex := []
deriving DecidableEq, Repr

/-- The fields and options of a table. -/
structure Schema where
  /-- The table. -/
  table : String
  /-- The fields as declared, and the managed ones after them. -/
  fields : List Field
  /-- The options. -/
  options : SchemaOptions
  /-- The place of the primary key among the fields. -/
  keyIndex : Fin fields.length

/-! ## Declaring a schema -/

namespace Schema

/-- Whether a field of this name is in a list. -/
def declares (fields : List Field) (name : String) : Bool :=
  fields.any fun f => f.name == name

/-- A managed field that is stamped with the time. -/
def stampedField (name : String) : Field :=
  { name, kind := .date, default? := some (.produced fun _ now => .stamp now) }

/-- A field at the end of a list, unless one of its name is there. -/
def addManaged (f : Field) (fields : List Field) : List Field :=
  if declares fields f.name then fields else fields ++ [f]

/-- The fields with the managed ones that the options ask for. -/
def withManaged (options : SchemaOptions) (fields : List Field) : List Field :=
  let stamped :=
    if options.timestamps then
      addManaged (stampedField updatedAt) (addManaged (stampedField createdAt) fields)
    else fields
  if options.softDelete then addManaged { name := deletedAt, kind := .date } stamped else stamped

/-- Whether a text has nothing but blanks. -/
def isBlank (s : String) : Bool :=
  s.toList.all Text.isBlank

/-- What is wrong with the literal default of a required field. -/
def defaultProblems (f : Field) : List String :=
  match f.required, f.default? with
  | true, some (.literal v) =>
    if v.isNull then [f.name ++ " is required"] else (f.check v).map (·.message)
  | _, _ => []

/-- What is wrong with one field's declaration. -/
def fieldFault? (table : String) (f : Field) : Option SchemaFault :=
  if isBlank f.name then some (.blankField table)
  else if f.autoIncrement && !f.primaryKey then some (.autoIncrementNotKey table f.name)
  else if f.autoIncrement && f.kind != .number then some (.autoIncrementNotNumber table f.name)
  else if (defaultProblems f).isEmpty then none
  else some (.invalidDefault table f.name (defaultProblems f))

/-- What is wrong with the first faulty field; `seen` are the names before. -/
def fieldsFault? (table : String) (seen : List String) : List Field → Option SchemaFault
  | [] => none
  | f :: rest =>
    if seen.contains f.name then some (.duplicateField table f.name)
    else (fieldFault? table f).or (fieldsFault? table (f.name :: seen) rest)

/-- What is wrong with an index over several columns. -/
def indexFault? (table : String) (fields : List Field) (index : CompositeIndex) :
    Option SchemaFault :=
  if index.fields.isEmpty then some (.emptyIndex table)
  else
    (index.fields.find? fun name => !declares fields name).map fun missing =>
      .unknownIndexField table missing

/-- The schema of a declaration, or what is wrong with it. -/
def declare (table : String) (declared : List Field) (options : SchemaOptions) :
    Except Error Schema :=
  let fields := withManaged options declared
  if isBlank table then .error (.invalidSchema .blankTable)
  else
    match fieldsFault? table [] fields with
    | some fault => .error (.invalidSchema fault)
    | none =>
      match fields.countP (·.primaryKey), fields.findFinIdx? (·.primaryKey) with
      | 1, some keyIndex =>
        match options.indexes.findSome? (indexFault? table fields) with
        | some fault => .error (.invalidSchema fault)
        | none => .ok ⟨table, fields, options, keyIndex⟩
      | found, _ => .error (.invalidSchema (.primaryKeys table found))

/-! ## Reading a schema -/

/-- The field of a name. -/
def field? (s : Schema) (name : String) : Option Field :=
  s.fields.find? fun f => f.name == name

/-- Whether a name is a field's. -/
def hasField (s : Schema) (name : String) : Bool :=
  (s.field? name).isSome

/-- The primary key. -/
def key (s : Schema) : Field :=
  s.fields.get s.keyIndex

/-- The name of the primary key. -/
def keyName (s : Schema) : String :=
  s.key.name

/-- Whether marked rows are hidden from those who look for rows. -/
def hidesDeleted (s : Schema) : Bool :=
  s.options.softDelete && !s.options.paranoid

end Schema

end RecordMapper
