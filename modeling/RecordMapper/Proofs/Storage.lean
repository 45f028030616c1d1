import RecordMapper.Proofs.Record
import RecordMapper.Schema.Storage

/-!
# Stored values

What storing and reading do to a single column: nothing, unless the column's kind has a stored form
of its own.

* `Schema.get?_encode` and `Schema.get?_hydrate`.
* `Schema.get?_encode_field` is the stored form of any field's value. `Schema.readUnder` is how any
  value is read under a name.
-/

namespace RecordMapper

namespace Kind

theorem encode_of_ne_json {kind : Kind} (h : kind ≠ .json) (v : Value) : kind.encode v = v := by
  cases kind <;> first | exact absurd rfl h | rfl

theorem hydrate_of_ne {kind : Kind} (hb : kind ≠ .boolean) (hj : kind ≠ .json) (v : Value) :
    kind.hydrate v = v := by
  cases kind <;> first | exact absurd rfl hb | exact absurd rfl hj | rfl

end Kind

namespace Schema

/-- The value of a column whose kind leaves all values as they are. -/
theorem get?_mapDeclared {s : Schema} {convert : Kind → Value → Value} {column : String}
    (h : ∀ f, s.field? column = some f → ∀ v, convert f.kind v = v) (r : Record) :
    (s.mapDeclared convert r).get? column = r.get? column := by
  rw [mapDeclared, Record.get?_mapValues]
  rcases hf : s.field? column with _ | f
  · simp
  · have same : convert f.kind = id := funext (h f hf)
    simp [same]

theorem get?_encode {s : Schema} {column : String}
    (h : ∀ f, s.field? column = some f → f.kind ≠ .json) (r : Record) :
    (s.encode r).get? column = r.get? column :=
  get?_mapDeclared (fun f hf => Kind.encode_of_ne_json (h f hf)) r

/-- The stored form of a field's value. -/
theorem get?_encode_field {s : Schema} {f : Field} (h : s.field? f.name = some f) (r : Record) :
    (s.encode r).get? f.name = (r.get? f.name).map f.kind.encode := by
  rw [encode, mapDeclared, Record.get?_mapValues, h]

theorem get?_hydrate {s : Schema} {column : String}
    (h : ∀ f, s.field? column = some f → f.kind ≠ .boolean ∧ f.kind ≠ .json) (r : Record) :
    (s.hydrate r).get? column = r.get? column :=
  get?_mapDeclared (fun f hf => Kind.hydrate_of_ne (h f hf).1 (h f hf).2) r

/-- A value as it is read under a name: as that of the field of this name, if there is one. -/
def readUnder (s : Schema) (name : String) (v : Value) : Value :=
  match s.field? name with
  | some f => f.kind.hydrate v
  | none => v

/-- **The values of a row** are read under their names. -/
theorem get?_hydrate_row (s : Schema) (row : Record) (name : String) :
    (s.hydrate row).get? name = (row.get? name).map (s.readUnder name) :=
  Record.get?_mapValues _ row name

theorem get?_hydrate_eq_none {s : Schema} {row : Record} {name : String} :
    (s.hydrate row).get? name = none ↔ row.get? name = none := by
  rw [get?_hydrate_row, Option.map_eq_none_iff]

theorem fields_encode (s : Schema) (r : Record) : (s.encode r).fields = r.fields :=
  Record.fields_mapValues _ r

end Schema

end RecordMapper
