import RecordMapper.Proofs.Document.Texts
import RecordMapper.Proofs.Hooks.Operations
import RecordMapper.Proofs.Model.Defaults
import RecordMapper.Proofs.Model.Rereading
import RecordMapper.Proofs.Schema.DefaultLiterals
import RecordMapper.Proofs.Storage.ReadBack

/-!
# Defaults of columns

A literal default goes two ways: it is written into the declaration of its column, for rows that are
inserted without the column, and every creation that leaves the field unset binds it.

* `Value.literalText?` is the text that the literal of a default denotes.
* `Schema.inserts_default` is what a creation binds, whatever hooks are registered.
* `Kind.hydrate_default_iff`: the two ways are read back as the same value, unless the field is one
  of documents and the default a text that reads as one.
* `column_default_goes_two_ways` puts them together. `stickers_differ` is a default that is read
  back as a number in one way and as a text in the other.
-/

namespace RecordMapper

/-! ## Texts of defaults -/

/-- The text that a value is written as in a literal: a text itself, or the text of a document. -/
def Value.literalText? : Value → Option String
  | .text s => some s
  | .document d => some d.compact
  | _ => none

theorem Value.quoted_of_literalText? {v : Value} {text : String}
    (held : v.literalText? = some text) : v.Quoted text := by
  cases v with
  | text s => exact Option.some.inj held ▸ .text s
  | document d => exact Option.some.inj held ▸ .document d
  | _ => cases held

/-- Such a default is given as it is. -/
theorem Value.given_eq {v : Value} {text : String} (held : v.literalText? = some text) :
    v.given = v ∧ v.isNull = false := by
  cases v with
  | text s => exact ⟨rfl, rfl⟩
  | document d => exact ⟨rfl, rfl⟩
  | _ => cases held

/-- A default that is taken for another value: a text in a field of documents that reads as the
document `d`. -/
def Field.Mistakes (f : Field) (v : Value) (d : Document) : Prop :=
  f.kind = .json ∧ ∃ s, v = .text s ∧ Document.ofText? s = some d

/-! ## Two ways to a value -/

/-- A document stands for a text only if it is one. -/
theorem Value.ofDocument_eq_text {d : Document} {s : String} (same : ofDocument d = .text s) :
    d = .text s := by
  cases d with
  | text other => exact congrArg Document.text (Value.text.inj same)
  | number n =>
    cases n with
    | whole n =>
      rw [ofDocument] at same
      split at same <;> cases same
    | float x => cases same
  | _ => cases same

namespace Kind

variable {kind : Kind} {v : Value} {text : String}

/-- Unless it is a text in a field of documents, a default is bound as the text of its literal. -/
theorem param_encode_default (held : v.literalText? = some text)
    (plain : kind = .json → ∀ s, v ≠ .text s) : (kind.encode v).param = .text text := by
  by_cases json : kind = .json
  · subst json
    cases v with
    | text s => exact absurd rfl (plain rfl s)
    | document d => exact congrArg Value.text (Option.some.inj held)
    | _ => cases held
  · rw [encode_of_ne_json json]
    cases v with
    | text s => exact congrArg Value.text (Option.some.inj held)
    | document d => exact congrArg Value.text (Option.some.inj held)
    | _ => cases held

/-- A text in a field of documents comes back from its parameter as it is. -/
theorem readBack_text (s : String) : Kind.json.readBack (.text s) = .text s :=
  readBack_json nofun ⟨Document.legible_text s, Nat.zero_le _⟩

end Kind

/-- **The literal is read back as the parameter is**, unless the default is taken for another
value. -/
theorem Field.hydrate_default_iff {f : Field} {v : Value} {text : String}
    (held : v.literalText? = some text) :
    f.kind.hydrate (.text text) = f.kind.readBack v ↔ ∀ d, ¬ f.Mistakes v d := by
  by_cases plain : f.kind = .json → ∀ s, v ≠ .text s
  · have same : f.kind.readBack v = f.kind.hydrate (.text text) := by
      rw [Kind.readBack, Kind.param_encode_default held plain]
    refine iff_of_true same.symm fun d => ?_
    rintro ⟨json, s, given, -⟩
    exact plain json s given
  · obtain ⟨json, s, rfl⟩ : f.kind = .json ∧ ∃ s, v = .text s := by
      simpa using plain
    obtain rfl : s = text := Option.some.inj held
    rw [json, Kind.readBack_text]
    cases read : Document.ofText? s with
    | none =>
      have kept : Kind.json.hydrate (.text s) = .text s := by rw [Kind.hydrate, read]
      refine iff_of_true kept fun d => ?_
      rintro ⟨-, other, given, reads⟩
      rw [← Value.text.inj given, read] at reads
      cases reads
    | some d =>
      have taken : Kind.json.hydrate (.text s) = .ofDocument d := by rw [Kind.hydrate, read]
      refine iff_of_false (fun same => ?_) fun none => none d ⟨json, s, rfl, read⟩
      have itself := Value.ofDocument_eq_text (taken.symm.trans same)
      exact Document.ofText?_ne_text s (itself ▸ read)

/-! ## Insertions -/

/-- A statement that inserts a row with a parameter for a column. -/
def Statement.Inserts (s : Statement) (table column : String) (p : Value) : Prop :=
  ∃ row, s = .insertOf table row ∧ (row.get? column).map Value.param = some p

namespace Schema

variable {s : Schema} {table : String} {declared : List Field} {options : SchemaOptions} {f : Field}
  {v : Value} {text : String}

/-- The row that a completed record is inserted as binds the default. -/
theorem inserts_default (hs : declare table declared options = .ok s) (hf : f ∈ s.fields)
    (literal : f.default? = some (.literal v)) (held : v.literalText? = some text)
    {payload : Record} (unset : payload.isUnset f.name = true) (now : Instant) (draws : Draws) :
    Statement.Inserts
      (Insert.one s.table (s.encode (s.complete now payload draws).1)).statement.wire s.table f.name
      (f.kind.encode v).param := by
  obtain ⟨given, some⟩ := v.given_eq held
  have plain : v.given.isNull = false := by
    rw [given]
    exact some
  have filled := get?_complete_default (nodup_of_declare hs) hf literal plain unset now draws
  refine ⟨_, Insert.wire_one_eq _ _, ?_⟩
  rw [get?_encode_field (field?_of_declare hs hf), filled, given]
  rfl

/-- The value of a declared field in a row that is read back. -/
theorem get?_hydrate_field (hs : declare table declared options = .ok s) (hf : f ∈ s.fields)
    {row : Record} {p : Value} (holds : row.get? f.name = some p) :
    (s.hydrate row).get? f.name = some (f.kind.hydrate p) := by
  rw [get?_hydrate_row, holds, Option.map_some, readUnder, field?_of_declare hs hf]

end Schema

namespace Model

variable {σ : Type} {m : Model σ}

/-- Whatever happens after an insertion, it happens and comes to an end. -/
theorem unfolding_reread (row : Record) (info : ReplyInfo) (w : World σ) :
    m.Unfolding (do
      let id ← Call.lift (m.insertedKey row info)
      match ← m.fetchById id with
      | none => throw (.missingRow (.notFound m.table id))
      | some record =>
        Call.notify m.hooks.afterCreate .afterCreate record
        return record) w fun _ _ => True := by
  refine .lift_bind (fun _ _ => trivial) fun id _ => ?_
  rw [fetchById_bind]
  refine .execute_bind (fun _ => trivial) fun reply w' _ => ?_
  cases reply.rows.head? with
  | none => exact .throw trivial
  | some row =>
    exact .notify_bind (fun _ => .pure trivial) (fun _ _ _ _ => trivial)
      fun _ _ _ => .pure trivial

/-- What is said by a creation of a payload that leaves a field unset: nothing, if the completed
record is not valid, and else first of all an insertion that binds `p` for the field. -/
def BindsFor (m : Model σ) (f : Field) (p : Value) (steps : List Happening)
    (result : Except Error Record) : Prop :=
  (exchanged steps = [] ∧ ∃ violations, result = .error (.validation violations)) ∨
    ∃ s answer more, exchanged steps = (s, answer) :: more ∧ s.Inserts m.table f.name p

/-- **A creation that leaves a field to its default** binds the default in its stored form, whatever
hooks are registered: `payload` is what the hook before the creation makes of the record. -/
theorem create_binds_default {table : String} {declared : List Field} {options : SchemaOptions}
    (hs : Schema.declare table declared options = .ok m.schema) {f : Field}
    (hf : f ∈ m.schema.fields) {v : Value} (literal : f.default? = some (.literal v))
    {text : String} (held : v.literalText? = some text) (data : Record) (w : World σ) :
    m.Unfolding (m.create data) w fun steps result =>
      ∀ payload, consult m.hooks.beforeCreate data = .ok payload →
        payload.isUnset f.name = true → m.BindsFor f (f.kind.encode v).param steps result := by
  have rest (payload : Record) (w : World σ) : m.Unfolding (do
      let data ← m.prepareInsert payload
      Call.lift (m.schema.validate .create data)
      let data := m.schema.encode data
      let reply ← m.execute (Insert.one m.table data).statement
      let id ← Call.lift (m.insertedKey data reply.info)
      match ← m.fetchById id with
      | none => throw (.missingRow (.notFound m.table id))
      | some record =>
        Call.notify m.hooks.afterCreate .afterCreate record
        return record) w fun steps result =>
          payload.isUnset f.name = true → m.BindsFor f (f.kind.encode v).param steps result := by
    refine .prepareInsert_bind (.lift_bind (fun e invalid unset => ?_) fun _ valid => ?_)
    · obtain ⟨violations, rfl⟩ := validate_error invalid
      exact .inl ⟨rfl, violations, rfl⟩
    · refine .execute_bind (fun r unset => ?_) fun reply w' _ => ?_
      · exact .inr ⟨_, _, _, rfl, Schema.inserts_default hs hf literal held unset _ _⟩
      · refine (unfolding_reread _ _ _).mono fun more result _ unset => ?_
        exact .inr ⟨_, _, _, rfl, Schema.inserts_default hs hf literal held unset _ _⟩
  unfold create
  refine .change_bind (fun none => ?_) (fun g e registered refused => ?_)
    fun g changed registered passed => ?_
  · refine (rest data w).mono fun steps result binds payload same unset => ?_
    rw [none] at same
    cases same
    exact binds unset
  · intro payload same
    rw [registered, consult, refused] at same
    cases same
  · refine (rest changed _).mono fun steps result binds payload same unset => ?_
    rw [registered, consult, passed] at same
    cases same
    exact binds unset

/-- The readings of a literal default `v` of the field `f`: the declaration of the column writes it
as `text`, a creation binds it, and what is stored in either way is read back. -/
structure DefaultReadings (m : Model σ) (f : Field) (v : Value) (text : String) : Prop where
  /-- The declaration of the column ends with a literal. -/
  declared : f.columnSql
    = ({ f with default? := none } : Field).columnSql ++ " DEFAULT " ++ v.literalSql
  /-- The whole literal denotes the text. -/
  denoted : Text.readLiteral? v.literalSql.toList = some (text.toList, [])
  /-- A creation whose payload leaves the field unset binds the default in its stored form. -/
  bound : ∀ (data : Record) (w : World σ), m.Unfolding (m.create data) w fun steps result =>
    ∀ payload, consult m.hooks.beforeCreate data = .ok payload →
      payload.isUnset f.name = true → m.BindsFor f (f.kind.encode v).param steps result
  /-- Both are the same text, unless the default is a text in a field of documents. -/
  alike : (f.kind = .json → ∀ s, v ≠ .text s) → (f.kind.encode v).param = .text text
  /-- A row that has the text and a row that has the parameter are read back with the same value
  exactly if the default is not taken for another one. -/
  agree : ∀ left created : Record, left.get? f.name = some (.text text) →
    created.get? f.name = some (f.kind.encode v).param →
      ((m.schema.hydrate left).get? f.name = (m.schema.hydrate created).get? f.name
        ↔ ∀ d, ¬ f.Mistakes v d)
  /-- One that is taken for another one is read back as what it reads as from the text, and as
  itself from the parameter. -/
  differ : ∀ d, f.Mistakes v d → ∀ left created : Record, left.get? f.name = some (.text text) →
    created.get? f.name = some (f.kind.encode v).param →
      (m.schema.hydrate left).get? f.name = some (.ofDocument d) ∧
        (m.schema.hydrate created).get? f.name = some v

end Model

/-- **A literal default goes two ways**, which lead to one value unless the default is a text in a
field of documents that reads as a document. Take a declared field whose default is a text or a
document. The literal of its column denotes a text, and every creation that leaves the field unset
binds a parameter. Where the default is a document, or the field is not one of documents, both are
the same text. A text in a field of documents is bound with its quotes, but not written with them:
so if it reads as a document, a row that takes the default of the column is read back with what this
document stands for, and a created row with the text. -/
theorem column_default_goes_two_ways {σ : Type} {m : Model σ} {table : String}
    {declared : List Field} {options : SchemaOptions}
    (hs : Schema.declare table declared options = .ok m.schema) {f : Field}
    (hf : f ∈ m.schema.fields) {v : Value} (literal : f.default? = some (.literal v))
    {text : String} (held : v.literalText? = some text) : m.DefaultReadings f v text where
  declared := Field.columnSql_default literal
  denoted := by
    rw [(Value.quoted_of_literalText? held).literalSql_eq]
    exact Text.readLiteral?_eq_whole.2 rfl
  bound := Model.create_binds_default hs hf literal held
  alike := Kind.param_encode_default held
  agree left created taken inserted := by
    rw [Schema.get?_hydrate_field hs hf taken, Schema.get?_hydrate_field hs hf inserted,
      Option.some_inj]
    exact Field.hydrate_default_iff held
  differ d mistakes left created taken inserted := by
    obtain ⟨json, s, rfl, reads⟩ := mistakes
    obtain rfl : s = text := Option.some.inj held
    rw [Schema.get?_hydrate_field hs hf taken, Schema.get?_hydrate_field hs hf inserted, json]
    constructor
    · rw [Kind.hydrate, reads]
    · exact congrArg some (Kind.readBack_text s)

/-! ## The number of a sticker -/

/-- A field of documents whose default is a text of digits. -/
def stickerMeta : Field where
  name := "meta"
  kind := .json
  default? := some (.literal (.text "42"))

/-- A table of stickers. -/
def stickers : Model Unit where
  schema := ⟨"stickers", [.id "id", stickerMeta], {}, ⟨0, by decide⟩⟩
  engine := .silent

theorem stickers_default_readings :
    Schema.declare "stickers" [.id "id", stickerMeta] {} = .ok stickers.schema ∧
      stickers.DefaultReadings stickerMeta (.text "42") "42" := by
  have accepted : Schema.declare "stickers" [.id "id", stickerMeta] {} = .ok stickers.schema := rfl
  have member : stickerMeta ∈ stickers.schema.fields := List.mem_cons_of_mem _ List.mem_cons_self
  exact ⟨accepted, column_default_goes_two_ways accepted member rfl rfl⟩

/-- **Stickers differ**: a row that takes the default of the column is read back with a number, and
a created row with a text. -/
theorem stickers_differ :
    Schema.declare "stickers" [.id "id", stickerMeta] {} = .ok stickers.schema ∧
      stickerMeta.columnSql = "meta TEXT DEFAULT '42'" ∧
      Text.readLiteral? "'42'".toList = some ("42".toList, []) ∧
      (stickers.create .empty).issued ⟨(), default, [], []⟩
        = [⟨"INSERT INTO stickers (meta) VALUES (?)", [.text "\"42\""]⟩] ∧
      (stickers.schema.hydrate (.ofEntries [("meta", .text "42")])).get? "meta" = some (.int 42) ∧
      (stickers.schema.hydrate (.ofEntries [("meta", .text "\"42\"")])).get? "meta"
        = some (.text "42") := by
  refine ⟨rfl, ?_, ?_, ?_, ?_, ?_⟩ <;> decide +kernel

end RecordMapper
