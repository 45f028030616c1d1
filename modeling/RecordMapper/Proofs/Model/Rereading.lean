import RecordMapper.Proofs.Model.Checks
import RecordMapper.Proofs.Model.Settling
import RecordMapper.Proofs.Schema.Declaration
import RecordMapper.Proofs.Sql.Declared
import RecordMapper.Proofs.Upsert.Keys

/-!
# Inserted rows are read back

What a creation binds, and which row it reads back.

* `Schema.Binds`: the inserted record has every field that was given and every field that was
  filled, once, and each is bound in its stored form.
* `Model.rereadBy?` is the value by which an inserted row is looked for: what the insertion bound
  for the key, unless that is null, or else the identifier that the engine reports.
* `Model.Rereads`: what is said after an accepted insertion, and how the creation ends.
* `created_row_is_reread` puts this together, for every answer of the engine.
-/

namespace RecordMapper

/-! ## The insertion -/

/-- Inserts a record; without fields, the columns take their defaults. -/
def Statement.insertOf (table : String) (row : Record) : Statement :=
  if row.isEmpty then ⟨"INSERT INTO " ++ table ++ " DEFAULT VALUES", []⟩ else .insertRow table row

theorem Insert.wire_one_eq (table : String) (row : Record) :
    (Insert.one table row).statement.wire = .insertOf table row := by
  unfold Statement.insertOf
  split
  · next empty =>
    rw [Insert.one, if_pos empty]
    rfl
  · next some => exact Insert.wire_one (Bool.eq_false_iff.2 some)

/-- The record `row` is what `data` is inserted as: its fields are declared, those that were given
come first, none comes twice, and each field that was given or filled is bound in its stored
form. -/
structure Schema.Binds (s : Schema) (now : Instant) (draws : Draws) (data row : Record) :
    Prop where
  declared : ∀ name ∈ row.fields, s.hasField name = true
  given : data.fields <+: row.fields
  once : row.fields.Nodup
  bound : ∀ f ∈ s.fields, (row.get? f.name).map Value.param
    = (s.completed f now draws (data.get? f.name)).map fun v => (f.kind.encode v).param

namespace Schema

variable {s : Schema} {now : Instant} {draws : Draws} {data : Record}

theorem binds_encode {table : String} {fields : List Field} {options : SchemaOptions}
    (hs : declare table fields options = .ok s)
    (valid : s.validate .create (s.complete now data draws).1 = .ok ()) :
    s.Binds now draws data (s.encode (s.complete now data draws).1) where
  declared name hn := by
    rw [fields_encode] at hn
    exact hasField_of_validate valid hn
  given := by
    rw [fields_encode]
    exact (s.extends_complete now data draws).names
  once := (s.encode (s.complete now data draws).1).nodup
  bound f hf := by
    rw [get?_encode_field (field?_of_declare hs hf), get?_complete_field (nodup_of_declare hs) hf,
      Option.map_map]
    rfl

end Schema

/-! ## The row that is read back -/

namespace Model

variable {σ : Type} {m : Model σ} {row : Record} {info : ReplyInfo} {id : Value}

/-- The value by which an inserted row is looked for: what the insertion bound for the key, unless
that is null, or else the identifier that the engine reports. -/
def rereadBy? (m : Model σ) (row : Record) (info : ReplyInfo) : Option Value :=
  (((row.get? m.schema.keyName).map Value.param).bind Value.nonNull?).or
    (info.lastInsertId.map .int)

/-- The key of an inserted row, before it is bound. -/
def identifier? (m : Model σ) (row : Record) (info : ReplyInfo) : Option Value :=
  ((row.get? m.schema.keyName).bind Value.nonNull?).or (info.lastInsertId.map .int)

theorem insertedKey_eq (m : Model σ) (row : Record) (info : ReplyInfo) :
    m.insertedKey row info = match m.identifier? row info with
      | some id => .ok id
      | none => .error (.missingRow (.noIdentifier m.table)) := by
  have reported : insertedKey.reported m info = match info.lastInsertId.map Value.int with
      | some id => .ok id
      | none => .error (.missingRow (.noIdentifier m.table)) := by
    unfold insertedKey.reported
    cases info.lastInsertId <;> rfl
  unfold insertedKey identifier?
  rcases row.get? m.schema.keyName with _ | id
  · exact reported
  · cases null : id.isNull <;> simp [Value.nonNull?, null, reported]

/-- The lookup binds the key as the insertion bound it. -/
theorem rereadBy?_eq (m : Model σ) (row : Record) (info : ReplyInfo) :
    m.rereadBy? row info = (m.identifier? row info).map Value.param := by
  have bound : ((row.get? m.schema.keyName).map Value.param).bind Value.nonNull?
      = ((row.get? m.schema.keyName).bind Value.nonNull?).map Value.param := by
    rcases row.get? m.schema.keyName with _ | v
    · rfl
    · cases null : v.isNull <;> simp only [Option.map_some, Option.bind_some, Value.nonNull?,
        Value.isNull_param, null] <;> rfl
  have reported : info.lastInsertId.map Value.int
      = (info.lastInsertId.map Value.int).map Value.param := by
    cases info.lastInsertId <;> rfl
  rw [rereadBy?, identifier?, Option.map_or, bound, ← reported]

theorem isNull_of_identifier? (h : m.identifier? row info = some id) : id.isNull = false := by
  rcases Option.or_eq_some_iff.1 h with given | ⟨-, reported⟩
  · obtain ⟨v, -, given⟩ := Option.bind_eq_some_iff.1 given
    unfold Value.nonNull? at given
    split at given
    · cases given
    · next some =>
      cases given
      exact Bool.eq_false_iff.2 some
  · obtain ⟨n, -, rfl⟩ := Option.map_eq_some_iff.1 reported
    rfl

/-- The key by which a row is looked for is not null, and is bound as the insertion bound it. -/
theorem rereadBy?_of_key (h : m.insertedKey row info = .ok id) :
    id.isNull = false ∧ m.rereadBy? row info = some id.param := by
  rw [insertedKey_eq] at h
  split at h
  · next key =>
    cases h
    exact ⟨isNull_of_identifier? key, by rw [rereadBy?_eq, key, Option.map_some]⟩
  · cases h

theorem rereadBy?_of_error {e : Error} (h : m.insertedKey row info = .error e) :
    m.rereadBy? row info = none ∧ e = .missingRow (.noIdentifier m.table) := by
  rw [insertedKey_eq] at h
  split at h
  · cases h
  · next none =>
    cases h
    exact ⟨by rw [rereadBy?_eq, none, Option.map_none], rfl⟩

/-- What is said after an accepted insertion, and how the creation ends. -/
inductive Rereads (m : Model σ) (row : Record) (info : ReplyInfo) :
    Conversation → Except Error Record → Prop
  /-- There is nothing to look for the row by. -/
  | unidentified (h : m.rereadBy? row info = none) :
    Rereads m row info [] (.error (.missingRow (.noIdentifier m.table)))
  /-- The lookup is rejected. -/
  | unread {p : Value} (h : m.rereadBy? row info = some p) (r : Rejection) :
    Rereads m row info [(.selectRow m.table [(m.schema.keyName, p)], .error r)]
      (.error (m.failure (.selectRow m.table [(m.schema.keyName, p)]) r))
  /-- No row is there. -/
  | missing {p id : Value} (h : m.rereadBy? row info = some p) (named : id.param = p)
      {found : Reply} (none : found.rows = []) :
    Rereads m row info [(.selectRow m.table [(m.schema.keyName, p)], .ok found)]
      (.error (.missingRow (.notFound m.table id)))
  /-- The first row of the reply is the result. -/
  | reread {p : Value} (h : m.rereadBy? row info = some p) {found : Reply} {first : Record}
      (head : found.rows.head? = some first) :
    Rereads m row info [(.selectRow m.table [(m.schema.keyName, p)], .ok found)]
      (.ok (m.schema.hydrate first))

/-- A creation fails for want of its row if nothing identifies it or the lookup finds none. -/
theorem Rereads.failed_iff {ys : Conversation} {result : Except Error Record}
    (h : m.Rereads row info ys result) : (∃ cause, result = .error (.missingRow cause)) ↔
      (m.rereadBy? row info = none ∧ ys = []) ∨
        ∃ p found, m.rereadBy? row info = some p ∧
          ys = [(.selectRow m.table [(m.schema.keyName, p)], .ok found)] ∧ found.rows = [] := by
  cases h with
  | unidentified h => exact iff_of_true ⟨_, rfl⟩ (.inl ⟨h, rfl⟩)
  | unread h r =>
    refine iff_of_false (fun ⟨_, failed⟩ => by cases failed) ?_
    rintro (⟨-, silent⟩ | ⟨p, found, -, said, -⟩)
    · cases silent
    · simp at said
  | missing h named none => exact iff_of_true ⟨_, rfl⟩ (.inr ⟨_, _, h, rfl, none⟩)
  | reread h head =>
    refine iff_of_false (fun ⟨_, failed⟩ => by cases failed) ?_
    rintro (⟨-, silent⟩ | ⟨p, found, -, said, none⟩)
    · cases silent
    · have same := (Prod.mk.inj (List.cons.inj said).1).2
      cases same
      rw [none] at head
      cases head

/-- The lookup by a key binds the same as one by the bound form of the key. -/
theorem selectById_eq (null : id.isNull = false) :
    m.selectById id = .selectRow m.table [(m.schema.keyName, id.param)] := by
  have bound : Entries.params [(m.schema.keyName, id)]
      = Entries.params [(m.schema.keyName, id.param)] :=
    congrArg (fun p => [p]) (Value.param_param id).symm
  rw [wire_selectById null]
  exact congrArg (Statement.mk _) bound

/-- **The course of a creation** after its completed record proved valid. -/
theorem Created.cases_insertion {completed : Record} {xs : Conversation}
    {result : Except Error Record} (h : m.Created completed xs result) :
    (xs = [] ∧ ∃ violations, result = .error (.validation violations)) ∨
      m.schema.validate .create completed = .ok () ∧
        ∃ answer ys, xs = (.insertOf m.table (m.schema.encode completed), answer) :: ys ∧
          (∀ r, answer = .error r → ys = [] ∧
            result = .error (m.failure (.insertOf m.table (m.schema.encode completed)) r)) ∧
          ∀ reply, answer = .ok reply →
            m.Rereads (m.schema.encode completed) reply.info ys result := by
  have same {s : Statement} (inserts : m.Inserting completed s) :
      s = .insertOf m.table (m.schema.encode completed) :=
    inserts.statement.trans (Insert.wire_one_eq m.table _)
  cases h with
  | invalid h =>
    obtain ⟨violations, rfl⟩ := validate_error h
    exact .inl ⟨rfl, violations, rfl⟩
  | rejected inserts r =>
    obtain rfl := same inserts
    exact .inr ⟨inserts.valid, _, _, rfl, fun _ h => ⟨rfl, by rw [Except.error.inj h]⟩,
      nofun⟩
  | unidentified inserts key =>
    obtain rfl := same inserts
    obtain ⟨none, rfl⟩ := rereadBy?_of_error key
    exact .inr ⟨inserts.valid, _, _, rfl, nofun,
      fun _ h => Except.ok.inj h ▸ .unidentified none⟩
  | unread inserts key read =>
    obtain rfl := same inserts
    obtain ⟨null, sought⟩ := rereadBy?_of_key key
    obtain ⟨r, rfl, rfl⟩ := looked_error read
    rw [selectById_eq null]
    exact .inr ⟨inserts.valid, _, _, rfl, nofun,
      fun _ h => Except.ok.inj h ▸ .unread sought r⟩
  | missing inserts key read =>
    obtain rfl := same inserts
    obtain ⟨null, sought⟩ := rereadBy?_of_key key
    obtain ⟨found, rfl, none⟩ := looked_none read
    rw [selectById_eq null]
    exact .inr ⟨inserts.valid, _, _, rfl, nofun,
      fun _ h => Except.ok.inj h ▸ .missing sought rfl none⟩
  | created inserts key read =>
    obtain rfl := same inserts
    obtain ⟨null, sought⟩ := rereadBy?_of_key key
    obtain ⟨found, rfl, -, read⟩ := looked_some read
    obtain ⟨first, head, rfl⟩ := Option.map_eq_some_iff.1 read
    rw [selectById_eq null]
    exact .inr ⟨inserts.valid, _, _, rfl, nofun,
      fun _ h => Except.ok.inj h ▸ .reread sought head⟩

theorem failure_ne_missingRow (m : Model σ) (s : Statement) (r : Rejection) (cause : MissingRow) :
    m.failure s r ≠ .missingRow cause := by
  intro same
  cases same

end Model

/-! ## Creations -/

/-- **A created row is read back by the key that it was inserted with.** Without hooks, an invalid
record is refused and nothing is said. Any other creation begins with one insertion, which binds
every field that was given and every field that was filled once. If it is rejected, the creation
fails for that; if it is accepted, one row is looked for: by the value that the insertion bound for
the key, unless that is null, and else by the identifier that the engine reports. The creation fails
for want of its row exactly if there is neither, and then no lookup follows, or the lookup gives no
row. -/
theorem created_row_is_reread {σ : Type} {m : Model σ} (hm : m.hooks = {}) {table : String}
    {fields : List Field} {options : SchemaOptions}
    (hs : Schema.declare table fields options = .ok m.schema) (data : Record) (w : World σ) :
    ∃ xs result w', Call.Runs m.engine (m.create data) w xs result w' ∧
      ((xs = [] ∧ ∃ violations, result = .error (.validation violations)) ∨
        ∃ row answer ys, xs = (.insertOf m.table row, answer) :: ys ∧
          m.schema.Binds w.now w.draws data row ∧
          (∀ r, answer = .error r →
            ys = [] ∧ result = .error (m.failure (.insertOf m.table row) r)) ∧
          (∀ reply, answer = .ok reply → m.Rereads row reply.info ys result) ∧
          ((∃ cause, result = .error (.missingRow cause)) ↔ ∃ reply, answer = .ok reply ∧
            ((m.rereadBy? row reply.info = none ∧ ys = []) ∨
              ∃ p found, m.rereadBy? row reply.info = some p ∧
                ys = [(.selectRow m.table [(m.schema.keyName, p)], .ok found)] ∧
                found.rows = []))) := by
  obtain ⟨xs, result, w', run, created⟩ := Model.follows_create hm data w
  refine ⟨xs, result, w', run, ?_⟩
  rcases created.cases_insertion with invalid | ⟨valid, answer, ys, rfl, rejected, accepted⟩
  · exact .inl invalid
  · refine .inr ⟨_, answer, ys, rfl, Schema.binds_encode hs valid, rejected, accepted, ?_⟩
    cases answer with
    | error r =>
      obtain ⟨-, rfl⟩ := rejected r rfl
      refine iff_of_false ?_ fun ⟨_, given, _⟩ => nomatch given
      rintro ⟨cause, failed⟩
      exact m.failure_ne_missingRow _ r cause (Except.error.inj failed)
    | ok reply =>
      rw [(accepted reply rfl).failed_iff]
      constructor
      · exact fun lacking => ⟨reply, rfl, lacking⟩
      · rintro ⟨_, given, lacking⟩
        cases given
        exact lacking

/-- The code of a coupon, which is drawn. -/
def couponCode : Field where
  name := "code"
  kind := .string
  primaryKey := true
  default? := some (.produced fun n _ => .text ("C" ++ toString n))

/-- A table of coupons, whose engine answers from a script. -/
def coupons : Model (Recorder Unit) where
  schema := ⟨"coupons", [couponCode, { name := "percent", kind := .number },
    { name := "terms", kind := .json }], {}, 0⟩
  engine := Recorder.engine .silent

/-- A world in which the engine reports another identifier for the row, and then gives the row. -/
def couponsWorld : World (Recorder Unit) where
  engine :=
    { script := [.ok { info := { lastInsertId := some 7 } },
        .ok { rows := [.ofEntries [("code", .text "C0"), ("percent", .int 5)]] }]
      inner := () }
  now := default

theorem coupon_is_reread :
    coupons.hooks = {} ∧
      Schema.declare "coupons" coupons.schema.fields {} = .ok coupons.schema ∧
      ∃ xs result w', Call.Runs coupons.engine
          (coupons.create (.ofEntries [("percent", .int 5), ("terms", .text "once")]))
          couponsWorld xs result w' ∧
        xs.map (·.1) = [⟨"INSERT INTO coupons (percent, terms, code) VALUES (?, ?, ?)",
            [.int 5, .text "\"once\"", .text "C0"]⟩,
          ⟨"SELECT * FROM coupons WHERE code = ? LIMIT 1", [.text "C0"]⟩] ∧
        ∃ row reply ys, coupons.Rereads row reply ys result := by
  have declared : Schema.declare "coupons" coupons.schema.fields {} = .ok coupons.schema := rfl
  obtain ⟨xs, result, w', run, course⟩ := created_row_is_reread (m := coupons) rfl declared
    (.ofEntries [("percent", .int 5), ("terms", .text "once")]) couponsWorld
  have said : xs.map (·.1) = [⟨"INSERT INTO coupons (percent, terms, code) VALUES (?, ?, ?)",
      [.int 5, .text "\"once\"", .text "C0"]⟩,
      ⟨"SELECT * FROM coupons WHERE code = ? LIMIT 1", [.text "C0"]⟩] :=
    run.statements.symm.trans (by decide +kernel)
  refine ⟨rfl, declared, xs, result, w', run, said, ?_⟩
  rcases course with ⟨rfl, -⟩ | ⟨row, answer, ys, rfl, -, rejected, accepted, -⟩
  · cases said
  · cases answer with
    | error r =>
      obtain ⟨rfl, -⟩ := rejected r rfl
      simp at said
    | ok reply => exact ⟨row, reply.info, ys, accepted reply rfl⟩

end RecordMapper
