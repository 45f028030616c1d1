import RecordMapper.Proofs.Upsert.Passes
import RecordMapper.Proofs.Upsert.SharedTable

/-!
# Upserts survive races

An upsert looks for a row, inserts one, looks again, assigns and reads back, and other clients write
to the table before each of these statements.

* `Model.Setting.passes_applyUpdate`, `Model.Setting.passes_create` and
  `Model.Setting.passes_createOrElse` are the operations on the shared table. After each of them
  some row carries the key, and rows keep their keys: what one statement found the next one finds.
* `upsert_survives_races`: the upsert ends without an error, says truly whether it inserted the row,
  and leaves exactly one row with the key.
-/

namespace RecordMapper

namespace Model

variable {σ : Type} {m : Model σ} {rows : σ → List Record} {k : UniqueKey} {data : Record}
  {fields : List String} {w w₁ : World σ}

open Call

namespace Setting

/-! ## Looking for rows -/

/-- A row that is looked for by its primary key is found. -/
theorem passes_fetchById (h : m.Setting rows k data fields w) (hr : k.Respects (rows w₁.engine))
    {id : Value} (null : id.isNull = false) (there : k.Taken (rows w₁.engine) [(k.primary, id)]) :
    ∃ record w', Passes m.engine rows k (m.fetchById id) w₁ false (.ok (some record)) w' := by
  have selects := h.serves.selectById id null
  rw [h.primary] at selects there
  obtain ⟨found, w', fetched, -, result⟩ := m.passes_queryOne (List.cons_ne_nil _ _)
    (by simpa using null) selects hr
  rw [← h.primary] at there result
  rcases result with ⟨-, free⟩ | ⟨row, -, -, rfl⟩
  · obtain ⟨row, still, carries⟩ := there.steps_primary fetched.steps
    exact absurd carries (free row still)
  · exact ⟨m.schema.hydrate row, w', fetched.bind (.pure _ _)⟩

/-- The row that carries the key is looked for. -/
theorem passes_findOne (h : m.Setting rows k data fields w) (hr : k.Respects (rows w₁.engine)) :
    ∃ found w', Passes m.engine rows k
        (m.findOne { filter := (UpsertRequest.byFields data fields).parts.1 }) w₁ false
        (.ok (found.map m.schema.hydrate)) w' ∧
      w'.draws = w₁.draws ∧
      ((found = none ∧ ¬ k.Taken (rows w'.engine) (data.pick fields)) ∨
        ∃ row ∈ rows w'.engine, k.Carries row (data.pick fields) ∧ found = some row) := by
  obtain ⟨found, w', fetched, draws, result⟩ :=
    passes_queryOne h.wanted_ne_nil h.wanted_not_null h.serves.select hr
  refine ⟨found.head?, w', ?_, draws, ?_⟩
  · rw [findOne, findAll_eq h.hooks, h.queryFor_ok, bind_assoc, ← List.head?_map]
    exact (Passes.lift _ _).bind (fetched.bind (.pure _ _))
  · rcases result with ⟨rfl, free⟩ | ⟨row, there, carries, rfl⟩
    · exact .inl ⟨rfl, fun ⟨row, there, carries⟩ => free row there carries⟩
    · exact .inr ⟨row, there, carries, rfl⟩

/-! ## Updating the row that was found -/

/-- A row that carries the key is assigned the record. -/
theorem passes_update (h : m.Setting rows k data fields w) (hk : m.KeepsKeys k)
    (now : w₁.now = w.now) (hr : k.Respects (rows w₁.engine)) {row : Record}
    (there : row ∈ rows w₁.engine) (carries : k.Carries row (data.pick fields)) {id : Value}
    (null : id.isNull = false) (found : k.Carries row [(k.primary, id)]) :
    ∃ info w', Passes m.engine rows k (m.update data [.eq m.schema.keyName id]) w₁ false
      (.ok info) w' := by
  obtain ⟨t, ht⟩ := h.assignOne_ok hk id
  have updates := h.serves.update id null
  rw [h.primary] at updates
  -- The row is assigned the key that it carries.
  have same : ∀ column ∈ k.columns, column ∈ (m.assigned data w).fields ∧
      k.cell (m.assigned data w).bound column = k.cell row column := by
    intro column hc
    obtain ⟨v, hv, -⟩ := h.get?_data hc
    have he := h.mem_wanted.2 ⟨hc, hv⟩
    refine ⟨h.mem_fields_assigned hk hc, ?_⟩
    rw [h.cell_bound (fun _ hc => h.get?_assigned hk hc) he, carries _ he]
  obtain ⟨reply, w', updated⟩ := Model.passes_update null ht updates hr there found
    (h.primary_not_mem_assigned hk) same
  refine ⟨reply.info, w', ?_⟩
  rw [update_eq h.hooks]
  refine (Passes.clock w₁).bind ?_
  rw [now, h.updateTemplate_eq, ht]
  exact (Passes.lift _ _).bind (updated.bind (.pure _ _))

/-- **A row that was found is updated**, whatever was written since. -/
theorem passes_applyUpdate (h : m.Setting rows k data fields w) (hk : m.KeepsKeys k)
    (now : w₁.now = w.now) (hr : k.Respects (rows w₁.engine)) {row : Record}
    (there : row ∈ rows w₁.engine) (carries : k.Carries row (data.pick fields)) :
    ∃ record w', Passes m.engine rows k (m.applyUpdate (m.schema.hydrate row) data) w₁ false
      (.ok { record, updated := true }) w' := by
  obtain ⟨id, hid, null, bound⟩ := hr.primary row there
  have read : (m.schema.hydrate row).get? m.schema.keyName = some id := by
    rw [← h.primary, Schema.get?_hydrate hk.read, hid]
  have found : k.Carries row [(k.primary, id)] := by
    rw [UniqueKey.carries_primary, UniqueKey.cell_eq_some hid null, bound]
  obtain ⟨info, w₂, updated⟩ := h.passes_update hk now hr there carries null found
  -- It is read back by its primary key.
  have taken : k.Taken (rows w₁.engine) [(k.primary, id)] := ⟨row, there, found⟩
  obtain ⟨record, w₃, fetched⟩ :=
    h.passes_fetchById (updated.respects hr) null (taken.steps_primary updated.steps)
  refine ⟨record, w₃, ?_⟩
  simp only [applyUpdate, read, h.assigns_any, Bool.not_true, Bool.false_eq_true, if_false,
    updateById, bind_assoc, afterUpdate_eq h.hooks]
  refine updated.bind (fetched.bind ?_)
  exact .pure _ _

/-! ## Inserting the row that was not found -/

/-- The key of a row that was stored. -/
theorem insertedKey_of_stores (h : m.Setting rows k data fields w) {table : List Record}
    {record row : Record} {info : ReplyInfo} (stores : Stores k table record info row) :
    ∃ id, m.insertedKey record info = .ok id ∧ id.isNull = false ∧
      k.Carries row [(k.primary, id)] := by
  obtain ⟨v, hv, null, -, -, origin⟩ := stores.primary
  have stored : k.cell row k.primary = some (k.norm v) := UniqueKey.cell_eq_some hv null
  rw [k.cell_bound] at origin
  have reported (none : ((record.get? k.primary).bind fun u =>
      if u.isNull then none else some (k.norm u.param)) = none) :
      ∃ id, insertedKey.reported m info = .ok id ∧ id.isNull = false ∧
        k.Carries row [(k.primary, id)] := by
    rcases origin with given | ⟨-, n, hn, same⟩
    · rw [none] at given
      cases given
    · refine ⟨.int n, by rw [insertedKey.reported, hn], rfl, ?_⟩
      rw [UniqueKey.carries_primary, stored, same]
      rfl
  rw [insertedKey, ← h.primary]
  rcases hid : record.get? k.primary with _ | id
  · exact reported (by rw [hid]; rfl)
  · cases hn : id.isNull with
    | true =>
      obtain ⟨number, key, rest⟩ := reported (by rw [hid, Option.bind_some, if_pos hn])
      exact ⟨number, by simp only [hn, if_true, key], rest⟩
    | false =>
      refine ⟨id, by simp only [hn, Bool.false_eq_true, if_false], hn, ?_⟩
      rw [hid, Option.bind_some, hn] at origin
      rcases origin with given | ⟨none, -⟩
      · rw [UniqueKey.carries_primary, stored, ← given]
        rfl
      · cases none

/-- What becomes of a creation: the record is there, or some other row carries its key. -/
inductive Created (table : List Record) (k : UniqueKey) (wanted : Entries) :
    Bool → Except Error Record → Prop
  /-- The record is there. -/
  | won (record : Record) (taken : k.Taken table wanted) : Created table k wanted true (.ok record)
  /-- Some other row carries its key. -/
  | lost {e : Error} (duplicate : e.isDuplicateEntry = true) (taken : k.Taken table wanted) :
    Created table k wanted false (.error e)

/-- A row that is stored for the record carries its key. -/
theorem carries_of_stores (h : m.Setting rows k data fields w) {table : List Record} {row : Record}
    {info : ReplyInfo} (stores : Stores k table (m.inserted data w) info row) :
    k.Carries row (data.pick fields) := by
  rintro ⟨column, v⟩ he
  have hc := (h.mem_wanted.1 he).1
  rw [stores.columns column (h.mem_fields_inserted hc) (h.assignable column hc).1,
    h.cell_bound (fun _ hc => h.get?_inserted hc) he]

/-- The record is stored, or its key is taken. -/
theorem passes_store (h : m.Setting rows k data fields w) (hr : k.Respects (rows w₁.engine)) :
    ∃ inserted result w',
      Passes m.engine rows k (m.store (m.inserted data w)) w₁ inserted result w' ∧
      Created (rows w'.engine) k (data.pick fields) inserted result := by
  have ordinary : k.primary ∉ k.columns := fun hc => (h.assignable _ hc).1 rfl
  obtain ⟨inserted, result, w₂, executed, outcome⟩ :=
    passes_insert h.constrained (fun _ hc => h.mem_fields_inserted hc) ordinary h.serves.insert hr
  cases outcome with
  | taken duplicate clash =>
    obtain ⟨row, there, clash⟩ := clash
    refine ⟨false, _, w₂, executed.bind_error _, .lost duplicate ⟨row, there, ?_⟩⟩
    exact h.carries_of_clash (fun _ hc => h.get?_inserted hc) clash
  | @stored reply table row last stores =>
    have there : row ∈ rows w₂.engine := by
      rw [last]
      exact List.mem_append_right _ (List.mem_singleton_self row)
    obtain ⟨id, key, null, carries⟩ := h.insertedKey_of_stores stores
    obtain ⟨record, w₃, fetched⟩ :=
      h.passes_fetchById (executed.respects hr) null ⟨row, there, carries⟩
    have taken : k.Taken (rows w₂.engine) (data.pick fields) :=
      ⟨row, there, h.carries_of_stores stores⟩
    refine ⟨true, .ok record, w₃, executed.bind_false ?_,
      .won record (taken.steps fetched.steps fun column hc => h.mem_names_wanted.1 hc)⟩
    rw [key]
    exact (Passes.lift _ _).bind (fetched.bind (.pure record w₃))

/-- **The record is created, or its key is taken.** -/
theorem passes_create (h : m.Setting rows k data fields w) (now : w₁.now = w.now)
    (draws : w₁.draws = w.draws) (hr : k.Respects (rows w₁.engine)) :
    ∃ inserted result w', Passes m.engine rows k (m.create data) w₁ inserted result w' ∧
      Created (rows w'.engine) k (data.pick fields) inserted result := by
  have prepared : Passes m.engine rows k (m.prepareInsert data) w₁ false
      (.ok (m.schema.complete w.now data w.draws).1)
      { w₁ with draws := (m.schema.complete w.now data w.draws).2 } := by
    rw [← now, ← draws]
    exact .quiet _ rfl
  have ready : k.Respects (rows { w₁ with
      draws := (m.schema.complete w.now data w.draws).2 : World σ }.engine) := hr
  obtain ⟨inserted, result, w', stored, created⟩ := h.passes_store ready
  refine ⟨inserted, result, w', ?_, created⟩
  rw [create_eq h.hooks]
  refine prepared.bind ?_
  rw [h.creatable]
  exact (Passes.lift _ _).bind stored

/-! ## The upsert -/

/-- A row that was found is updated, and still carries the key. -/
theorem passes_found (h : m.Setting rows k data fields w) (hk : m.KeepsKeys k)
    (now : w₁.now = w.now) (hr : k.Respects (rows w₁.engine)) {row : Record}
    (there : row ∈ rows w₁.engine) (carries : k.Carries row (data.pick fields)) :
    ∃ outcome w', Passes m.engine rows k (m.applyUpdate (m.schema.hydrate row) data) w₁
        outcome.created (.ok outcome) w' ∧
      outcome.updated = !outcome.created ∧ k.Taken (rows w'.engine) (data.pick fields) := by
  obtain ⟨record, w', updated⟩ := h.passes_applyUpdate hk now hr there carries
  have taken : k.Taken (rows w₁.engine) (data.pick fields) := ⟨row, there, carries⟩
  have still := taken.steps updated.steps fun _ hc => h.mem_names_wanted.1 hc
  exact ⟨{ record, updated := true }, w', updated, rfl, still⟩

/-- A row that was not found is created, or another client was faster and its row is updated. -/
theorem passes_createOrElse (h : m.Setting rows k data fields w) (hk : m.KeepsKeys k)
    (now : w₁.now = w.now) (draws : w₁.draws = w.draws) (hr : k.Respects (rows w₁.engine)) :
    ∃ outcome w', Passes m.engine rows k
        (m.createOrElse data (UpsertRequest.byFields data fields).parts.1
          fun found => m.applyUpdate found data) w₁ outcome.created (.ok outcome) w' ∧
      outcome.updated = !outcome.created ∧ k.Taken (rows w'.engine) (data.pick fields) := by
  obtain ⟨inserted, result, w₂, called, created⟩ := h.passes_create now draws hr
  have hr₂ := called.respects hr
  cases created with
  | won record taken =>
    exact ⟨{ record, created := true }, w₂,
      called.attempt.bind_false (.pure _ w₂), rfl, taken⟩
  | lost duplicate taken =>
    -- The key that was taken then is found now.
    obtain ⟨found, w₃, looked, -, result⟩ := h.passes_findOne hr₂
    have still := taken.steps looked.steps fun _ hc => h.mem_names_wanted.1 hc
    rcases result with ⟨-, free⟩ | ⟨row, there, carries, rfl⟩
    · exact absurd still free
    · have now₃ : w₃.now = w.now := (looked.now.trans called.now).trans now
      obtain ⟨outcome, w₄, updated, truly, taken⟩ :=
        h.passes_found hk now₃ (looked.respects hr₂) there carries
      refine ⟨outcome, w₄, ?_, truly, taken⟩
      refine called.attempt.bind ?_
      simp only [duplicate, if_true]
      exact looked.bind updated

end Setting

/-- An upsert that ended well: it says truly whether it inserted a row or updated one, and exactly
one row has the key. -/
structure Settles (m : Model σ) (rows : σ → List Record) (k : UniqueKey) (data : Record)
    (fields : List String) (w : World σ) (outcome : UpsertOutcome) (w' : World σ) : Prop where
  /-- There is no error. -/
  ends : (m.upsert (.byFields data fields)).outcome w = (.ok outcome, w')
  /-- A row is said to be created exactly if an insertion of the upsert was accepted. -/
  created : outcome.created = (m.upsert (.byFields data fields)).inserts m.engine w
  /-- Otherwise it is said to be updated. -/
  updated : outcome.updated = !outcome.created
  /-- One row carries the key. -/
  one : (rows w'.engine).countP (fun row => decide (k.Carries row (data.pick fields))) = 1

end Model

open Call in
/-- **Upserts survive races**: whatever other clients insert and update between the statements of an
upsert, it ends without an error, says truly whether it inserted the row, and leaves exactly one row
with the key. -/
theorem upsert_survives_races {σ : Type} {m : Model σ} {rows : σ → List Record} {k : UniqueKey}
    {data : Record} {fields : List String} {w : World σ} (h : m.Setting rows k data fields w)
    (hk : m.KeepsKeys k) : ∃ outcome w', m.Settles rows k data fields w outcome w' := by
  have matched : Passes m.engine rows k
      (lift (m.requireMatch "upsert" (UpsertRequest.byFields data fields).parts.1)) w false
      (.ok ()) w := by
    rw [Model.requireMatch, h.filter_eq, List.isEmpty_map,
      List.isEmpty_eq_false_iff.2 h.wanted_ne_nil]
    exact .lift _ w
  obtain ⟨found, w₁, looked, draws, result⟩ := h.passes_findOne h.respects
  have hr := looked.respects h.respects
  have settled {outcome : UpsertOutcome} {w' : World σ}
      (passes : Passes m.engine rows k (m.upsert (.byFields data fields)) w outcome.created
        (.ok outcome) w')
      (truly : outcome.updated = !outcome.created)
      (taken : k.Taken (rows w'.engine) (data.pick fields)) :
      m.Settles rows k data fields w outcome w' :=
    { ends := passes.outcome
      created := passes.inserts.symm
      updated := truly
      one := (passes.respects h.respects).countP_carries
        (fun _ hc => h.mem_names_wanted.2 hc) taken }
  rcases result with ⟨rfl, -⟩ | ⟨row, there, carries, rfl⟩
  · obtain ⟨outcome, w₂, created, truly, taken⟩ := h.passes_createOrElse hk looked.now draws hr
    refine ⟨outcome, w₂, settled ?_ truly taken⟩
    exact matched.bind (looked.bind created)
  · obtain ⟨outcome, w₂, updated, truly, taken⟩ := h.passes_found hk looked.now hr there carries
    refine ⟨outcome, w₂, settled ?_ truly taken⟩
    exact matched.bind (looked.bind updated)

/-- Accounts, no two of one email, where the other client is faster. -/
def accounts : SharedTable where
  schema := ⟨"accounts", [.id "id", { name := "email", kind := .string, unique := true }], {}, 0⟩
  columns := ["email"]
  data := .ofEntries [("email", .text "a")]
  now := default
  raced := true

theorem lostRace_settles :
    ∃ outcome w', accounts.model.Settles id accounts.key accounts.data accounts.columns
      (accounts.world [.ofEntries [("id", .int 1), ("email", .text "b")]]) outcome w' := by
  have respects : accounts.key.Respects [.ofEntries [("id", .int 1), ("email", .text "b")]] :=
    UniqueKey.respects_singleton rfl rfl rfl
  refine upsert_survives_races (accounts.setting (by decide +kernel) respects) ⟨?_, by decide⟩
  intro f hf
  cases hf
  decide

/-! ## Where keys are not kept -/

/-- An upsert in the setting that does not end well on a shared table with some rows. -/
def SharedTable.Fails (x : SharedTable) (rows : List Record) : Prop :=
  x.model.Setting id x.key x.data x.columns (x.world rows) ∧
    ¬ ∃ outcome w', x.model.Settles id x.key x.data x.columns (x.world rows) outcome w'

/-- An upsert that ends with an error does not end well. -/
theorem SharedTable.fails_of_error {x : SharedTable} {row : Record} (h : x.fits = true)
    (hr : x.key.Respects [row])
    (error : ((x.model.upsert (.byFields x.data x.columns)).outcome (x.world [row])).1.isOk
      = false) : x.Fails [row] := by
  refine ⟨x.setting h hr, ?_⟩
  rintro ⟨outcome, w', settles⟩
  rw [settles.ends] at error
  cases error

/-- A column with an email. -/
def emailField : Field where
  name := "email"
  kind := .string

/-- A table whose primary key is a truth value. -/
def flags : SharedTable where
  schema := ⟨"flags", [{ name := "flag", kind := .boolean, primaryKey := true }, emailField], {}, 0⟩
  columns := ["email"]
  data := .ofEntries [("email", .text "a")]
  now := default

/-- A table whose primary key is a document. -/
def documents : SharedTable where
  schema :=
    ⟨"documents", [{ name := "body", kind := .json, primaryKey := true }, emailField], {}, 0⟩
  columns := ["email"]
  data := .ofEntries [("email", .text "a")]
  now := default

/-- A table whose primary key is the time of the last change. -/
def changes : SharedTable where
  schema := ⟨"changes", [{ name := updatedAt, kind := .date, primaryKey := true },
    Schema.stampedField createdAt, emailField], { timestamps := true }, 0⟩
  columns := ["email"]
  data := .ofEntries [("email", .text "a")]
  now := default

/-- A table with no two rows of which the last change is at the same time. -/
def visits : SharedTable where
  schema := ⟨"visits", [.id "id", Schema.stampedField createdAt, Schema.stampedField updatedAt],
    { timestamps := true }, 0⟩
  columns := [updatedAt]
  data := .ofEntries [(updatedAt, .text "2020-01-01")]
  now := default

/-- A primary key that is read back as another value is lost from sight, and so is one that the
update stamps; where the update stamps a column of the key, the row no longer carries it. -/
theorem keys_not_kept :
    flags.Fails [.ofEntries [("flag", .int 2), ("email", .text "a")]] ∧
      documents.Fails [.ofEntries [("body", .text "[ ]"), ("email", .text "a")]] ∧
      changes.Fails [.ofEntries [(updatedAt, .text "2020-01-01"), ("email", .text "a")]] ∧
      visits.Fails [.ofEntries [("id", .int 1), (updatedAt, .text "2020-01-01")]] := by
  refine ⟨?_, ?_, ?_, ?_, ?_⟩
  · exact SharedTable.fails_of_error (by decide +kernel)
      (UniqueKey.respects_singleton rfl rfl rfl) (by decide +kernel)
  · exact SharedTable.fails_of_error (by decide +kernel)
      (UniqueKey.respects_singleton rfl rfl rfl) (by decide +kernel)
  · exact SharedTable.fails_of_error (by decide +kernel)
      (UniqueKey.respects_singleton rfl rfl rfl) (by decide +kernel)
  · exact visits.setting (by decide +kernel) (UniqueKey.respects_singleton rfl rfl rfl)
  · rintro ⟨outcome, w', settles⟩
    -- The upsert ends, but its stamp has taken the key from the row.
    have none : (((visits.model.upsert (.byFields visits.data visits.columns)).outcome
        (visits.world [.ofEntries [("id", .int 1), (updatedAt, .text "2020-01-01")]])).2.engine
          |>.countP fun row => decide (visits.key.Carries row (visits.data.pick visits.columns)))
        = 0 := by
      decide +kernel
    rw [settles.ends] at none
    exact absurd (settles.one.symm.trans none) (by decide)

end RecordMapper
