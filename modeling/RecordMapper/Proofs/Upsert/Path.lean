import RecordMapper.Model.Upsert
import RecordMapper.Proofs.Model.Columns
import RecordMapper.Proofs.Model.Conversation
import RecordMapper.Proofs.Storage
import RecordMapper.Proofs.Upsert.Statements

/-!
# The path of an upsert

Which statements finding or creating a record issues, in which order, and how it ends, for every
answer of the engine.

* `Model.Looked`, `Model.Created` and `Model.Applied` are the conversations of the stages: a lookup
  of one row, a creation, and an update of a row that was found.
* `Model.Sought` puts them together: the row is looked for, created where it is not there, and
  looked for once more where the creation fails as a duplicate.
* `Model.follows_upsert` and `Model.follows_createIfNotExists`: this is how the operations run.
-/

namespace RecordMapper

namespace Model

variable {σ α : Type} {m : Model σ}

open Call

/-! ## The statements -/

/-- The query for one row of a filter. -/
def rowOf (m : Model σ) (filter : Filter) : Query :=
  { m.query with
    conditions := filter ++ (if m.schema.hidesDeleted then [.isNull deletedAt] else [])
    limit := some 1 }

/-- The statement that looks for one row of a filter. -/
def selectOne (m : Model σ) (filter : Filter) : Statement :=
  (m.rowOf filter).find.statement.wire

/-- The statement that looks for the row of a key, be it marked as deleted. -/
def selectById (m : Model σ) (id : Value) : Statement :=
  ({ m.query.addCondition (.eq m.schema.keyName id) with limit := some 1 } :
    Query).find.statement.wire

/-- The statement that inserts a record. -/
def insertion (m : Model σ) (data : Record) : Statement :=
  (Insert.one m.table data).statement.wire

/-! ## The stages -/

/-- A lookup of one row: what is said, and what is found. -/
inductive Looked (m : Model σ) (s : Statement) :
    Conversation → Except Error (Option Record) → Prop
  /-- The lookup is rejected. -/
  | rejected (r : Rejection) : Looked m s [(s, .error r)] (.error (m.failure s r))
  /-- The first row of the reply is found, if there is one. -/
  | answered (reply : Reply) :
    Looked m s [(s, .ok reply)] (.ok (reply.rows.head?.map m.schema.hydrate))

/-- The statement `s` inserts a completed record, which is valid. -/
structure Inserting (m : Model σ) (completed : Record) (s : Statement) : Prop where
  valid : m.schema.validate .create completed = .ok ()
  statement : s = m.insertion (m.schema.encode completed)

/-- The creation of a completed record: what is said, and how it ends. -/
inductive Created (m : Model σ) (completed : Record) :
    Conversation → Except Error Record → Prop
  /-- The record is invalid; nothing is said. -/
  | invalid {e : Error} (h : m.schema.validate .create completed = .error e) :
    Created m completed [] (.error e)
  /-- The insertion is rejected. -/
  | rejected {s : Statement} (inserts : m.Inserting completed s) (r : Rejection) :
    Created m completed [(s, .error r)] (.error (m.failure s r))
  /-- The engine does not say which row it inserted. -/
  | unidentified {s : Statement} (inserts : m.Inserting completed s) {reply : Reply} {e : Error}
      (h : m.insertedKey (m.schema.encode completed) reply.info = .error e) :
    Created m completed [(s, .ok reply)] (.error e)
  /-- The row cannot be read back. -/
  | unread {s : Statement} (inserts : m.Inserting completed s) {reply : Reply} {id : Value}
      (h : m.insertedKey (m.schema.encode completed) reply.info = .ok id) {ys : Conversation}
      {e : Error} (read : Looked m (m.selectById id) ys (.error e)) :
    Created m completed ((s, .ok reply) :: ys) (.error e)
  /-- The row is not there. -/
  | missing {s : Statement} (inserts : m.Inserting completed s) {reply : Reply} {id : Value}
      (h : m.insertedKey (m.schema.encode completed) reply.info = .ok id) {ys : Conversation}
      (read : Looked m (m.selectById id) ys (.ok none)) :
    Created m completed ((s, .ok reply) :: ys) (.error (.missingRow (.notFound m.table id)))
  /-- The row is inserted and read back. -/
  | created {s : Statement} (inserts : m.Inserting completed s) {reply : Reply} {id : Value}
      (h : m.insertedKey (m.schema.encode completed) reply.info = .ok id) {ys : Conversation}
      {record : Record} (read : Looked m (m.selectById id) ys (.ok (some record))) :
    Created m completed ((s, .ok reply) :: ys) (.ok record)

/-- Whether a record assigns anything: the primary key, `id` and `created_at` do not count. -/
def assigns (m : Model σ) (update : Record) : Bool :=
  update.fields.any fun f => f != m.schema.keyName && f != "id" && f != createdAt

/-- The statement `s` assigns a record, at a time, to the row of the key that a found row has. -/
structure Assigning (m : Model σ) (now : Instant) (update found : Record) (id : Value)
    (s : Statement) : Prop where
  key : found.get? m.schema.keyName = some id
  assigns : m.assigns update = true
  statement : ∃ t, m.assignOne id (m.schema.encode (m.stamped now (m.assignable update))) = .ok t ∧
    s = t.statement.wire

/-- An update of a row that was found: what is said, and how it ends. -/
inductive Applied (m : Model σ) (now : Instant) (update found : Record) :
    Conversation → Except Error UpsertOutcome → Prop
  /-- The row lacks its key; nothing is said. -/
  | keyless (h : found.get? m.schema.keyName = none) :
    Applied m now update found []
      (.error (.invalidArgument (.rowWithoutKey m.table m.schema.keyName)))
  /-- Nothing is to be assigned; nothing is said. -/
  | kept {id : Value} (key : found.get? m.schema.keyName = some id)
      (h : m.assigns update = false) : Applied m now update found [] (.ok { record := found })
  /-- The assigned fields are invalid; nothing is said. -/
  | invalid {id : Value} (key : found.get? m.schema.keyName = some id)
      (assigns : m.assigns update = true) {e : Error}
      (h : m.schema.validate .partialUpdate (m.stamped now (m.assignable update)) = .error e) :
    Applied m now update found [] (.error e)
  /-- The assignment is rejected. -/
  | rejected {id : Value} {s : Statement} (sets : m.Assigning now update found id s)
      (r : Rejection) : Applied m now update found [(s, .error r)] (.error (m.failure s r))
  /-- The row cannot be read back. -/
  | unread {id : Value} {s : Statement} (sets : m.Assigning now update found id s) {reply : Reply}
      {ys : Conversation} {e : Error} (read : Looked m (m.selectById id) ys (.error e)) :
    Applied m now update found ((s, .ok reply) :: ys) (.error e)
  /-- The row is gone. -/
  | vanished {id : Value} {s : Statement} (sets : m.Assigning now update found id s)
      {reply : Reply} {ys : Conversation} (read : Looked m (m.selectById id) ys (.ok none)) :
    Applied m now update found ((s, .ok reply) :: ys)
      (.error (.missingRow (.disappeared m.table id)))
  /-- The row is updated and read back. -/
  | updated {id : Value} {s : Statement} (sets : m.Assigning now update found id s) {reply : Reply}
      {ys : Conversation} {record : Record}
      (read : Looked m (m.selectById id) ys (.ok (some record))) :
    Applied m now update found ((s, .ok reply) :: ys) (.ok { record, updated := true })

/-- Finding or creating: `lookup` is the statement that looks for the row, `creating` the creation
where there is none, and `going` how it goes on with a row that is there. -/
inductive Sought (m : Model σ) (lookup : Statement)
    (creating : Conversation → Except Error Record → Prop)
    (going : Record → Conversation → Except Error UpsertOutcome → Prop) :
    Conversation → Except Error UpsertOutcome → Prop
  /-- The lookup is rejected. -/
  | unseen {xs : Conversation} {e : Error} (looked : Looked m lookup xs (.error e)) :
    Sought m lookup creating going xs (.error e)
  /-- The row is there. -/
  | found {xs ys : Conversation} {row : Record} {result : Except Error UpsertOutcome}
      (looked : Looked m lookup xs (.ok (some row))) (goes : going row ys result) :
    Sought m lookup creating going (xs ++ ys) result
  /-- The row is created. -/
  | created {xs ys : Conversation} {record : Record}
      (looked : Looked m lookup xs (.ok none)) (creates : creating ys (.ok record)) :
    Sought m lookup creating going (xs ++ ys) (.ok { record, created := true })
  /-- The creation fails, but not as a duplicate. -/
  | failed {xs ys : Conversation} {e : Error} (looked : Looked m lookup xs (.ok none))
      (creates : creating ys (.error e)) (other : e.isDuplicateEntry = false) :
    Sought m lookup creating going (xs ++ ys) (.error e)
  /-- The creation fails as a duplicate, and the second lookup is rejected. -/
  | unseenAgain {xs ys zs : Conversation} {e e' : Error} (looked : Looked m lookup xs (.ok none))
      (creates : creating ys (.error e)) (duplicate : e.isDuplicateEntry = true)
      (again : Looked m lookup zs (.error e')) :
    Sought m lookup creating going (xs ++ (ys ++ zs)) (.error e')
  /-- The creation fails as a duplicate, but there is no row: the failure stands. -/
  | stands {xs ys zs : Conversation} {e : Error} (looked : Looked m lookup xs (.ok none))
      (creates : creating ys (.error e)) (duplicate : e.isDuplicateEntry = true)
      (again : Looked m lookup zs (.ok none)) :
    Sought m lookup creating going (xs ++ (ys ++ zs)) (.error e)
  /-- The creation fails as a duplicate of a row that is there now. -/
  | lost {xs ys zs us : Conversation} {e : Error} {row : Record}
      {result : Except Error UpsertOutcome} (looked : Looked m lookup xs (.ok none))
      (creates : creating ys (.error e)) (duplicate : e.isDuplicateEntry = true)
      (again : Looked m lookup zs (.ok (some row))) (goes : going row us result) :
    Sought m lookup creating going (xs ++ (ys ++ (zs ++ us))) result

/-! ## How they run -/

section

variable {β : Type} {w : World σ} {S : Conversation → Except Error β → Prop}

/-- A lookup of one row comes first; it draws no values. -/
theorem Follows.fetch_head_bind {q : Query} {f : Option Record → Call σ β}
    (error : ∀ xs e, m.Looked q.find.statement.wire xs (.error e) → S xs (.error e))
    (ok : ∀ xs row w', m.Looked q.find.statement.wire xs (.ok row) → w'.now = w.now →
      w'.draws = w.draws → m.Follows (f row) w' fun ys result => S (xs ++ ys) result) :
    m.Follows (m.fetch q >>= fun rows => f rows.head?) w S := by
  rw [fetch, bind_assoc]
  refine .execute_bind (fun r => error _ _ (.rejected r)) fun reply w' now draws => ?_
  rw [pure_bind, List.head?_map]
  exact ok _ _ w' (.answered reply) now draws

theorem Follows.fetchById_bind {id : Value} {f : Option Record → Call σ β}
    (error : ∀ xs e, m.Looked (m.selectById id) xs (.error e) → S xs (.error e))
    (ok : ∀ xs row w', m.Looked (m.selectById id) xs (.ok row) → w'.now = w.now →
      w'.draws = w.draws → m.Follows (f row) w' fun ys result => S (xs ++ ys) result) :
    m.Follows (m.fetchById id >>= f) w S := by
  simp only [fetchById, bind_assoc, pure_bind]
  exact Follows.fetch_head_bind error ok

/-- The query for one row of a filter on declared columns. -/
theorem queryFor_one {filter : Filter} (h : m.checkFilter filter = .ok ()) :
    m.queryFor { filter, limit := some 1 } = .ok (m.rowOf filter) := by
  simp only [queryFor, h, rowOf, Bool.not_false, Bool.and_true]
  rfl

theorem Follows.findOne_bind (hm : m.hooks = {}) {filter : Filter}
    (checked : m.checkFilter filter = .ok ()) {f : Option Record → Call σ β}
    (error : ∀ xs e, m.Looked (m.selectOne filter) xs (.error e) → S xs (.error e))
    (ok : ∀ xs row w', m.Looked (m.selectOne filter) xs (.ok row) → w'.now = w.now →
      w'.draws = w.draws → m.Follows (f row) w' fun ys result => S (xs ++ ys) result) :
    m.Follows (m.findOne { filter } >>= f) w S := by
  simp only [findOne, findAll_eq hm, bind_assoc, pure_bind]
  refine .lift_bind (fun e he => ?_) fun q hq => ?_
  · rw [queryFor_one checked] at he
    cases he
  · obtain rfl := Except.ok.inj ((queryFor_one checked).symm.trans hq)
    exact Follows.fetch_head_bind error ok

end

/-- **A creation.** -/
theorem follows_create (hm : m.hooks = {}) (data : Record) (w : World σ) :
    m.Follows (m.create data) w (Created m (m.schema.complete w.now data w.draws).1) := by
  rw [create_eq hm]
  refine .prepareInsert_bind ?_
  generalize (m.schema.complete w.now data w.draws).1 = completed
  refine .lift_bind (fun e he => .invalid he) fun _ valid => ?_
  have inserts : m.Inserting completed
    (Insert.one m.table (m.schema.encode completed)).statement.wire := ⟨valid, rfl⟩
  refine .execute_bind (fun r => .rejected inserts r) fun reply w' _ _ => ?_
  refine .lift_bind (fun e he => .unidentified inserts he) fun id key => ?_
  refine .fetchById_bind (fun ys e read => .unread inserts key read) fun ys row w' read _ _ => ?_
  cases row with
  | none => exact .throw (by simpa using Created.missing inserts key read)
  | some record => exact .pure (by simpa using Created.created inserts key read)

/-- A record that assigns something leaves something to be written. -/
theorem isEmpty_of_assigns {update : Record} (h : m.assigns update = true) (now : Instant) :
    (m.assignable update).isEmpty = false ∧
      (m.schema.encode (m.stamped now (m.assignable update))).isEmpty = false := by
  obtain ⟨name, member, other⟩ := List.any_eq_true.1 h
  simp only [Bool.and_eq_true, bne_iff_ne] at other
  have kept : name ∈ (m.assignable update).fields := by
    simp only [assignable, Record.fields_erase, List.mem_filter, bne_iff_ne]
    exact ⟨⟨⟨member, other.1.1⟩, other.1.2⟩, other.2⟩
  have written : name ∈ (m.stamped now (m.assignable update)).fields := by
    unfold stamped
    split
    · rw [Record.fields_set]
      split
      · exact kept
      · exact List.mem_append_left _ kept
    · exact kept
  simp only [Record.isEmpty_eq, Schema.fields_encode, List.isEmpty_eq_false_iff]
  exact ⟨List.ne_nil_of_mem kept, List.ne_nil_of_mem written⟩

/-- Assigning something to the row of a key is refused only where the assigned fields are
invalid. -/
theorem updateTemplate_key_cases {update : Record} (h : m.assigns update = true) (now : Instant)
    (id : Value) :
    (∃ e, m.schema.validate .partialUpdate (m.stamped now (m.assignable update)) = .error e ∧
        m.updateTemplate now update [.eq m.schema.keyName id] = .error e) ∨
      ∃ t, m.assignOne id (m.schema.encode (m.stamped now (m.assignable update))) = .ok t ∧
        m.updateTemplate now update [.eq m.schema.keyName id] = .ok t := by
  obtain ⟨given, written⟩ := isEmpty_of_assigns h now
  have decided : m.updateTemplate now update [.eq m.schema.keyName id]
      = m.schema.validate .partialUpdate (m.stamped now (m.assignable update)) >>= fun _ =>
        m.assignOne id (m.schema.encode (m.stamped now (m.assignable update))) := by
    simp only [updateTemplate, given, Bool.false_eq_true, if_false, checkFilter_key]
    rfl
  rw [decided]
  cases m.schema.validate .partialUpdate (m.stamped now (m.assignable update)) with
  | error e => exact .inl ⟨e, rfl, rfl⟩
  | ok _ =>
    have some : m.assignOne id (m.schema.encode (m.stamped now (m.assignable update)))
        = .ok _ := if_neg (by simp [written])
    exact .inr ⟨_, some, some⟩

/-- **An update of a row that was found.** -/
theorem follows_applyUpdate (hm : m.hooks = {}) (found update : Record) (w : World σ) :
    m.Follows (m.applyUpdate found update) w (Applied m w.now update found) := by
  unfold applyUpdate
  cases key : found.get? m.schema.keyName with
  | none => exact .throw (.keyless key)
  | some id =>
    show m.Follows (if !m.assigns update then _ else _) w _
    cases assigns : m.assigns update with
    | false => exact .pure (.kept key assigns)
    | true =>
      simp only [Bool.not_true, Bool.false_eq_true, if_false, updateById, update_eq hm,
        afterUpdate_eq hm, bind_assoc, pure_bind]
      refine .now_bind ?_
      rcases updateTemplate_key_cases assigns w.now id with ⟨e, invalid, refused⟩ | ⟨t, ht, same⟩
      · rw [refused]
        exact .throw (.invalid key assigns invalid)
      · rw [same]
        have sets : m.Assigning w.now update found id t.statement.wire :=
          ⟨key, assigns, t, ht, rfl⟩
        refine .execute_bind (fun r => .rejected sets r) fun reply w' _ _ => ?_
        refine .fetchById_bind (fun ys e read => .unread sets read) fun ys row w' read _ _ => ?_
        cases row with
        | none => exact .throw (by simpa using Applied.vanished sets read)
        | some record => exact .pure (by simpa using Applied.updated sets read)

/-- **Finding or creating.** -/
theorem follows_sought (hm : m.hooks = {}) {filter : Filter} {create : Record}
    {going : Record → Call σ UpsertOutcome} {w : World σ}
    {Going : Record → Conversation → Except Error UpsertOutcome → Prop}
    (checked : m.checkFilter filter = .ok ())
    (hg : ∀ row (w' : World σ), w'.now = w.now → m.Follows (going row) w' (Going row)) :
    m.Follows
      (m.findOne { filter } >>= fun found => match found with
        | some found => going found
        | none => m.createOrElse create filter going) w
      (Sought m (m.selectOne filter) (Created m (m.schema.complete w.now create w.draws).1)
        Going) := by
  refine .findOne_bind hm checked (fun xs e looked => .unseen looked) ?_
  intro xs row w₁ looked now₁ draws₁
  cases row with
  | some found => exact (hg found w₁ now₁).mono fun ys result goes => .found looked goes
  | none =>
    have creates := follows_create hm create w₁
    rw [now₁, draws₁] at creates
    refine .attempt_bind creates fun ys result w₂ created now₂ => ?_
    cases result with
    | ok record => exact .pure (by simpa using Sought.created looked created)
    | error e =>
      dsimp only
      split
      · next duplicate =>
        refine .findOne_bind hm checked (fun zs e' again => ?_) ?_
        · exact .unseenAgain looked created duplicate again
        · intro zs row w₃ again now₃ _
          cases row with
          | none => exact .throw (by simpa using Sought.stands looked created duplicate again)
          | some found =>
            refine (hg found w₃ (now₃.trans (now₂.trans now₁))).mono fun us result goes => ?_
            exact .lost looked created duplicate again goes
      · next other =>
        have distinct := Bool.eq_false_iff.2 other
        exact .throw (by simpa using Sought.failed looked created distinct)

/-! ## The operations -/

/-- A filter by which an operation may look for a row. -/
def mayMatch (m : Model σ) (operation : String) (filter : Filter) : Except Error Unit := do
  m.requireMatch operation filter
  m.checkFilter filter

/-- An operation that looks for a row, if it may: else it is refused, and nothing is said. -/
inductive Matched (m : Model σ) (operation : String) (filter : Filter)
    (seeking : Conversation → Except Error UpsertOutcome → Prop) :
    Conversation → Except Error UpsertOutcome → Prop
  /-- The filter is empty or on a column that is no field. -/
  | refused {e : Error} (h : m.mayMatch operation filter = .error e) :
    Matched m operation filter seeking [] (.error e)
  /-- The row is looked for. -/
  | sought {xs : Conversation} {result : Except Error UpsertOutcome}
      (allowed : m.mayMatch operation filter = .ok ()) (h : seeking xs result) :
    Matched m operation filter seeking xs result

theorem follows_matched (hm : m.hooks = {}) (operation : String) {filter : Filter}
    {f : Option Record → Call σ UpsertOutcome} {w : World σ}
    {R : Conversation → Except Error UpsertOutcome → Prop}
    (h : m.checkFilter filter = .ok () → m.Follows (m.findOne { filter } >>= f) w R) :
    m.Follows (Call.lift (m.requireMatch operation filter) >>= fun _ =>
      m.findOne { filter } >>= f) w (Matched m operation filter R) := by
  refine .lift_bind (fun e he => .refused (by rw [mayMatch, he]; rfl)) fun _ required => ?_
  cases checked : m.checkFilter filter with
  | error e =>
    have refused : m.findOne { filter } = throw e := by
      simp only [findOne, findAll_eq hm, queryFor, checked]
      rfl
    rw [refused]
    exact .throw (.refused (by rw [mayMatch, required, checked]; rfl))
  | ok _ =>
    exact (h checked).mono fun xs result => .sought (by rw [mayMatch, required, checked]; rfl)

/-- The path of an upsert. -/
def Upserted (m : Model σ) (now : Instant) (draws : Draws) (request : UpsertRequest) :
    Conversation → Except Error UpsertOutcome → Prop :=
  let (filter, create, update) := request.parts
  Matched m "upsert" filter (Sought m (m.selectOne filter)
    (Created m (m.schema.complete now create draws).1) (Applied m now update))

/-- **Every upsert keeps to its path.** -/
theorem follows_upsert (hm : m.hooks = {}) (request : UpsertRequest) (w : World σ) :
    m.Follows (m.upsert request) w (Upserted m w.now w.draws request) := by
  unfold upsert Upserted
  obtain ⟨filter, create, update⟩ := request.parts
  refine follows_matched hm "upsert" fun checked => ?_
  refine follows_sought hm checked fun found w' now => ?_
  rw [← now]
  exact follows_applyUpdate hm found update w'

/-- A row that is there is given as it is. -/
inductive Kept (found : Record) : Conversation → Except Error UpsertOutcome → Prop
  /-- Nothing is said. -/
  | kept : Kept found [] (.ok { record := found })

/-- **Creating a record if it is not there** keeps to the same path, without an update. -/
theorem follows_createIfNotExists (hm : m.hooks = {}) (filter : Filter) (data : Record)
    (w : World σ) :
    m.Follows (m.createIfNotExists filter data) w
      (Matched m "create_if_not_exists" filter (Sought m (m.selectOne filter)
        (Created m (m.schema.complete w.now data w.draws).1) Kept)) :=
  follows_matched hm "create_if_not_exists" fun checked =>
    follows_sought hm checked fun _ _ _ => .pure .kept

end Model

end RecordMapper
