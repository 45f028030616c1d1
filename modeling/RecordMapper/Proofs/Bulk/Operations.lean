import RecordMapper.Proofs.Bulk.Parts
import RecordMapper.Proofs.Model.Operations
import RecordMapper.Proofs.Upsert.Recovery

/-!
# The bulk operations

Each bulk operation in parts, and what its account says about the statements that were rejected.

* `Model.follows_bulkCreate` and its kind give the parts: the items one by one, the chunks of keys,
  and the chunks of the rows that are ready to be inserted (`Model.Batched`).
* `Accounts.rejected`: the failure of a rejected statement is listed for all items that it concerns,
  or ends the operation.
-/

namespace RecordMapper

/-! ## Rejections -/

/-- The failure of an item or a chunk is collected, or ends the operation; `after` is what is said
after it. -/
def Accounted {β : Type} (first : β → Nat) (entries : β → Error → List BulkFailure)
    (options : BulkOptions) (after : Conversation) (result : Except Error BulkReport) (item : β)
    (e : Error) : Prop :=
  if options.continueOnError then
    ∃ report, result = .ok report ∧ ∀ f ∈ entries item e, f ∈ report.errors
  else after = [] ∧ ∃ n, result = .error (.bulkAborted (first item) n e)

/-- Something that was said in parts was said in one of them. -/
theorem Part.of_flatMap {β γ : Type} {parts : List (Part β γ)} :
    ∀ {before : Conversation} {x : Statement × Answer} {after : Conversation},
      parts.flatMap Part.conversation = before ++ x :: after →
      ∃ done p rest said unsaid, parts = done ++ p :: rest ∧
        p.conversation = said ++ x :: unsaid ∧
        after = unsaid ++ rest.flatMap Part.conversation := by
  induction parts with
  | nil =>
    intro before x after h
    cases before <;> cases h
  | cons p parts ih =>
    intro before x after h
    rw [List.flatMap_cons] at h
    rcases List.append_eq_append_iff.1 h with ⟨more, -, rest⟩ | ⟨more, here, rest⟩
    · obtain ⟨done, q, others, said, unsaid, rfl, there, rfl⟩ := ih rest
      exact ⟨p :: done, q, others, said, unsaid, rfl, there, rfl⟩
    · cases more with
      | nil =>
        have later : parts.flatMap Part.conversation = [] ++ x :: after := rest.symm
        obtain ⟨done, q, others, said, unsaid, rfl, there, rfl⟩ := ih later
        exact ⟨p :: done, q, others, said, unsaid, rfl, there, rfl⟩
      | cons y more =>
        obtain ⟨rfl, rfl⟩ := List.cons.inj rest
        exact ⟨[], p, parts, before, more, rfl, here, rfl⟩

/-- **Rejections are accounted for**: where each part reports its rejections, the failure of a
rejected statement is collected for the item or chunk that it is about, or ends the operation. -/
theorem Accounts.rejected {σ β γ : Type} {m : Model σ} {first : β → Nat}
    {entries : β → Error → List BulkFailure} {options : BulkOptions} {items : List β}
    {listed : List BulkFailure} {parts : List (Part β γ)} {xs : Conversation}
    {result : Except Error BulkReport}
    (h : Accounts (fun _ => m.Reports) first entries options items listed parts xs result)
    {before : Conversation} {s : Statement} {r : Rejection} {after : Conversation}
    (hx : xs = before ++ (s, .error r) :: after) :
    ∃ item ∈ items, Accounted first entries options after result item (m.failure s r) := by
  obtain ⟨done, p, rest, said, unsaid, rfl, there, rfl⟩ := Part.of_flatMap (h.said ▸ hx)
  obtain ⟨rfl, failed⟩ := h.lawful p (by simp) said s r unsaid there
  have member : p.item ∈ items := h.inOrder.subset (by simp)
  refine ⟨p.item, member, ?_⟩
  unfold Accounted
  split
  · next goes =>
    obtain ⟨-, report, ends, errors⟩ := h.collected goes
    refine ⟨report, ends, fun f hf => ?_⟩
    have own : f ∈ Part.failures entries p := by
      rw [Part.failures, failed]
      exact hf
    rw [errors]
    simp [own]
  · next stops =>
    rcases h.stopped (Bool.eq_false_iff.2 stops) with ⟨-, well, -⟩ |
      ⟨done', last, e, n, same, well, ends, aborted⟩
    · obtain ⟨c, success⟩ := well p (by simp)
      rw [failed] at success
      cases success
    · -- Of the parts only the last one fails, so this is it.
      rcases rest.eq_nil_or_concat with rfl | ⟨others, q, rfl⟩
      · obtain ⟨-, tail⟩ := List.append_inj' same rfl
        obtain rfl := List.head_eq_of_cons_eq tail
        rw [failed] at ends
        exact ⟨rfl, n, by rw [aborted, Except.error.inj ends]⟩
      · have regrouped : (done ++ p :: others) ++ [q] = done' ++ [last] := by simpa using same
        obtain ⟨rfl, -⟩ := List.append_inj' regrouped rfl
        obtain ⟨c, success⟩ := well p (by simp)
        rw [failed] at success
        cases success

namespace Model

variable {σ β : Type} {m : Model σ}

/-! ## Item by item -/

/-- What an account says of an item that failed. -/
def itemEntry (item : Nat × Record) (e : Error) : List BulkFailure :=
  [⟨item.1, e.message, some item.2⟩]

theorem foldlM_flatten {α : Type} (f : β → α → Call σ β) (chunks : List (List α)) :
    ∀ b, chunks.foldlM (fun b chunk => chunk.foldlM f b) b = chunks.flatten.foldlM f b := by
  induction chunks with
  | nil => exact fun b => rfl
  | cons chunk rest ih =>
    intro b
    rw [List.foldlM_cons, List.flatten_cons, List.foldlM_append]
    exact bind_congr fun b' => ih b'

/-- Going through items chunk by chunk is going through them one by one. -/
theorem eachItem_eq (options : BulkOptions) (size : UInt64) (op : Record → Call σ Success)
    (items : List Record) :
    eachItem options size op items = (numbered 0 items).foldlM
      (work options (fun item => op item.2) (fun _ success => success.count) (·.1) itemEntry)
      {} := by
  have one : oneItem options op = work options (fun item => op item.2)
      (fun _ success => success.count) (·.1) itemEntry := by
    funext report item
    unfold oneItem work
    exact bind_congr fun ends => by cases ends <;> rfl
  rw [eachItem, foldlM_flatten, flatten_numberedChunks, one]

theorem follows_eachItem {options : BulkOptions} {size : UInt64} {op : Record → Call σ Success}
    {law : Nat × Record → Conversation → Except Error Success → Prop}
    (lawful : ∀ item w, m.Follows (op item.2) w (law item)) (items : List Record) (w : World σ) :
    m.Follows (eachItem options size op items) w fun xs result => ∃ parts,
      Accounts law (·.1) itemEntry options (numbered 0 items) [] parts xs result := by
  rw [eachItem_eq]
  exact follows_work (fun _ success _ => by cases success <;> rfl) lawful _ {} w

theorem straight_updateItem (hm : m.hooks = {}) (item : Record) :
    m.Straight m.Composes (m.updateItem item) := by
  unfold updateItem
  split
  · exact .lift (.error _)
  · refine (straight_updateById hm _ _).bind fun row => ?_
    cases row with
    | none => exact .lift (.error _)
    | some _ => exact .pure _

/-- **Creating records one by one.** -/
theorem follows_bulkCreate (hm : m.hooks = {}) (items : List Record) (options : BulkOptions)
    (w : World σ) :
    m.Follows (m.bulkCreate items options) w fun xs result =>
      ∃ parts : List (Part (Nat × Record) Success),
        Accounts (fun _ => m.Reports) (·.1) itemEntry options (numbered 0 items) [] parts xs
          result :=
  follows_eachItem (fun item w =>
    ((straight_create hm item.2).bind fun _ => .pure Success.created).reports w) items w

/-- **Updating records one by one.** -/
theorem follows_bulkUpdate (hm : m.hooks = {}) (items : List Record) (options : BulkOptions)
    (w : World σ) :
    m.Follows (m.bulkUpdate items options) w fun xs result =>
      ∃ parts : List (Part (Nat × Record) Success),
        Accounts (fun _ => m.Reports) (·.1) itemEntry options (numbered 0 items) [] parts xs
          result :=
  follows_eachItem (fun item w => (straight_updateItem hm item.2).reports w) items w

/-- **Upserting records one by one**: each of them recovers as an upsert does. -/
theorem follows_bulkUpsert (hm : m.hooks = {}) (items : List Record) (fields : List String)
    (options : BulkOptions) (w : World σ) :
    m.Follows (m.bulkUpsert items fields options) w fun xs result =>
      ∃ parts : List (Part (Nat × Record) Success),
        Accounts (fun item => m.Recovers
            (m.selectOne (UpsertRequest.byFields item.2 fields).parts.1))
          (·.1) itemEntry options (numbered 0 items) [] parts xs result := by
  refine follows_eachItem (fun item w => ?_) items w
  have upserts := follows_upsert hm (.byFields item.2 fields) w
  refine upserts.bind ?_ fun xs outcome w' path _ => .pure ?_
  · exact fun xs e path => (recovers_upserted path).map fun _ => by simp
  · rw [List.append_nil]
    exact (recovers_upserted path).map fun _ => by simp

/-! ## Chunk by chunk -/

/-- The place of the first item of a chunk. -/
def firstPlace {α : Type} (chunk : List (Nat × α)) : Nat :=
  (chunk.head?.map (·.1)).getD 0

/-- What an account says of a chunk of keys that failed. -/
def keyEntries (m : Model σ) (chunk : List (Nat × Value)) (e : Error) : List BulkFailure :=
  chunk.map fun (i, id) => ⟨i, e.message, some (Record.empty.set m.schema.keyName id)⟩

/-- What an account says of a chunk of rows that failed. -/
def rowEntries (chunk : List (Nat × Record)) (e : Error) : List BulkFailure :=
  chunk.map fun (i, row) => ⟨i, e.message, some row⟩

/-- Counts the deleted rows of a chunk of keys. -/
def countDeleted (_ : List (Nat × Value)) (n : UInt64) (report : BulkReport) : BulkReport :=
  { report with deleted := report.deleted + n }

theorem deleteChunk_eq (m : Model σ) (options : BulkOptions) :
    m.deleteChunk options = work options
      (fun chunk => m.delete [.isIn m.schema.keyName (chunk.map (·.2))]) countDeleted firstPlace
      m.keyEntries := by
  funext report chunk
  unfold deleteChunk work
  exact bind_congr fun ends => by cases ends <;> rfl

/-- **Deleting the keys of each chunk.** -/
theorem follows_bulkDelete (hm : m.hooks = {}) (ids : List Value) (options : BulkOptions)
    (w : World σ) :
    m.Follows (m.bulkDelete ids options) w fun xs result =>
      ∃ chunks, ∃ parts : List (Part (List (Nat × Value)) UInt64),
        chunks.flatten = numbered 0 ids ∧
          Accounts (fun _ => m.Reports) firstPlace m.keyEntries options chunks [] parts xs
            result := by
  have lawful : ∀ (chunk : List (Nat × Value)) (w : World σ),
      m.Follows (m.delete [.isIn m.schema.keyName (chunk.map (·.2))]) w m.Reports :=
    fun chunk w => (straight_delete hm _).reports w
  rw [bulkDelete, deleteChunk_eq]
  refine (follows_work ?_ lawful _ {} w).mono ?_
  · exact fun _ _ _ => rfl
  · exact fun xs result ⟨parts, h⟩ => ⟨_, parts, flatten_numberedChunks _ ids, h⟩

/-- The insertion of a batch of rows. -/
inductive Batched (m : Model σ) (rows : List Record) (options : BulkOptions) :
    Conversation → Except Error BulkReport → Prop
  /-- A row is invalid, and the operation ends before anything is said. -/
  | refused {i : Nat} {n : UInt64} {violations : List Violation}
      (stops : options.continueOnError = false) :
    Batched m rows options [] (.error (.bulkAborted i n (.validation violations)))
  /-- The invalid rows are listed, and the others are inserted chunk by chunk; the account is put in
  the order of the rows. -/
  | inserted {refused : List BulkFailure} {chunks : List (List (Nat × Record))}
      {parts : List (Part (List (Nat × Record)) Unit)} {xs : Conversation}
      {account : Except Error BulkReport}
      (once : (refused.map (·.index) ++ chunks.flatten.map (·.1)).Perm (List.range rows.length))
      (accounts : Accounts (fun _ => m.Reports) firstPlace rowEntries options chunks refused parts
        xs account) :
    Batched m rows options xs (account.map fun report =>
      { report with errors := report.errors.mergeSort fun a b => a.index ≤ b.index })

/-- The rows that are gone through so far, by their places. -/
def places (state : BulkReport × List (Nat × Record)) : List Nat :=
  state.1.errors.map (·.index) ++ state.2.map (·.1)

/-- Preparing rows says nothing: each row is ready or refused, so that `all` are gone through, or
the first invalid one ends the operation. -/
def Prepared (options : BulkOptions) (all : List Nat) (xs : Conversation)
    (result : Except Error (BulkReport × List (Nat × Record))) : Prop :=
  xs = [] ∧
    ((options.continueOnError = false ∧
        ∃ i n violations, result = .error (.bulkAborted i n (.validation violations))) ∨
      ∃ state, result = .ok state ∧ (places state).Perm all)

/-- **Rows are prepared** one by one. -/
theorem follows_prepareRows (m : Model σ) (options : BulkOptions) (items : List (Nat × Record)) :
    ∀ state w, m.Follows (items.foldlM (m.prepareRow options) state) w
      (Prepared options (places state ++ items.map (·.1))) := by
  induction items with
  | nil =>
    exact fun state w => .pure ⟨rfl, .inr ⟨state, rfl, by simp⟩⟩
  | cons item rest ih =>
    intro (report, ready) w
    rw [List.foldlM_cons]
    simp only [prepareRow, bind_assoc]
    refine .prepareInsert_bind ?_
    generalize (m.schema.complete w.now item.2 w.draws).1 = row
    have goes : ∀ {state : BulkReport × List (Nat × Record)} {w' : World σ},
        (places state).Perm (places (report, ready) ++ [item.1]) →
        m.Follows (rest.foldlM (m.prepareRow options) state) w'
          (Prepared options (places (report, ready) ++ (item :: rest).map (·.1))) := by
      intro state w' step
      refine (ih state w').mono fun xs result ⟨silent, ends⟩ => ⟨silent, ends.imp_right ?_⟩
      rintro ⟨prepared, rfl, all⟩
      refine ⟨prepared, rfl, all.trans ((step.append_right _).trans (.of_eq ?_))⟩
      simp
    cases checked : (if options.validate then m.schema.validate .create row else .ok ()) with
    | ok _ =>
      refine goes ?_
      simp [places]
    | error e =>
      obtain ⟨violations, rfl⟩ : ∃ violations, e = .validation violations := by
        split at checked
        · exact validate_error checked
        · cases checked
      simp only [BulkReport.fail]
      by_cases collects : options.continueOnError = true
      · rw [if_pos collects]
        refine goes ?_
        simp only [places, BulkReport.addErrors, List.map_append, List.append_assoc]
        exact (List.perm_append_comm).append_left _
      · rw [if_neg collects]
        have stops := Bool.eq_false_iff.2 collects
        exact .throw ⟨rfl, .inl ⟨stops, item.1, report.completed, violations, rfl⟩⟩

theorem insertChunk_eq (m : Model σ) (options : BulkOptions) (columns : List String) :
    m.insertChunk options columns = work options
      (fun chunk => (m.batchStatements columns (chunk.map (·.2))).forM fun s => do
        let _ ← m.execute s)
      (fun chunk _ report => { report with created := report.created + chunk.length })
      firstPlace rowEntries := by
  funext report chunk
  unfold insertChunk work
  exact bind_congr fun ends => by cases ends <;> rfl

/-- The statements of a chunk of rows. -/
theorem straight_batch (m : Model σ) (columns : List String) (chunk : List (Nat × Record))
    (w : World σ) :
    m.Follows ((m.batchStatements columns (chunk.map (·.2))).forM fun s => do
      let _ ← m.execute s) w m.Reports :=
  (Straight.forM fun _ _ => (straight_execute (P := fun _ => True) trivial).bind fun _ =>
    .pure ()).reports w

/-- **Inserting rows in batches.** -/
theorem follows_batchInsert (m : Model σ) (rows : List Record) (options : BulkOptions)
    (w : World σ) : m.Follows (m.batchInsert rows options) w (m.Batched rows options) := by
  unfold batchInsert
  refine (m.follows_prepareRows options (numbered 0 rows) ({}, []) w).bind ?_ ?_
  · rintro xs e ⟨rfl, ⟨stops, i, n, violations, ends⟩ | ⟨prepared, ends, -⟩⟩
    · cases ends
      exact .refused stops
    · cases ends
  · rintro xs ⟨report, ready⟩ w' ⟨rfl, ⟨-, i, n, violations, ends⟩ | ⟨prepared, ends, all⟩⟩ -
    · cases ends
    · cases ends
      have once : (report.errors.map (·.index) ++ ready.map (·.1)).Perm
          (List.range rows.length) := by
        refine all.trans (.of_eq ?_)
        rw [map_fst_numbered, ← List.range_eq_range']
        rfl
      dsimp only
      generalize columnsOf (ready.map (·.2)) = columns
      generalize rowsPerStatement _ _ columns - 1 = size
      rw [insertChunk_eq]
      refine (follows_work ?_ (straight_batch m columns) _ report w').bind ?_ ?_
      · exact fun _ _ _ => rfl
      · rintro xs e ⟨parts, accounts⟩
        rw [← flatten_chunksOf size ready] at once
        exact .inserted once accounts
      · rintro xs account w'' ⟨parts, accounts⟩ -
        rw [← flatten_chunksOf size ready] at once
        refine .pure ?_
        rw [List.append_nil]
        exact .inserted once accounts

/-- **Rejections of a batch are accounted for**, for all rows of the rejected statement. -/
theorem Batched.rejected {rows : List Record} {options : BulkOptions} {xs : Conversation}
    {result : Except Error BulkReport} (h : m.Batched rows options xs result)
    {before : Conversation} {s : Statement} {r : Rejection} {after : Conversation}
    (hx : xs = before ++ (s, .error r) :: after) :
    ∃ chunk, (∀ row ∈ chunk, row.1 < rows.length) ∧
      Accounted firstPlace rowEntries options after result chunk (m.failure s r) := by
  cases h with
  | refused _ => cases before <;> cases hx
  | @inserted refused chunks parts _ account once accounts =>
    obtain ⟨chunk, member, accounted⟩ := accounts.rejected hx
    refine ⟨chunk, fun row hr => ?_, ?_⟩
    · have place : row.1 ∈ refused.map (·.index) ++ chunks.flatten.map (·.1) :=
        List.mem_append_right _
          (List.mem_map_of_mem (List.mem_flatten_of_mem member hr))
      exact List.mem_range.1 (once.mem_iff.1 place)
    · unfold Accounted at accounted ⊢
      split at accounted
      · next goes =>
        obtain ⟨report, rfl, listed⟩ := accounted
        rw [if_pos goes]
        exact ⟨_, rfl, fun f hf => (List.mergeSort_perm _ _).mem_iff.2 (listed f hf)⟩
      · next stops =>
        obtain ⟨last, n, rfl⟩ := accounted
        rw [if_neg stops]
        exact ⟨last, n, rfl⟩

end Model

end RecordMapper
