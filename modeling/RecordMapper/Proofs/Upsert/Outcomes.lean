import RecordMapper.Engine.Recorder
import RecordMapper.Proofs.Upsert.Recovery

/-!
# Outcomes of an upsert

What the path of an upsert says about how it ends.

* `Conversation.inserts` and `Conversation.updates` count statements; `Conversation.Rewrites` is an
  update whose row was read back.
* `Model.Settled` is what holds of every conversation that finds or creates.
* `upsert_keeps_path` puts it together: the path, the counts, when an update is reported, and what
  becomes of a rejected statement.
-/

namespace RecordMapper

/-! ## Counts -/

/-- Whether a statement changes rows. -/
def Statement.isUpdate (s : Statement) : Bool :=
  s.keyword == "UPDATE"

namespace Conversation

/-- The number of insertions. -/
def inserts (xs : Conversation) : Nat :=
  xs.countP fun x => x.1.isInsert

/-- The number of updates. -/
def updates (xs : Conversation) : Nat :=
  xs.countP fun x => x.1.isUpdate

@[simp] theorem inserts_nil : inserts [] = 0 := rfl

@[simp] theorem updates_nil : updates [] = 0 := rfl

@[simp] theorem inserts_cons (s : Statement) (answer : Answer) (xs : Conversation) :
    inserts ((s, answer) :: xs) = inserts xs + if s.isInsert then 1 else 0 :=
  List.countP_cons

@[simp] theorem updates_cons (s : Statement) (answer : Answer) (xs : Conversation) :
    updates ((s, answer) :: xs) = updates xs + if s.isUpdate then 1 else 0 :=
  List.countP_cons

@[simp] theorem inserts_append (xs ys : Conversation) :
    inserts (xs ++ ys) = inserts xs + inserts ys :=
  List.countP_append

@[simp] theorem updates_append (xs ys : Conversation) :
    updates (xs ++ ys) = updates xs + updates ys :=
  List.countP_append

/-- The conversation ends with an update that was accepted and the reading of its row. -/
def Rewrites (xs : Conversation) : Prop :=
  ∃ before s reply again reread, xs = before ++ [(s, .ok reply), (again, .ok reread)] ∧
    s.isUpdate = true ∧ reread.rows ≠ []

/-- Nothing but its own end decides whether a conversation that goes on rewrites a row. -/
theorem rewrites_append {xs : Conversation} (h : xs.updates = 0) (ys : Conversation) :
    (xs ++ ys).Rewrites ↔ ys.Rewrites := by
  constructor
  · rintro ⟨before, s, reply, again, reread, same, update, row⟩
    rcases List.append_eq_append_iff.1 same with ⟨more, rfl, rest⟩ | ⟨more, rfl, rest⟩
    · exact ⟨more, s, reply, again, reread, rest, update, row⟩
    · cases more with
      | nil => exact ⟨[], s, reply, again, reread, rest.symm, update, row⟩
      | cons x more =>
        -- The update would be among the statements of the first part.
        obtain ⟨rfl, -⟩ := List.cons.inj rest
        simp [update] at h
  · rintro ⟨before, s, reply, again, reread, rfl, update, row⟩
    exact ⟨xs ++ before, s, reply, again, reread, by simp, update, row⟩

/-- An update and one more statement. -/
theorem rewrites_pair {s again : Statement} {reply : Reply} {answer : Answer}
    (h : s.isUpdate = true) :
    Rewrites [(s, .ok reply), (again, answer)] ↔
      ∃ reread, answer = .ok reread ∧ reread.rows ≠ [] := by
  constructor
  · rintro ⟨before, s', reply', again', reread, same, -, row⟩
    have ends : [] ++ [(s, .ok reply), (again, answer)]
        = before ++ [(s', .ok reply'), (again', .ok reread)] := same
    obtain ⟨-, last⟩ := List.append_inj' ends rfl
    simp only [List.cons.injEq, Prod.mk.injEq, and_true] at last
    exact ⟨reread, last.2.2, row⟩
  · rintro ⟨reread, rfl, row⟩
    exact ⟨[], s, reply, again, reread, rfl, h, row⟩

theorem not_rewrites {xs : Conversation} (h : xs.updates = 0) : ¬ xs.Rewrites := by
  rintro ⟨before, s, reply, again, reread, rfl, update, -⟩
  simp [update] at h

end Conversation

/-! ## Kinds of statements -/

theorem Query.keyword_find (q : Query) : q.find.statement.wire.keyword = "SELECT" := by
  refine Statement.keyword_eq ?_ (by decide)
  simp only [Statement.wire, Template.statement, find, core, Template.sql_append, Template.sql_raw,
    String.toList_append, List.append_assoc]
  exact ⟨_, rfl⟩

theorem Insert.keyword_one (table : String) (data : Record) :
    (Insert.one table data).statement.wire.keyword = "INSERT" := by
  refine Statement.keyword_eq ?_ (by decide)
  unfold one
  split <;>
  · simp only [Statement.wire, Template.statement, Template.sql_append, Template.sql_raw,
      String.toList_append, List.append_assoc]
    exact ⟨_, rfl⟩

theorem Query.keyword_update {q : Query} {set : Record} {t : Template} (h : q.update set = .ok t) :
    t.statement.wire.keyword = "UPDATE" := by
  unfold update at h
  split at h
  · cases h
  · cases h
    refine Statement.keyword_eq ?_ (by decide)
    simp only [Statement.wire, Template.statement, Template.sql_append, Template.sql_raw,
      String.toList_append, List.append_assoc]
    exact ⟨_, rfl⟩

namespace Model

variable {σ : Type} {m : Model σ}

open Conversation

@[simp] theorem isInsert_selectOne (m : Model σ) (filter : Filter) :
    (m.selectOne filter).isInsert = false := by
  rw [Statement.isInsert, selectOne, Query.keyword_find]
  rfl

@[simp] theorem isUpdate_selectOne (m : Model σ) (filter : Filter) :
    (m.selectOne filter).isUpdate = false := by
  rw [Statement.isUpdate, selectOne, Query.keyword_find]
  rfl

@[simp] theorem isInsert_selectById (m : Model σ) (id : Value) :
    (m.selectById id).isInsert = false := by
  rw [Statement.isInsert, selectById, Query.keyword_find]
  rfl

@[simp] theorem isUpdate_selectById (m : Model σ) (id : Value) :
    (m.selectById id).isUpdate = false := by
  rw [Statement.isUpdate, selectById, Query.keyword_find]
  rfl

theorem Inserting.isUpdate {completed : Record} {s : Statement} (h : m.Inserting completed s) :
    s.isUpdate = false := by
  rw [h.statement, Statement.isUpdate, insertion, Insert.keyword_one]
  rfl

theorem Assigning.isUpdate {now : Instant} {update found : Record} {id : Value} {s : Statement}
    (h : m.Assigning now update found id s) : s.isUpdate = true ∧ s.isInsert = false := by
  obtain ⟨t, written, rfl⟩ := h.statement
  rw [Statement.isUpdate, Statement.isInsert, Query.keyword_update written]
  exact ⟨rfl, rfl⟩

/-! ## Counts of the stages -/

theorem counts_looked {s : Statement} {xs : Conversation} {found : Except Error (Option Record)}
    (h : m.Looked s xs found) (insert : s.isInsert = false) (update : s.isUpdate = false) :
    xs.inserts = 0 ∧ xs.updates = 0 := by
  cases h <;> simp [insert, update]

theorem counts_selectById {id : Value} {xs : Conversation} {found : Except Error (Option Record)}
    (h : m.Looked (m.selectById id) xs found) : xs.inserts = 0 ∧ xs.updates = 0 :=
  counts_looked h (by simp) (by simp)

theorem counts_created {completed : Record} {xs : Conversation} {result : Except Error Record}
    (h : m.Created completed xs result) : xs.inserts ≤ 1 ∧ xs.updates = 0 := by
  cases h with
  | invalid _ => simp
  | rejected inserts _ | unidentified inserts _ =>
    simp only [inserts_cons, inserts_nil, updates_cons, updates_nil, inserts.isUpdate]
    exact ⟨by split <;> omega, rfl⟩
  | unread inserts _ read | missing inserts _ read | created inserts _ read =>
    obtain ⟨none, silent⟩ := counts_selectById read
    simp only [inserts_cons, updates_cons, inserts.isUpdate, none, silent]
    exact ⟨by split <;> omega, rfl⟩

/-- Whether an operation reports an update. -/
def Updated (result : Except Error UpsertOutcome) : Prop :=
  ∃ o, result = .ok o ∧ o.updated = true

theorem not_updated_error (e : Error) : ¬ Updated (.error e) := by
  rintro ⟨o, h, -⟩
  cases h

/-- What holds of the conversation and the end of finding or creating. -/
structure Settled (most : Nat) (xs : Conversation) (result : Except Error UpsertOutcome) :
    Prop where
  /-- There are at most so many insertions. -/
  inserts : xs.inserts ≤ most
  /-- There is at most one update. -/
  updates : xs.updates ≤ 1
  /-- An update is reported exactly when it was accepted and its row was read back. -/
  updated : Updated result ↔ xs.Rewrites
  /-- Nothing is both created and updated. -/
  once : ∀ o, result = .ok o → o.updated = true → o.created = false

theorem settled_silent {xs : Conversation} {most : Nat} {result : Except Error UpsertOutcome}
    (inserts : xs.inserts ≤ most) (updates : xs.updates = 0)
    (other : ∀ o, result = .ok o → o.updated = false) : Settled most xs result where
  inserts := inserts
  updates := by omega
  updated := by
    refine iff_of_false ?_ (not_rewrites updates)
    rintro ⟨o, rfl, updated⟩
    rw [other o rfl] at updated
    cases updated
  once o ho updated := by
    rw [other o ho] at updated
    cases updated

/-- What was said before, without an update, changes nothing. -/
theorem Settled.append {xs ys : Conversation} {most : Nat} {result : Except Error UpsertOutcome}
    (updates : xs.updates = 0) (inserts : xs.inserts ≤ most) (h : Settled 0 ys result) :
    Settled most (xs ++ ys) result where
  inserts := by
    have none := h.inserts
    rw [inserts_append]
    omega
  updates := by
    have one := h.updates
    rw [updates_append]
    omega
  updated := h.updated.trans (rewrites_append updates ys).symm
  once := h.once

theorem settled_applied {now : Instant} {update found : Record} {xs : Conversation}
    {result : Except Error UpsertOutcome} (h : m.Applied now update found xs result) :
    Settled 0 xs result := by
  cases h with
  | keyless _ | kept _ _ | invalid _ _ _ => exact settled_silent (by simp) (by simp) (by simp)
  | rejected sets r =>
    obtain ⟨update, insert⟩ := sets.isUpdate
    refine ⟨by simp [insert], by simp [update], iff_of_false (not_updated_error _) ?_, by simp⟩
    rintro ⟨before, s, reply, again, reread, same, -⟩
    have length := congrArg List.length same
    simp at length
  | unread sets read =>
    obtain ⟨update, insert⟩ := sets.isUpdate
    obtain ⟨r, rfl, rfl⟩ := looked_error read
    refine ⟨by simp [insert], by simp [update], iff_of_false (not_updated_error _) ?_, by simp⟩
    rw [rewrites_pair update]
    rintro ⟨reread, same, -⟩
    cases same
  | vanished sets read =>
    obtain ⟨update, insert⟩ := sets.isUpdate
    obtain ⟨reply, rfl, none⟩ := looked_none read
    refine ⟨by simp [insert], by simp [update], iff_of_false (not_updated_error _) ?_, by simp⟩
    rw [rewrites_pair update]
    rintro ⟨reread, same, row⟩
    cases same
    exact row none
  | updated sets read =>
    obtain ⟨update, insert⟩ := sets.isUpdate
    obtain ⟨reply, rfl, row, -⟩ := looked_some read
    refine ⟨by simp [insert], by simp [update], iff_of_true ⟨_, rfl, rfl⟩ ?_, ?_⟩
    · exact (rewrites_pair update).2 ⟨reply, rfl, row⟩
    · rintro o ho -
      cases ho
      rfl

/-- **Finding or creating settles.** -/
theorem settled_sought {filter : Filter} {completed : Record}
    {Going : Record → Conversation → Except Error UpsertOutcome → Prop} {xs : Conversation}
    {result : Except Error UpsertOutcome}
    (going : ∀ row {ys result}, Going row ys result → Settled 0 ys result)
    (h : m.Sought (m.selectOne filter) (m.Created completed) Going xs result) :
    Settled 1 xs result := by
  have looks : ∀ {zs found}, m.Looked (m.selectOne filter) zs found →
      zs.inserts = 0 ∧ zs.updates = 0 := fun h => counts_looked h (by simp) (by simp)
  cases h with
  | unseen looked =>
    obtain ⟨none, silent⟩ := looks looked
    exact settled_silent (by omega) silent (by simp)
  | found looked goes =>
    obtain ⟨none, silent⟩ := looks looked
    exact (going _ goes).append silent (by omega)
  | created looked creates =>
    obtain ⟨none, silent⟩ := looks looked
    obtain ⟨one, calm⟩ := counts_created creates
    refine settled_silent (by rw [inserts_append]; omega) (by rw [updates_append]; omega) ?_
    rintro o ho
    cases ho
    rfl
  | failed looked creates _ =>
    obtain ⟨none, silent⟩ := looks looked
    obtain ⟨one, calm⟩ := counts_created creates
    exact settled_silent (by rw [inserts_append]; omega) (by rw [updates_append]; omega) (by simp)
  | unseenAgain looked creates _ again | stands looked creates _ again =>
    obtain ⟨none, silent⟩ := looks looked
    obtain ⟨one, calm⟩ := counts_created creates
    obtain ⟨none', silent'⟩ := looks again
    exact settled_silent (by rw [inserts_append, inserts_append]; omega)
      (by rw [updates_append, updates_append]; omega) (by simp)
  | lost looked creates _ again goes =>
    obtain ⟨none, silent⟩ := looks looked
    obtain ⟨one, calm⟩ := counts_created creates
    obtain ⟨none', silent'⟩ := looks again
    have later : Settled 0 _ result := (going _ goes).append silent' (by omega)
    rw [← List.append_assoc]
    exact later.append (by rw [updates_append]; omega) (by rw [inserts_append]; omega)

theorem settled_upserted {now : Instant} {draws : Draws} {request : UpsertRequest}
    {xs : Conversation} {result : Except Error UpsertOutcome}
    (h : m.Upserted now draws request xs result) : Settled 1 xs result := by
  unfold Upserted at h
  cases h with
  | refused _ => exact settled_silent (by simp) (by simp) (by simp)
  | sought _ h => exact settled_sought (fun _ _ _ => settled_applied) h

end Model

/-! ## Upserts -/

/-- **An upsert keeps to its path**, whatever the engine answers. Its conversation is that of a
lookup, a creation or an update, and a second lookup after a duplicate (`Model.Upserted`); at most
one insertion and one update are made. An update is reported exactly when it was accepted and its
row was read back, and never together with a creation. A rejected statement is the last one and its
failure is returned, unless it is a duplicate of the creation: then the row is looked for again, and
the failure is returned unchanged where there is none (`Model.Recovers`). -/
theorem upsert_keeps_path {σ : Type} {m : Model σ} (hm : m.hooks = {}) (request : UpsertRequest)
    (w : World σ) :
    ∃ xs result w', Call.Runs m.engine (m.upsert request) w xs result w' ∧
      m.Upserted w.now w.draws request xs result ∧
      Conversation.inserts xs ≤ 1 ∧ Conversation.updates xs ≤ 1 ∧
      ((∃ o, result = .ok o ∧ o.updated = true) ↔ Conversation.Rewrites xs) ∧
      (∀ o, result = .ok o → ¬ (o.created = true ∧ o.updated = true)) ∧
      m.Recovers (m.selectOne request.parts.1) xs result := by
  obtain ⟨xs, result, w', run, path⟩ := Model.follows_upsert hm request w
  have settled := Model.settled_upserted path
  refine ⟨xs, result, w', run, path, settled.inserts, settled.updates, settled.updated, ?_,
    Model.recovers_upserted path⟩
  rintro o ho ⟨created, updated⟩
  rw [settled.once o ho updated] at created
  cases created

/-- A table of guests, no two of one phone, whose engine answers from a script. -/
def guests : Model (Recorder Unit) where
  schema := ⟨"guests", [.id "id", { name := "phone", kind := .string, unique := true }], {}, 0⟩
  engine := Recorder.engine .silent

/-- A world in which a guest is taken away again after the insertion failed as a duplicate. -/
def guestsWorld : World (Recorder Unit) where
  engine :=
    { script := [.ok {}, .error ⟨"UNIQUE constraint failed: guests.phone"⟩, .ok {}], inner := () }
  now := default

/-- An upsert of a guest by the phone. -/
def welcome : UpsertRequest :=
  .byFields (.ofEntries [("phone", .text "a")]) ["phone"]

theorem guest_stands_refused :
    ∃ xs result w', Call.Runs guests.engine (guests.upsert welcome) guestsWorld xs result w' ∧
      Conversation.inserts xs = 1 ∧ guests.Recovers (guests.selectOne welcome.parts.1) xs result ∧
      ∃ f, result = .error (.query f) ∧ f.kind = .duplicateEntry := by
  obtain ⟨xs, result, w', run, -, -, -, -, -, recovers⟩ :=
    upsert_keeps_path (m := guests) rfl welcome guestsWorld
  have once : Conversation.inserts
      (guests.engine.exchanges ((guests.upsert welcome).issued guestsWorld) guestsWorld.engine)
        = 1 := by decide +kernel
  have refused : (match ((guests.upsert welcome).outcome guestsWorld).1 with
      | .error (.query f) => decide (f.kind = .duplicateEntry)
      | _ => false) = true := by decide +kernel
  rw [run.issued] at once
  rw [run.outcome] at refused
  refine ⟨xs, result, w', run, once, recovers, ?_⟩
  cases result with
  | ok o => cases refused
  | error e =>
    cases e with
    | query f => exact ⟨f, rfl, of_decide_eq_true refused⟩
    | _ => cases refused

end RecordMapper
