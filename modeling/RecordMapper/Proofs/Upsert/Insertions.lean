import RecordMapper.Proofs.Upsert.Outcomes
import RecordMapper.Proofs.Upsert.Passes

/-!
# Insertions of an upsert

What finding or creating a record makes of a row that it has inserted itself.

* `Conversation.InsertsRow`: an insertion was accepted, and what was asked next was not rejected
  with words that tell of a duplicate (`Rejection.TellsDuplicate`).
* `Model.not_insertsRow_lost`: a creation that fails as a duplicate inserted nothing, unless its row
  could not be read back, for a reason that tells of a duplicate.
* `insertion_is_acknowledged`: a row that was inserted is reported as created, if there is a result,
  and no row is updated.
* `rereading_taken_for_duplicate`: the words of the reason matter.
-/

namespace RecordMapper

/-! ## Accepted insertions -/

/-- The message is taken for one about a duplicate entry: it says `unique` or `duplicate`, letter
case aside. -/
def Rejection.TellsDuplicate (r : Rejection) : Prop :=
  "unique".toList <:+: Text.lowered r.message ∨ "duplicate".toList <:+: Text.lowered r.message

instance (r : Rejection) : Decidable r.TellsDuplicate :=
  decidable_of_iff
    (Text.contains "unique" (Text.lowered r.message) = true ∨
      Text.contains "duplicate" (Text.lowered r.message) = true)
    (by rw [Text.contains_iff, Text.contains_iff, Rejection.TellsDuplicate])

namespace Conversation

/-- What was asked first is answered, or rejected with other words than those of a duplicate. -/
def Unmistaken (xs : Conversation) : Prop :=
  ∀ s r, xs.head? = some (s, .error r) → ¬ r.TellsDuplicate

/-- An insertion was accepted, and what was asked next was not rejected as a duplicate. -/
def InsertsRow (xs : Conversation) : Prop :=
  ∃ before x after, xs = before ++ x :: after ∧ accepted x = true ∧ Unmistaken after

theorem insertsRow_cons {x : Statement × Answer} {xs : Conversation} :
    InsertsRow (x :: xs) ↔ accepted x = true ∧ Unmistaken xs ∨ InsertsRow xs := by
  constructor
  · rintro ⟨before, y, after, same, accepted, unmistaken⟩
    cases before with
    | nil =>
      obtain ⟨rfl, rfl⟩ := List.cons.inj same
      exact .inl ⟨accepted, unmistaken⟩
    | cons z before =>
      obtain ⟨rfl, rfl⟩ := List.cons.inj same
      exact .inr ⟨before, y, after, rfl, accepted, unmistaken⟩
  · rintro (⟨accepted, unmistaken⟩ | ⟨before, y, after, rfl, accepted, unmistaken⟩)
    · exact ⟨[], x, xs, rfl, accepted, unmistaken⟩
    · exact ⟨x :: before, y, after, rfl, accepted, unmistaken⟩

instance (xs : Conversation) : Decidable xs.Unmistaken :=
  match xs with
  | [] | (_, .ok _) :: _ => isTrue fun _ _ h => by cases h
  | (s, .error r) :: rest =>
    decidable_of_iff (¬ r.TellsDuplicate)
      ⟨fun other _ _ h => by cases h; exact other, fun h => h s r rfl⟩

instance decidableInsertsRow : (xs : Conversation) → Decidable xs.InsertsRow
  | [] => isFalse fun ⟨_, _, _, h, _⟩ => by simp at h
  | _ :: xs =>
    have := decidableInsertsRow xs
    decidable_of_iff' _ insertsRow_cons

/-- Where nothing is inserted, nothing is accepted. -/
theorem not_insertsRow {xs : Conversation} (h : xs.inserts = 0) : ¬ InsertsRow xs := by
  rintro ⟨before, ⟨s, answer⟩, after, rfl, accepted, -⟩
  have insert : s.isInsert = true := (Bool.and_eq_true_iff.1 accepted).1
  simp [insert] at h

/-- What was said before, without an insertion, does not matter. -/
theorem insertsRow_of_append {xs ys : Conversation} (h : xs.inserts = 0)
    (inserted : InsertsRow (xs ++ ys)) : InsertsRow ys := by
  induction xs with
  | nil => exact inserted
  | cons x xs ih =>
    obtain ⟨s, answer⟩ := x
    rw [inserts_cons, Nat.add_eq_zero_iff] at h
    rcases insertsRow_cons.1 inserted with ⟨accepted, -⟩ | later
    · have insert : s.isInsert = true := (Bool.and_eq_true_iff.1 accepted).1
      simp [insert] at h
    · exact ih h.1 later

end Conversation

namespace Model

variable {σ : Type} {m : Model σ}

open Conversation

theorem isDuplicateEntry_failure_iff (m : Model σ) (s : Statement) (r : Rejection) :
    (m.failure s r).isDuplicateEntry = true ↔ r.TellsDuplicate := by
  rw [Rejection.TellsDuplicate,
    ← classify_eq_duplicate (some m.schema) m.settings.excerptLength.toNat r.message s.sql]
  simp [failure, Error.isDuplicateEntry, Error.kind?]

/-- **A creation that fails as a duplicate** has not inserted anything, unless its row could not be
read back, and the words of that rejection tell of a duplicate. -/
theorem not_insertsRow_lost {completed : Record} {ys rest : Conversation} {e : Error}
    (creates : m.Created completed ys (.error e)) (duplicate : e.isDuplicateEntry = true)
    (none : rest.inserts = 0) : ¬ InsertsRow (ys ++ rest) := by
  have refused : ∀ s r, ¬ InsertsRow ((s, .error r) :: rest) := by
    intro s r inserted
    rcases insertsRow_cons.1 inserted with ⟨accepted, -⟩ | later
    · cases (Bool.and_eq_true_iff.1 accepted).2
    · exact not_insertsRow none later
  cases creates with
  | invalid _ => exact not_insertsRow none
  | rejected _ r => exact refused _ r
  | unidentified _ unknown =>
    rw [insertedKey_error unknown] at duplicate
    cases duplicate
  | unread _ _ read =>
    obtain ⟨r, rfl, rfl⟩ := looked_error read
    intro inserted
    rcases insertsRow_cons.1 inserted with ⟨-, unmistaken⟩ | later
    · exact unmistaken _ r rfl ((isDuplicateEntry_failure_iff m _ r).1 duplicate)
    · exact refused _ r later
  | missing _ _ _ => cases duplicate

/-- A row that was inserted is reported as created, if there is a result, and no row is updated. -/
def Acknowledged (xs : Conversation) (result : Except Error UpsertOutcome) : Prop :=
  InsertsRow xs → xs.updates = 0 ∧ ∀ o, result = .ok o → o.created = true

/-- **Finding or creating** acknowledges its insertion. -/
theorem acknowledged_sought {filter : Filter} {completed : Record}
    {Going : Record → Conversation → Except Error UpsertOutcome → Prop} {xs : Conversation}
    {result : Except Error UpsertOutcome}
    (going : ∀ row {ys result}, Going row ys result → Conversation.inserts ys = 0)
    (h : m.Sought (m.selectOne filter) (m.Created completed) Going xs result) :
    Acknowledged xs result := by
  have looks : ∀ {zs found}, m.Looked (m.selectOne filter) zs found →
      zs.inserts = 0 ∧ zs.updates = 0 := fun h => counts_looked h (by simp) (by simp)
  intro inserted
  cases h with
  | unseen looked => exact absurd inserted (not_insertsRow (looks looked).1)
  | found looked goes =>
    exact absurd (insertsRow_of_append (looks looked).1 inserted) (not_insertsRow (going _ goes))
  | created looked creates =>
    refine ⟨by rw [updates_append, (looks looked).2, (counts_created creates).2], ?_⟩
    rintro o ho
    cases ho
    rfl
  | failed looked creates _ =>
    exact ⟨by rw [updates_append, (looks looked).2, (counts_created creates).2], by simp⟩
  | unseenAgain looked creates _ again | stands looked creates _ again =>
    refine ⟨?_, by simp⟩
    rw [updates_append, updates_append, (looks looked).2, (counts_created creates).2,
      (looks again).2]
  | lost looked creates duplicate again goes =>
    -- The row that is found is that of another client.
    refine absurd (insertsRow_of_append (looks looked).1 inserted) ?_
    refine not_insertsRow_lost creates duplicate ?_
    rw [inserts_append, (looks again).1, going _ goes]

theorem Matched.acknowledged {operation : String} {filter : Filter}
    {R : Conversation → Except Error UpsertOutcome → Prop} {xs : Conversation}
    {result : Except Error UpsertOutcome} (h : m.Matched operation filter R xs result)
    (sought : R xs result → Acknowledged xs result) : Acknowledged xs result := by
  cases h with
  | refused _ => exact fun inserted => absurd inserted (not_insertsRow inserts_nil)
  | sought _ h => exact sought h

end Model

/-- **An insertion is acknowledged.** Where an insertion was accepted, and the reading of its row
was not rejected with words that tell of a duplicate, an upsert updates no row, and either it
reports that it created the row or it ends with an error; and so does creating a record if there is
none. -/
theorem insertion_is_acknowledged {σ : Type} {m : Model σ} (hm : m.hooks = {}) (w : World σ) :
    (∀ request, m.Follows (m.upsert request) w fun xs result =>
      Conversation.InsertsRow xs →
        Conversation.updates xs = 0 ∧ ∀ o, result = .ok o → o.created = true) ∧
    (∀ filter data, m.Follows (m.createIfNotExists filter data) w fun xs result =>
      Conversation.InsertsRow xs →
        Conversation.updates xs = 0 ∧ ∀ o, result = .ok o → o.created = true) := by
  refine ⟨fun request => (Model.follows_upsert hm request w).mono fun xs result path => ?_,
    fun filter data => (Model.follows_createIfNotExists hm filter data w).mono
      fun xs result path => ?_⟩
  · refine Model.Matched.acknowledged path (Model.acknowledged_sought fun _ _ _ applied => ?_)
    exact Nat.le_zero.1 (Model.settled_applied applied).inserts
  · refine path.acknowledged (Model.acknowledged_sought fun _ _ _ goes => ?_)
    cases goes
    rfl

/-- A world in which the table of guests is looked at, and then answers as a script says. -/
def guestsAnswering (script : List Answer) : World (Recorder Unit) where
  engine := { script := .ok {} :: script, inner := () }
  now := default

/-- The insertion of a guest is accepted. -/
def guestInserted : Answer :=
  .ok { info := { changes := 1, lastInsertId := some 1 } }

/-- The guest is found. -/
def guestFound : Answer :=
  .ok { rows := [.ofEntries [("id", .int 1), ("phone", .text "a")]] }

/-- A world in which the guest is inserted, and the engine is down for a moment then. -/
def guestUnread : World (Recorder Unit) :=
  guestsAnswering [guestInserted, .error ⟨"HTTP 503"⟩, guestFound]

theorem guests_are_acknowledged :
    (∃ xs result w', Call.Runs guests.engine (guests.upsert welcome) guestUnread xs result w' ∧
      Conversation.InsertsRow xs ∧ Conversation.updates xs = 0 ∧
        ∃ f, result = .error (.query f) ∧ f.kind = .serverError) ∧
    (∃ xs result w', Call.Runs guests.engine
        (guests.createIfNotExists welcome.parts.1 welcome.parts.2.1)
        (guestsAnswering [guestInserted, guestFound]) xs result w' ∧
      Conversation.InsertsRow xs ∧ Conversation.updates xs = 0 ∧
        ∃ o, result = .ok o ∧ o.created = true) := by
  constructor
  · obtain ⟨xs, result, w', run, acknowledged⟩ :=
      (insertion_is_acknowledged (m := guests) rfl guestUnread).1 welcome
    have inserted : Conversation.InsertsRow xs := by
      rw [← run.issued]
      decide +kernel
    have refused : (match ((guests.upsert welcome).outcome guestUnread).1 with
        | .error (.query f) => decide (f.kind = .serverError)
        | _ => false) = true := by decide +kernel
    rw [run.outcome] at refused
    refine ⟨xs, result, w', run, inserted, (acknowledged inserted).1, ?_⟩
    match result with
    | .error (.query f) => exact ⟨f, rfl, of_decide_eq_true refused⟩
  · obtain ⟨xs, result, w', run, acknowledged⟩ := (insertion_is_acknowledged (m := guests) rfl
      (guestsAnswering [guestInserted, guestFound])).2 welcome.parts.1 welcome.parts.2.1
    have inserted : Conversation.InsertsRow xs := by
      rw [← run.issued]
      decide +kernel
    have ends : ((guests.createIfNotExists welcome.parts.1 welcome.parts.2.1).outcome
        (guestsAnswering [guestInserted, guestFound])).1.isOk = true := by decide +kernel
    rw [run.outcome] at ends
    obtain ⟨silent, created⟩ := acknowledged inserted
    cases result with
    | error e => cases ends
    | ok o => exact ⟨xs, _, w', run, inserted, silent, o, rfl, created o rfl⟩

/-- A world in which the guest is inserted, and a service in between refuses the next request as it
has seen it before. -/
def guestMistaken : World (Recorder Unit) :=
  guestsAnswering [guestInserted, .error ⟨"HTTP 429: duplicate request"⟩, guestFound,
    .ok { info := { changes := 1 } }, guestFound]

/-- A row that was inserted is taken for that of another client, and updated, where it cannot be
read back for a reason that tells of a duplicate. -/
theorem rereading_taken_for_duplicate :
    ∃ xs o w', Call.Runs guests.engine (guests.upsert welcome) guestMistaken xs (.ok o) w' ∧
      xs.any accepted = true ∧ Conversation.updates xs = 1 ∧ o.created = false ∧
        o.updated = true := by
  obtain ⟨xs, result, w', run, -⟩ :=
    Model.follows_upsert (m := guests) rfl welcome guestMistaken
  have inserted : xs.any accepted = true ∧ Conversation.updates xs = 1 := by
    rw [← run.issued]
    decide +kernel
  have ends : (match ((guests.upsert welcome).outcome guestMistaken).1 with
      | .ok o => decide (o.created = false ∧ o.updated = true)
      | .error _ => false) = true := by decide +kernel
  rw [run.outcome] at ends
  cases result with
  | error e => cases ends
  | ok o => exact ⟨xs, o, w', run, inserted.1, inserted.2, of_decide_eq_true ends⟩

end RecordMapper
