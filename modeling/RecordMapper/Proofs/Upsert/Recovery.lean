import RecordMapper.Proofs.Model.Checks
import RecordMapper.Proofs.Model.Straight
import RecordMapper.Proofs.Upsert.Path

/-!
# Recovery from rejected statements

What finding or creating a record makes of the rejection of a statement.

* `Model.Recovers`: a duplicate of the creation leads to a second lookup, and every other rejection
  ends the call.
* `Model.recovers_sought` shows it of every operation that finds or creates, and
  `Model.recovers_upserted` of an upsert.
-/

namespace RecordMapper

/-! ## Rejections -/

/-- The row was looked for and is not there, and nothing was rejected since. -/
def Conversation.Creating (xs : Conversation) : Prop :=
  ∃ lookup reply rest, xs = (lookup, .ok reply) :: rest ∧ reply.rows = [] ∧
    Conversation.Accepted rest

namespace Model

variable {σ α β : Type} {m : Model σ}

/-- What becomes of a rejected statement. A duplicate of the creation makes the operation look for
the row again: a rejection of this lookup ends the call, and so does a reply without a row, after
which the duplicate's failure is returned; with a row, a failure of a statement can only be that of
a later one. Every other rejection ends the call at once. -/
def Recovers (m : Model σ) (lookup : Statement) (xs : Conversation) (result : Except Error α) :
    Prop :=
  ∀ (before : Conversation) s r after, xs = before ++ (s, .error r) :: after →
    (before.Creating ∧ (m.failure s r).isDuplicateEntry = true →
      (∃ r', after = [(lookup, .error r')] ∧ result = .error (m.failure lookup r')) ∨
      (∃ reply, after = [(lookup, .ok reply)] ∧ reply.rows = [] ∧
        result = .error (m.failure s r)) ∨
      (∃ reply, ∃ rest : Conversation, after = (lookup, .ok reply) :: rest ∧ reply.rows ≠ [] ∧
        m.Reports rest result ∧ (rest.Accepted → ∀ f, result ≠ .error (.query f)))) ∧
    (¬ (before.Creating ∧ (m.failure s r).isDuplicateEntry = true) →
      after = [] ∧ result = .error (m.failure s r))

/-! ## Stages -/

theorem looked_error {s : Statement} {xs : Conversation} {e : Error}
    (h : m.Looked s xs (.error e)) : ∃ r, xs = [(s, .error r)] ∧ e = m.failure s r := by
  cases h with
  | rejected r => exact ⟨r, rfl, rfl⟩

theorem looked_none {s : Statement} {xs : Conversation} (h : m.Looked s xs (.ok none)) :
    ∃ reply, xs = [(s, .ok reply)] ∧ reply.rows = [] := by
  generalize found : (Except.ok none : Except Error (Option Record)) = result at h
  cases h with
  | rejected r => cases found
  | answered reply =>
    refine ⟨reply, rfl, ?_⟩
    simpa using (Except.ok.inj found).symm

theorem looked_some {s : Statement} {xs : Conversation} {row : Record}
    (h : m.Looked s xs (.ok (some row))) :
    ∃ reply, xs = [(s, .ok reply)] ∧ reply.rows ≠ [] ∧
      reply.rows.head?.map m.schema.hydrate = some row := by
  generalize found : (Except.ok (some row) : Except Error (Option Record)) = result at h
  cases h with
  | rejected r => cases found
  | answered reply =>
    have head := (Except.ok.inj found).symm
    refine ⟨reply, rfl, ?_, head⟩
    intro none
    rw [none] at head
    cases head

theorem reports_looked {s : Statement} {xs : Conversation} {found : Except Error (Option Record)}
    (h : m.Looked s xs found) : m.Reports xs found := by
  cases h with
  | rejected r => exact reports_rejected s r
  | answered reply => exact reports_accepted s reply _

/-- A statement that is answered, and a lookup that may be rejected. -/
theorem reports_read {α : Type} {s again : Statement} {reply : Reply} {ys : Conversation}
    {found : Except Error (Option Record)} {result : Except Error α} (h : m.Looked again ys found)
    (same : ∀ e, found = .error e → result = .error e) :
    m.Reports ((s, .ok reply) :: ys) result :=
  ((reports_looked h).map same).append (Conversation.accepted_reply s reply)

theorem reports_created {completed : Record} {xs : Conversation} {result : Except Error Record}
    (h : m.Created completed xs result) : m.Reports xs result := by
  cases h with
  | invalid _ => exact reports_nil _
  | rejected _ r => exact reports_rejected _ r
  | unidentified _ _ => exact reports_accepted _ _ _
  | unread _ _ read => exact reports_read read fun _ h => by cases h; rfl
  | missing _ _ read => exact reports_read read fun _ h => by cases h
  | created _ _ read => exact reports_read read fun _ h => by cases h

theorem reports_applied {now : Instant} {update found : Record} {xs : Conversation}
    {result : Except Error UpsertOutcome} (h : m.Applied now update found xs result) :
    m.Reports xs result := by
  cases h with
  | keyless _ | kept _ _ | invalid _ _ _ => exact reports_nil _
  | rejected _ r => exact reports_rejected _ r
  | unread _ read => exact reports_read read fun _ h => by cases h; rfl
  | vanished _ read => exact reports_read read fun _ h => by cases h
  | updated _ read => exact reports_read read fun _ h => by cases h

/-- A creation that fails as a duplicate was rejected by the engine, with its last statement. -/
theorem created_duplicate {completed : Record} {xs : Conversation} {e : Error}
    (h : m.Created completed xs (.error e)) (duplicate : e.isDuplicateEntry = true) :
    ∃ before : Conversation, ∃ s r, xs = before ++ [(s, .error r)] ∧ before.Accepted ∧
      e = m.failure s r := by
  have silent : Conversation.Accepted [] := fun s r h => by cases h
  have kinds : e.kind? = some .duplicateEntry := by simpa [Error.isDuplicateEntry] using duplicate
  cases h with
  | invalid invalid =>
    obtain ⟨violations, rfl⟩ := validate_error invalid
    cases kinds
  | rejected _ r => exact ⟨[], _, r, rfl, silent, rfl⟩
  | unidentified _ unknown =>
    obtain rfl := insertedKey_error unknown
    cases kinds
  | @unread s _ reply _ _ _ _ read =>
    obtain ⟨r, rfl, rfl⟩ := looked_error read
    exact ⟨[(s, .ok reply)], _, r, rfl, Conversation.accepted_reply s reply, rfl⟩
  | missing _ _ _ => exact absurd kinds (by simp [Error.kind?])

/-- An update fails with the failure of a statement only where that was rejected. -/
theorem applied_query {now : Instant} {update found : Record} {xs : Conversation}
    {f : QueryFailure} (h : m.Applied now update found xs (.error (.query f))) :
    ¬ xs.Accepted := by
  intro accepted
  cases h with
  | invalid _ _ invalid =>
    obtain ⟨violations, same⟩ := validate_error invalid
    cases same
  | rejected _ r => exact accepted _ r List.mem_cons_self
  | unread _ read =>
    obtain ⟨r, rfl, -⟩ := looked_error read
    exact accepted _ r (List.mem_cons_of_mem _ List.mem_cons_self)

/-! ## Recovery -/

/-- Where every rejection is reported, and none is a duplicate of a creation, there is nothing to
recover from. -/
theorem Recovers.of_reports {lookup : Statement} {xs : Conversation} {result : Except Error α}
    (h : m.Reports xs result)
    (none : ∀ (before : Conversation) s r after, xs = before ++ (s, .error r) :: after →
      ¬ (before.Creating ∧ (m.failure s r).isDuplicateEntry = true)) :
    m.Recovers lookup xs result :=
  fun before s r after hx =>
    ⟨fun creating => absurd creating (none before s r after hx), fun _ => h before s r after hx⟩

/-- A conversation that begins with a reply that has a row creates nothing. -/
theorem not_creating_of_found {lookup : Statement} {reply : Reply} {ys : Conversation}
    (h : reply.rows ≠ []) {before : Conversation} {s : Statement} {r : Rejection}
    {after : Conversation} (hx : (lookup, .ok reply) :: ys = before ++ (s, .error r) :: after) :
    ¬ before.Creating := by
  rintro ⟨lookup', reply', rest, rfl, empty, -⟩
  obtain ⟨same, -⟩ := List.cons.inj hx
  cases same
  exact h empty

/-- **A creation that fails as a duplicate**: after its rejected statement the row is looked for
again. -/
theorem Recovers.of_duplicate {lookup s₀ : Statement} {reply₀ : Reply} {r₀ : Rejection}
    {init tail : Conversation} {result : Except Error α} (empty : reply₀.rows = [])
    (accepted : init.Accepted) (duplicate : (m.failure s₀ r₀).isDuplicateEntry = true)
    (again : (∃ r', tail = [(lookup, .error r')] ∧ result = .error (m.failure lookup r')) ∨
      (∃ reply, tail = [(lookup, .ok reply)] ∧ reply.rows = [] ∧
        result = .error (m.failure s₀ r₀)) ∨
      (∃ reply, ∃ rest : Conversation, tail = (lookup, .ok reply) :: rest ∧ reply.rows ≠ [] ∧
        m.Reports rest result ∧ (rest.Accepted → ∀ f, result ≠ .error (.query f))))
    (reports : m.Reports tail result) :
    m.Recovers lookup ((lookup, .ok reply₀) :: init ++ (s₀, .error r₀) :: tail) result := by
  intro before s r after hx
  rcases List.append_eq_append_iff.1 hx with ⟨more, rfl, rest⟩ | ⟨more, start, rest⟩
  · cases more with
    | nil =>
      obtain ⟨same, rfl⟩ := List.cons.inj rest
      cases same
      rw [List.append_nil]
      exact ⟨fun _ => again,
        fun other => absurd ⟨⟨lookup, reply₀, init, rfl, empty, accepted⟩, duplicate⟩ other⟩
    | cons x more =>
      -- The rejection comes after the one that the operation recovers from.
      obtain ⟨rfl, rfl⟩ := List.cons.inj rest
      refine ⟨?_, fun _ => reports more s r after rfl⟩
      rintro ⟨⟨lookup', reply', rest', start, -, accepted'⟩, -⟩
      obtain ⟨-, rfl⟩ := List.cons.inj start
      exact absurd (by simp) (accepted' s₀ r₀)
  · cases more with
    | nil =>
      obtain ⟨same, rfl⟩ := List.cons.inj rest
      cases same
      rw [List.append_nil] at start
      subst start
      exact ⟨fun _ => again,
        fun other => absurd ⟨⟨lookup, reply₀, init, rfl, empty, accepted⟩, duplicate⟩ other⟩
    | cons x more =>
      -- The rejection would be among the replies before the creation failed.
      obtain ⟨rfl, -⟩ := List.cons.inj rest
      have member : (s, Except.error r) ∈ (lookup, Except.ok reply₀) :: init := by
        rw [start]
        simp
      rcases List.mem_cons.1 member with same | rejected
      · cases same
      · exact absurd rejected (accepted s r)

/-- **Finding or creating** recovers from a duplicate of the creation, and from no other
rejection. -/
theorem recovers_sought {lookup : Statement} {completed : Record}
    {Going : Record → Conversation → Except Error UpsertOutcome → Prop} {xs : Conversation}
    {result : Except Error UpsertOutcome}
    (reports : ∀ row {ys result}, Going row ys result → m.Reports ys result)
    (honest : ∀ row {ys f}, Going row ys (.error (.query f)) → ¬ Conversation.Accepted ys)
    (h : m.Sought lookup (m.Created completed) Going xs result) : m.Recovers lookup xs result := by
  have replied := Conversation.accepted_reply lookup
  cases h with
  | unseen looked =>
    refine .of_reports ((reports_looked looked).map fun _ h => by cases h; rfl) ?_
    obtain ⟨r, rfl, -⟩ := looked_error looked
    rintro before s r' after hx ⟨⟨lookup', reply', rest, rfl, -⟩, -⟩
    cases (List.cons.inj hx).1
  | found looked goes =>
    obtain ⟨reply, rfl, row, -⟩ := looked_some looked
    exact .of_reports ((reports _ goes).append (replied reply))
      fun before s r after hx creating => not_creating_of_found row hx creating.1
  | created looked creates =>
    obtain ⟨reply, rfl, -⟩ := looked_none looked
    have silent := (replied reply).append (reports_created creates).accepted
    refine .of_reports (reports_of_accepted silent _) fun before s r after hx => ?_
    exact absurd (by rw [hx]; simp) (silent s r)
  | @failed _ ys e looked creates other =>
    obtain ⟨reply, rfl, -⟩ := looked_none looked
    have reported : m.Reports ([(lookup, .ok reply)] ++ ys) (.error e : Except _ UpsertOutcome) :=
      ((reports_created creates).map fun _ h => by cases h; rfl).append (replied reply)
    refine .of_reports reported fun before s r after hx ⟨_, duplicate⟩ => ?_
    obtain ⟨-, same⟩ := reported before s r after hx
    rw [Except.error.inj same, duplicate] at other
    cases other
  | unseenAgain looked creates duplicate again =>
    obtain ⟨reply, rfl, empty⟩ := looked_none looked
    obtain ⟨init, s, r, rfl, accepted, rfl⟩ := created_duplicate creates duplicate
    obtain ⟨r', rfl, rfl⟩ := looked_error again
    simpa using Recovers.of_duplicate empty accepted duplicate (.inl ⟨r', rfl, rfl⟩)
      (reports_rejected lookup r')
  | stands looked creates duplicate again =>
    obtain ⟨reply, rfl, empty⟩ := looked_none looked
    obtain ⟨init, s, r, rfl, accepted, rfl⟩ := created_duplicate creates duplicate
    obtain ⟨reply', rfl, gone⟩ := looked_none again
    simpa using Recovers.of_duplicate empty accepted duplicate
      (.inr (.inl ⟨reply', rfl, gone, rfl⟩)) (reports_accepted _ _ _)
  | @lost _ _ _ us _ row result looked creates duplicate again goes =>
    obtain ⟨reply, rfl, empty⟩ := looked_none looked
    obtain ⟨init, s, r, rfl, accepted, rfl⟩ := created_duplicate creates duplicate
    obtain ⟨reply', rfl, there, -⟩ := looked_some again
    have queries : us.Accepted → ∀ f, result ≠ .error (.query f) := by
      rintro silent f rfl
      exact honest row goes silent
    simpa using Recovers.of_duplicate empty accepted duplicate
      (.inr (.inr ⟨reply', us, rfl, there, reports row goes, queries⟩))
      ((reports row goes).append (replied reply'))

/-- How a call ends matters only where it fails. -/
theorem Recovers.map {lookup : Statement} {xs : Conversation} {result : Except Error α}
    {result' : Except Error β} (h : m.Recovers lookup xs result)
    (same : ∀ e, result = .error e ↔ result' = .error e) : m.Recovers lookup xs result' := by
  intro before s r after hx
  obtain ⟨duplicate, other⟩ := h before s r after hx
  refine ⟨fun creating => ?_, fun rest => ⟨(other rest).1, (same _).1 (other rest).2⟩⟩
  rcases duplicate creating with ⟨r', last, failed⟩ | ⟨reply, last, gone, failed⟩ |
    ⟨reply, rest, later, there, reports, queries⟩
  · exact .inl ⟨r', last, (same _).1 failed⟩
  · exact .inr (.inl ⟨reply, last, gone, (same _).1 failed⟩)
  · exact .inr (.inr ⟨reply, rest, later, there, reports.map fun e => (same e).1,
      fun silent f failed => queries silent f ((same _).2 failed)⟩)

theorem Recovers.matched {operation : String} {filter : Filter} {lookup : Statement}
    {R : Conversation → Except Error UpsertOutcome → Prop} {xs : Conversation}
    {result : Except Error UpsertOutcome} (h : m.Matched operation filter R xs result)
    (sought : R xs result → m.Recovers lookup xs result) : m.Recovers lookup xs result := by
  cases h with
  | refused _ =>
    refine .of_reports (reports_nil _) fun before s r after hx => ?_
    cases before <;> cases hx
  | sought _ h => exact sought h

/-- **An upsert recovers** from a duplicate of its creation, and from no other rejection. -/
theorem recovers_upserted {now : Instant} {draws : Draws} {request : UpsertRequest}
    {xs : Conversation} {result : Except Error UpsertOutcome}
    (h : m.Upserted now draws request xs result) :
    m.Recovers (m.selectOne request.parts.1) xs result :=
  .matched h (recovers_sought (fun _ _ _ => reports_applied) fun _ _ _ => applied_query)

end Model

end RecordMapper
