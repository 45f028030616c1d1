import RecordMapper.Proofs.Model.Runs

/-!
# Conversations

What a call and the engine say to each other, for every answer of the engine.

* `Conversation` are statements with their answers, in order.
* `Model.Follows m c w R`: from the world `w` the call `c` runs through a conversation, and ends
  with a result, that are as `R` says.
* `Model.Follows.bind`, `Model.Follows.execute_bind` and their kind lead from the first stage of a
  call to the rest of it; what is left to show is about the rest of the conversation.
-/

namespace RecordMapper

/-- What is said to an engine and what it answers, in order. -/
abbrev Conversation : Type := List (Statement × Answer)

namespace Model

variable {σ α β : Type} {m : Model σ} {w : World σ}

open Call

/-- The conversation of a call, and how the call ends, are as `R` says. -/
def Follows (m : Model σ) (c : Call σ α) (w : World σ)
    (R : Conversation → Except Error α → Prop) : Prop :=
  ∃ xs result w', Runs m.engine c w xs result w' ∧ R xs result

namespace Follows

variable {c : Call σ α} {f : α → Call σ β} {R : Conversation → Except Error α → Prop}
  {S : Conversation → Except Error β → Prop}

theorem mono {R' : Conversation → Except Error α → Prop} (h : m.Follows c w R)
    (imp : ∀ xs result, R xs result → R' xs result) : m.Follows c w R' := by
  obtain ⟨xs, result, w', run, holds⟩ := h
  exact ⟨xs, result, w', run, imp xs result holds⟩

/-- There is one run of a call in a world. -/
theorem of_runs (h : m.Follows c w R) {xs : Conversation} {result : Except Error α} {w' : World σ}
    (run : Runs m.engine c w xs result w') : R xs result := by
  obtain ⟨ys, ends, _, other, holds⟩ := h
  have same : ends = result := congrArg Prod.fst (other.outcome.symm.trans run.outcome)
  rw [← run.issued, other.issued, ← same]
  exact holds

/-- A call that says nothing. -/
theorem quiet (draws : Draws) {result : Except Error α}
    (ends : c.outcome w = (result, { w with draws })) (h : R [] result) : m.Follows c w R :=
  ⟨[], result, _, .quiet draws ends, h⟩

theorem pure {a : α} (h : R [] (.ok a)) : m.Follows (Pure.pure a) w R :=
  quiet w.draws rfl h

theorem throw {e : Error} (h : R [] (.error e)) : m.Follows (MonadExcept.throw e) w R :=
  quiet w.draws rfl h

theorem lift {result : Except Error α} (h : R [] result) : m.Follows (Call.lift result) w R :=
  quiet w.draws (outcome_lift result w) h

/-- **A conversation goes on** where that of the first stage ended; the clock stands still. -/
theorem bind (hc : m.Follows c w R) (error : ∀ xs e, R xs (.error e) → S xs (.error e))
    (ok : ∀ xs a w', R xs (.ok a) → w'.now = w.now →
      m.Follows (f a) w' fun ys result => S (xs ++ ys) result) : m.Follows (c >>= f) w S := by
  obtain ⟨xs, result, w', run, holds⟩ := hc
  cases result with
  | error e => exact ⟨xs, _, w', run.bind_error f, error xs e holds⟩
  | ok a =>
    obtain ⟨ys, result, w'', next, rest⟩ := ok xs a w' holds run.now
    exact ⟨xs ++ ys, result, w'', run.bind next, rest⟩

/-- A first stage that says nothing. -/
theorem quiet_bind (draws : Draws) {a : α} (ends : c.outcome w = (.ok a, { w with draws }))
    (h : m.Follows (f a) { w with draws } S) : m.Follows (c >>= f) w S := by
  obtain ⟨ys, result, w', next, rest⟩ := h
  exact ⟨ys, result, w', (Runs.quiet draws ends).bind next, rest⟩

theorem now_bind {f : Instant → Call σ β} (h : m.Follows (f w.now) w S) :
    m.Follows (now >>= f) w S :=
  quiet_bind w.draws (outcome_now w) h

/-- A first stage that is computed without the engine. -/
theorem lift_bind {result : Except Error α} (error : ∀ e, result = .error e → S [] (.error e))
    (ok : ∀ a, result = .ok a → m.Follows (f a) w S) :
    m.Follows (Call.lift result >>= f) w S := by
  cases result with
  | error e => exact quiet w.draws rfl (error e rfl)
  | ok a => exact quiet_bind w.draws rfl (ok a rfl)

/-- Completing a record draws values. -/
theorem prepareInsert_bind {data : Record} {f : Record → Call σ β}
    (h : m.Follows (f (m.schema.complete w.now data w.draws).1)
      { w with draws := (m.schema.complete w.now data w.draws).2 } S) :
    m.Follows (m.prepareInsert data >>= f) w S :=
  quiet_bind _ rfl h

/-- **A statement is put to the engine** and rejected, or answered; then it draws no values. -/
theorem execute_bind {s : Statement} {f : Reply → Call σ β}
    (rejected : ∀ r, S [(s.wire, .error r)] (.error (m.failure s.wire r)))
    (accepted : ∀ reply w', w'.now = w.now → w'.draws = w.draws →
      m.Follows (f reply) w' fun ys result => S ((s.wire, .ok reply) :: ys) result) :
    m.Follows (m.execute s >>= f) w S := by
  rcases answer : m.engine s.wire w.engine with ⟨r | reply, state⟩
  · exact ⟨_, _, _, (runs_execute_rejected answer).bind_error f, rejected r⟩
  · obtain ⟨ys, result, w', next, rest⟩ := accepted reply (answered w s.wire state) rfl rfl
    exact ⟨_, result, w', (runs_execute answer).bind next, rest⟩

/-- A stage whose failure is caught. -/
theorem attempt_bind {f : Except Error α → Call σ β} (hc : m.Follows c w R)
    (h : ∀ xs result w', R xs result → w'.now = w.now →
      m.Follows (f result) w' fun ys ends => S (xs ++ ys) ends) :
    m.Follows (Call.attempt c >>= f) w S := by
  obtain ⟨xs, result, w', run, holds⟩ := hc
  obtain ⟨ys, ends, w'', next, rest⟩ := h xs result w' holds run.now
  exact ⟨xs ++ ys, ends, w'', run.attempt.bind next, rest⟩

end Follows

end Model

end RecordMapper
