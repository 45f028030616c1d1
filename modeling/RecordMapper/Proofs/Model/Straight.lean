import RecordMapper.Proofs.Model.Conversation

/-!
# Rejected statements

What a call makes of the rejection of a statement.

* `Model.Reports m xs result`: a rejected statement is the last one of the conversation `xs`, and
  the call ends with the failure of that statement.
* `Model.Puts m P c`: the call puts only statements with the property `P` to the engine.
* `Model.Straight m P c`: besides, the call reports every rejection. `Straight.bind` puts straight
  calls together; only a call that catches failures need not be straight.
-/

namespace RecordMapper

/-- A conversation without a rejection. -/
def Conversation.Accepted (xs : Conversation) : Prop :=
  ∀ s r, (s, Except.error r) ∉ xs

theorem Conversation.accepted_reply (s : Statement) (reply : Reply) :
    Conversation.Accepted [(s, .ok reply)] := by
  intro t r rejected
  cases List.mem_singleton.1 rejected

theorem Conversation.Accepted.append {xs ys : Conversation} (hx : xs.Accepted)
    (hy : ys.Accepted) : Conversation.Accepted (xs ++ ys) :=
  fun s r rejected => (List.mem_append.1 rejected).elim (hx s r) (hy s r)

namespace Model

variable {σ α β : Type} {m : Model σ} {P : Statement → Prop}

open Call

/-! ## Conversations that end with a rejection -/

/-- A rejected statement is the last one, and the result is its failure. -/
def Reports (m : Model σ) (xs : Conversation) (result : Except Error α) : Prop :=
  ∀ before s r after, xs = before ++ (s, .error r) :: after →
    after = [] ∧ result = .error (m.failure s r)

theorem reports_of_accepted {xs : Conversation} (h : xs.Accepted) (result : Except Error α) :
    m.Reports xs result := by
  rintro before s r after rfl
  exact absurd (by simp) (h s r)

theorem reports_nil (result : Except Error α) : m.Reports [] result :=
  reports_of_accepted (fun _ _ rejected => by cases rejected) result

theorem reports_accepted (s : Statement) (reply : Reply) (result : Except Error α) :
    m.Reports [(s, .ok reply)] result :=
  reports_of_accepted (Conversation.accepted_reply s reply) result

theorem reports_rejected (s : Statement) (r : Rejection) :
    m.Reports (α := α) [(s, .error r)] (.error (m.failure s r)) := by
  intro before t r' after h
  rcases before with _ | ⟨x, _ | ⟨y, rest⟩⟩ <;> cases h
  exact ⟨rfl, rfl⟩

/-- Where rejections are reported, a call with a result saw none. -/
theorem Reports.accepted {xs : Conversation} {a : α} (h : m.Reports xs (.ok a)) :
    xs.Accepted := by
  intro s r rejected
  obtain ⟨before, after, rfl⟩ := List.append_of_mem rejected
  obtain ⟨-, failed⟩ := h before s r after rfl
  cases failed

/-- A conversation that goes on after replies. -/
theorem Reports.append {xs ys : Conversation} {result : Except Error α} (hx : xs.Accepted)
    (hy : m.Reports ys result) : m.Reports (xs ++ ys) result := by
  intro before s r after h
  rcases List.append_eq_append_iff.1 h with ⟨more, -, rest⟩ | ⟨more, rfl, rest⟩
  · exact hy more s r after rest
  · cases more with
    | nil => exact hy [] s r after rest.symm
    | cons x more =>
      -- The rejected statement would be one of those that were accepted.
      obtain ⟨rfl, -⟩ := List.cons.inj rest
      exact absurd (by simp) (hx s r)

/-- How a call ends matters only where it fails. -/
theorem Reports.map {xs : Conversation} {result : Except Error α} {result' : Except Error β}
    (h : m.Reports xs result) (same : ∀ e, result = .error e → result' = .error e) :
    m.Reports xs result' := by
  intro before s r after hx
  obtain ⟨last, failed⟩ := h before s r after hx
  exact ⟨last, same _ failed⟩

/-! ## Calls -/

/-- A call all of whose statements have a property. -/
def Puts (m : Model σ) (P : Statement → Prop) (c : Call σ α) : Prop :=
  ∀ w, m.Follows c w fun xs _ => ∀ x ∈ xs, P x.1

/-- A call that reports every rejection, and all of whose statements have a property. -/
def Straight (m : Model σ) (P : Statement → Prop) (c : Call σ α) : Prop :=
  ∀ w, m.Follows c w fun xs result => (∀ x ∈ xs, P x.1) ∧ m.Reports xs result

theorem Straight.puts {c : Call σ α} (h : m.Straight P c) : m.Puts P c :=
  fun w => (h w).mono fun _ _ h => h.1

theorem Straight.reports {c : Call σ α} (h : m.Straight P c) (w : World σ) :
    m.Follows c w m.Reports :=
  (h w).mono fun _ _ h => h.2

theorem Straight.pure (a : α) : m.Straight P (Pure.pure a) :=
  fun _ => .pure ⟨by simp, reports_nil _⟩

theorem Straight.lift (result : Except Error α) : m.Straight P (lift result) :=
  fun _ => .lift ⟨by simp, reports_nil _⟩

theorem Straight.prepareInsert (m : Model σ) (data : Record) :
    m.Straight P (m.prepareInsert data) :=
  fun w => .quiet (m.schema.complete w.now data w.draws).2 rfl ⟨by simp, reports_nil _⟩

theorem Straight.now : m.Straight P now :=
  fun w => .quiet w.draws (outcome_now w) ⟨by simp, reports_nil _⟩

/-- **Straight calls one after the other** are straight. -/
theorem Straight.bind {c : Call σ α} {f : α → Call σ β} (hc : m.Straight P c)
    (hf : ∀ a, m.Straight P (f a)) : m.Straight P (c >>= f) := by
  refine fun w => (hc w).bind ?_ ?_
  · exact fun xs e ⟨props, reports⟩ => ⟨props, reports.map fun _ h => by cases h; rfl⟩
  · intro xs a w' ⟨props, reports⟩ _
    refine (hf a w').mono fun ys result ⟨more, last⟩ => ⟨?_, last.append reports.accepted⟩
    exact fun x hx => (List.mem_append.1 hx).elim (props x) (more x)

/-- A stage that needs no engine: what comes after it may rely on it. -/
theorem Straight.lift_bind {result : Except Error α} {f : α → Call σ β}
    (h : ∀ a, result = .ok a → m.Straight P (f a)) :
    m.Straight P (Call.lift result >>= f) :=
  fun w => .lift_bind (fun _ _ => ⟨by simp, reports_nil _⟩) fun a ha => h a ha w

/-- A stage for every element of a list. -/
theorem Straight.forM {f : α → Call σ Unit} {items : List α}
    (h : ∀ a ∈ items, m.Straight P (f a)) : m.Straight P (items.forM f) := by
  induction items with
  | nil => exact .pure ()
  | cons a rest ih => exact (h a (by simp)).bind fun _ => ih fun b hb => h b (by simp [hb])

/-- A single statement. -/
theorem straight_execute {s : Statement} (h : P s.wire) : m.Straight P (m.execute s) := by
  intro w
  rw [← bind_pure (m.execute s)]
  refine .execute_bind (fun r => ⟨by simpa using h, reports_rejected _ _⟩) ?_
  exact fun reply w' _ _ => .pure ⟨by simpa using h, reports_accepted _ _ _⟩

/-! ## Calls that catch failures -/

theorem Puts.bind {c : Call σ α} {f : α → Call σ β} (hc : m.Puts P c)
    (hf : ∀ a, m.Puts P (f a)) : m.Puts P (c >>= f) := by
  refine fun w => (hc w).bind (fun _ _ props => props) fun xs a w' props _ => ?_
  refine (hf a w').mono fun ys result more => fun x hx => ?_
  exact (List.mem_append.1 hx).elim (props x) (more x)

theorem Puts.attempt {c : Call σ α} (h : m.Puts P c) : m.Puts P (attempt c) := by
  intro w
  rw [← bind_pure (Call.attempt c)]
  exact .attempt_bind (h w) fun xs result w' props _ => .pure (by simpa using props)

theorem Puts.forM {f : α → Call σ Unit} {items : List α} (h : ∀ a ∈ items, m.Puts P (f a)) :
    m.Puts P (items.forM f) := by
  induction items with
  | nil => exact (Straight.pure ()).puts
  | cons a rest ih => exact (h a (by simp)).bind fun _ => ih fun b hb => h b (by simp [hb])

/-- A call that goes through a list. -/
theorem Puts.foldlM {f : β → α → Call σ β} {items : List α}
    (h : ∀ b, ∀ a ∈ items, m.Puts P (f b a)) : ∀ b, m.Puts P (items.foldlM f b) := by
  induction items with
  | nil => exact fun b => (Straight.pure b).puts
  | cons a rest ih =>
    intro b
    rw [List.foldlM_cons]
    exact (h b a (by simp)).bind fun b' => ih (fun b a ha => h b a (by simp [ha])) b'

/-- The statements that a call issues. -/
theorem Puts.issued {c : Call σ α} (h : m.Puts P c) (w : World σ) : ∀ s ∈ c.issued w, P s := by
  obtain ⟨xs, result, w', run, props⟩ := h w
  intro s hs
  rw [run.statements] at hs
  obtain ⟨x, hx, rfl⟩ := List.mem_map.1 hs
  exact props x hx

end Model

end RecordMapper
