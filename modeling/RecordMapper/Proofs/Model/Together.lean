import RecordMapper.Model.Together
import RecordMapper.Proofs.Model.Straight

/-!
# Calls that are started together

What calls that are started together and the engine say to each other, and which of their failures
ends them.

* `Call.Starts` follows the starting of calls, one constructor for each way in which it goes on; a
  `Call.Share` is what came of one of them.
* `Call.together_induction`: what holds of the starting of each call holds of all of them.
* `Model.Gathers`: each of the calls reports its own rejections, and the first failure that comes in
  is the one that is returned. `Model.follows_together` says this of any schedule.
* `Model.Gathers.accepted`: where there is a result, no statement was rejected.
* `Model.Straight.together`: where every answer is there at once, the calls go straight on, one
  after the other.
-/

namespace RecordMapper

namespace Call

variable {σ α β : Type} {engine : Engine σ} {c : Call σ α} {w w' : World σ} {xs : Conversation}

/-! ## Starting a call -/

theorem outcome_start (waits : Bool) (c : Call σ α) (w : World σ) :
    (start waits c).outcome w
      = (if waits && w.trace.length < (c.outcome w).2.trace.length then .ok (c.outcome w).1
          else (c.outcome w).1.map .ok, (c.outcome w).2) := by
  have started : (start waits c).outcome w
      = (if waits && w.trace.length < (c.outcome w).2.trace.length then pure (c.outcome w).1
          else lift (c.outcome w).1 >>= fun a => pure (.ok a)).outcome (c.outcome w).2 := rfl
  rw [started]
  split
  · rfl
  · cases (c.outcome w).1 <;> rfl

/-- What a call that was started with others and the engine said to each other, and how the call
ends. -/
structure Share (α : Type) where
  /-- The conversation. -/
  said : Conversation
  /-- The result, or a failure. -/
  ends : Except Error α

namespace Share

/-- A call does not end the others when it is started: it waits for an answer, or it has a
result. -/
def GoesOn (share : Share α) (waits : Bool) : Prop :=
  waits = true ∧ share.said ≠ [] ∨ ∃ a, share.ends = .ok a

/-- How starting the call ends. -/
def started (share : Share α) (waits : Bool) : Except Error (Except Error α) :=
  if waits && !share.said.isEmpty then .ok share.ends else share.ends.map .ok

theorem started_of_goesOn {share : Share α} {waits : Bool} (goes : share.GoesOn waits) :
    share.started waits = .ok share.ends := by
  unfold started
  rcases goes with ⟨rfl, said⟩ | ⟨a, ends⟩
  · simp [said]
  · simp [ends, Except.map]

theorem started_of_not_goesOn {share : Share α} {waits : Bool} (stops : ¬ share.GoesOn waits) :
    ∃ e, share.ends = .error e ∧ share.started waits = .error e := by
  obtain ⟨said, e | a⟩ := share
  · have prompt : (waits && !said.isEmpty) = false := by simpa [GoesOn] using stops
    exact ⟨e, rfl, by simp [started, prompt, Except.map]⟩
  · exact absurd (.inr ⟨a, rfl⟩) stops

end Share

/-- A run of a call that is started. -/
theorem Runs.started {result : Except Error α} (hc : Runs engine c w xs result w')
    (waits : Bool) : Runs engine (start waits c) w xs (Share.started ⟨xs, result⟩ waits) w' where
  outcome := by
    have grown : w.trace.length < w'.trace.length ↔ xs ≠ [] := by
      rw [hc.trace, List.length_append, List.length_map, Nat.lt_add_right_iff_pos,
        List.length_pos_iff]
    rw [outcome_start, hc.outcome, Share.started]
    simp [grown]
  trace := hc.trace
  exchanges := hc.exchanges
  after := hc.after
  now := hc.now

/-! ## Starting calls one after another -/

/-- How the starting of calls goes, the first of them at a place: each call is run in the world that
the one before leaves, until one of them ends the others. -/
inductive Starts (engine : Engine σ) (schedule : Schedule) : Nat → List (Call σ α) → World σ →
    List (Share α) → Except Error (List (Except Error α)) → World σ → Prop
  /-- All calls were started. -/
  | all (place : Nat) (w : World σ) : Starts engine schedule place [] w [] (.ok []) w
  /-- A call is started, and then the next one. -/
  | goesOn {place : Nat} {c : Call σ α} {calls : List (Call σ α)} {w w' w'' : World σ}
      {share : Share α} {shares : List (Share α)} {results : Except Error (List (Except Error α))}
      (run : Runs engine c w share.said share.ends w')
      (goes : share.GoesOn (schedule.waits place))
      (rest : Starts engine schedule (place + 1) calls w' shares results w'') :
    Starts engine schedule place (c :: calls) w (share :: shares)
      (results.map (share.ends :: ·)) w''
  /-- A call fails at once, and none is started after it. -/
  | fails {place : Nat} {c : Call σ α} {calls : List (Call σ α)} {w w' : World σ}
      {share : Share α} {e : Error} (run : Runs engine c w share.said share.ends w')
      (stops : ¬ share.GoesOn (schedule.waits place)) (failed : share.ends = .error e) :
    Starts engine schedule place (c :: calls) w [share] (.error e) w'

namespace Starts

variable {schedule : Schedule} {place : Nat} {calls : List (Call σ α)} {shares : List (Share α)}
  {results : Except Error (List (Except Error α))}

/-- All that is said is what the calls say, in turn. -/
theorem runs (h : Starts engine schedule place calls w shares results w') :
    Runs engine (startAll schedule place calls) w (shares.flatMap Share.said) results w' := by
  induction h with
  | all place w => exact .pure [] w
  | @goesOn place c calls w w' w'' share shares results run goes rest ih =>
    have first := run.started (schedule.waits place)
    rw [Share.started_of_goesOn goes] at first
    rw [startAll, List.flatMap_cons]
    refine first.bind ?_
    cases results with
    | error e => exact ih.bind_error _
    | ok results =>
      rw [← List.append_nil (shares.flatMap Share.said)]
      exact ih.bind (.pure (share.ends :: results) w'')
  | @fails place c calls w w' share e run stops failed =>
    have first := run.started (schedule.waits place)
    obtain ⟨e', ends, last⟩ := Share.started_of_not_goesOn stops
    obtain rfl : e' = e := Except.error.inj (ends.symm.trans failed)
    rw [last] at first
    rw [startAll, List.flatMap_singleton]
    exact first.bind_error _

/-- Where all calls were started, their ends are the results. -/
theorem ends_eq {ends : List (Except Error α)}
    (h : Starts engine schedule place calls w shares (.ok ends) w') :
    ends = shares.map Share.ends := by
  generalize started : Except.ok ends = results at h
  induction h generalizing ends with
  | all => cases started; rfl
  | @goesOn _ _ _ _ _ _ share _ results _ _ _ ih =>
    cases results with
    | error e => cases started
    | ok ends' =>
      cases started
      rw [List.map_cons, ih rfl]
  | fails => cases started

end Starts

/-- **Calls are started in some way**, whatever the schedule. -/
theorem exists_starts (schedule : Schedule) {calls : List (Call σ α)}
    (runs : ∀ c ∈ calls, ∀ w, ∃ xs result w', Runs engine c w xs result w') :
    ∀ (place : Nat) (w : World σ),
      ∃ shares results w', Starts engine schedule place calls w shares results w' := by
  induction calls with
  | nil => exact fun place w => ⟨_, _, _, .all place w⟩
  | cons c calls ih =>
    intro place w
    obtain ⟨xs, result, w', run⟩ := runs c (by simp) w
    by_cases goes : Share.GoesOn ⟨xs, result⟩ (schedule.waits place)
    · obtain ⟨shares, results, w'', rest⟩ := ih (fun d hd => runs d (by simp [hd])) (place + 1) w'
      exact ⟨_, _, _, .goesOn run goes rest⟩
    · obtain ⟨e, failed, -⟩ := Share.started_of_not_goesOn goes
      exact ⟨_, _, _, .fails run goes failed⟩

/-- What holds of values and failures, of calls one after the other, and of the starting of each
call holds of calls that are started together. -/
theorem together_induction {Q : ∀ {β : Type}, Call σ β → Prop}
    (lift : ∀ {β : Type} (result : Except Error β), Q (lift result))
    (bind : ∀ {β γ : Type} {c : Call σ β} {f : β → Call σ γ},
      Q c → (∀ b, Q (f b)) → Q (c >>= f))
    {schedule : Schedule} {calls : List (Call σ α)}
    (h : ∀ c ∈ calls, ∀ place, Q (start (schedule.waits place) c)) :
    Q (together schedule calls) := by
  have started : ∀ place, Q (startAll schedule place calls) := by
    induction calls with
    | nil => exact fun _ => lift (.ok [])
    | cons c calls ih =>
      exact fun place => bind (h c (by simp) place) fun result =>
        bind (ih (fun d hd => h d (by simp [hd])) _) fun results => lift (.ok (result :: results))
  refine bind (started 0) fun results => ?_
  cases schedule.firstFailure? results with
  | none => exact lift _
  | some e => exact lift (.error e)

/-! ## How calls that are started together end -/

/-- How calls that were started together end, from how the starting of them went. -/
inductive Concludes (schedule : Schedule) :
    Except Error (List (Except Error α)) → Except Error β → Prop
  /-- A call failed when it was started. -/
  | atOnce (e : Error) : Concludes schedule (.error e) (.error e)
  /-- An answer that was waited for makes a call fail, and no failure came in before. -/
  | later {ends : List (Except Error α)} {e : Error}
      (first : schedule.firstFailure? ends = some e) : Concludes schedule (.ok ends) (.error e)
  /-- No call fails. -/
  | fine {ends : List (Except Error α)} (none : schedule.firstFailure? ends = none) (b : β) :
    Concludes schedule (.ok ends) (.ok b)

/-- There is no failure to come in where every call has a result. -/
theorem firstFailure?_eq_none {schedule : Schedule} {results : List (Except Error α)} :
    schedule.firstFailure? results = none ↔ ∀ r ∈ results, ∃ a, r = .ok a := by
  unfold Schedule.firstFailure?
  rw [List.findSome?_eq_none_iff]
  constructor
  · intro none r member
    obtain ⟨i, bound, rfl⟩ := List.mem_iff_getElem.1 member
    have here := none i (List.mem_append_right _ (List.mem_range.2 bound))
    rw [List.getElem?_eq_getElem bound, Option.bind_some] at here
    cases ends : results[i] with
    | ok a => exact ⟨a, rfl⟩
    | error e => rw [ends] at here; cases here
  · intro fine place _
    cases held : results[place]? with
    | none => rfl
    | some r =>
      obtain ⟨a, rfl⟩ := fine r (List.mem_of_getElem? held)
      rfl

/-- Results without a failure. -/
theorem exists_mapM {results : List (Except Error α)} (h : ∀ r ∈ results, ∃ a, r = .ok a) :
    ∃ values, results.mapM id = .ok values := by
  induction results with
  | nil => exact ⟨[], rfl⟩
  | cons r rest ih =>
    obtain ⟨a, rfl⟩ := h r (by simp)
    obtain ⟨values, collected⟩ := ih fun r hr => h r (by simp [hr])
    exact ⟨a :: values, by rw [List.mapM_cons, collected]; rfl⟩

end Call

namespace Model

variable {σ α β γ : Type} {m : Model σ} {P : Statement → Prop} {c : Call σ α}
  {calls : List (Call σ α)} {schedule : Schedule} {w : World σ} {xs : Conversation}

open Call

/-! ## Failures of calls that were started together -/

/-- Calls that were started together each report their rejections, and the first failure that comes
in is returned; the others are not looked at. -/
def Gathers (m : Model σ) (schedule : Schedule) (calls : List (Call σ α)) (w : World σ)
    (xs : Conversation) (result : Except Error β) : Prop :=
  ∃ shares results w', Starts m.engine schedule 0 calls w shares results w' ∧
    xs = shares.flatMap Share.said ∧ (∀ share ∈ shares, m.Reports share.said share.ends) ∧
    Concludes schedule results result

/-- What is made of the results does not matter. -/
theorem Gathers.map {result : Except Error β} (h : m.Gathers schedule calls w xs result)
    (f : β → γ) : m.Gathers schedule calls w xs (result.map f) := by
  obtain ⟨shares, results, w', starts, said, reports, ends⟩ := h
  refine ⟨shares, results, w', starts, said, reports, ?_⟩
  cases ends with
  | atOnce e => exact .atOnce e
  | later first => exact .later first
  | fine none b => exact .fine none (f b)

/-- **No rejection is passed over**: where there is a result, no statement was rejected. -/
theorem Gathers.accepted {b : β} (h : m.Gathers schedule calls w xs (.ok b)) : xs.Accepted := by
  obtain ⟨shares, results, w', starts, rfl, reports, ends⟩ := h
  cases ends with
  | @fine ends none =>
    intro s r rejected
    obtain ⟨share, member, said⟩ := List.mem_flatMap.1 rejected
    obtain ⟨a, result⟩ := firstFailure?_eq_none.1 none share.ends
      (starts.ends_eq ▸ List.mem_map_of_mem member)
    exact (result ▸ reports share member).accepted s r said

/-- A share of a call is as the call is in every world. -/
theorem lawful_of_starts {R : Conversation → Except Error α → Prop}
    (h : ∀ c ∈ calls, ∀ w, m.Follows c w R) {place : Nat} {shares : List (Share α)}
    {results : Except Error (List (Except Error α))} {w' : World σ}
    (starts : Starts m.engine schedule place calls w shares results w') :
    ∀ share ∈ shares, R share.said share.ends := by
  induction starts with
  | all => simp
  | @goesOn place c calls w w' w'' share shares results run goes rest ih =>
    intro other member
    rcases List.mem_cons.1 member with rfl | later
    · exact (h c (by simp) w).of_runs run
    · exact ih (fun d hd => h d (by simp [hd])) other later
  | @fails place c calls w w' share e run stops failed =>
    intro other member
    rw [List.mem_singleton.1 member]
    exact (h c (by simp) w).of_runs run

/-- **Calls that are started together** report the first failure that comes in, if each of them
reports its own. -/
theorem follows_together (h : ∀ c ∈ calls, ∀ w, m.Follows c w m.Reports) (schedule : Schedule)
    (w : World σ) : m.Follows (together schedule calls) w (m.Gathers schedule calls w) := by
  have runs : ∀ c ∈ calls, ∀ w, ∃ xs result w', Runs m.engine c w xs result w' := by
    intro c hc w
    obtain ⟨xs, result, w', run, -⟩ := h c hc w
    exact ⟨xs, result, w', run⟩
  obtain ⟨shares, results, w', starts⟩ := exists_starts schedule runs 0 w
  have reports := lawful_of_starts h starts
  have started : m.Follows (startAll schedule 0 calls) w fun xs ends =>
      xs = shares.flatMap Share.said ∧ ends = results :=
    ⟨_, results, w', starts.runs, rfl, rfl⟩
  have gathers {result : Except Error (List α)} (ends : Concludes schedule results result) :
      m.Gathers schedule calls w (shares.flatMap Share.said) result :=
    ⟨shares, results, w', starts, rfl, reports, ends⟩
  refine started.bind ?_ ?_
  · rintro _ e ⟨rfl, rfl⟩
    exact gathers (.atOnce e)
  · rintro _ ends w'' ⟨rfl, rfl⟩ -
    cases first : schedule.firstFailure? ends with
    | none =>
      obtain ⟨values, collected⟩ := exists_mapM (firstFailure?_eq_none.1 first)
      rw [collected]
      exact .lift (by simpa using gathers (.fine first values))
    | some e => exact .throw (by simpa using gathers (.later first))

/-! ## Statements of calls that are started together -/

theorem Puts.start (waits : Bool) (h : m.Puts P c) : m.Puts P (start waits c) := by
  intro w
  obtain ⟨xs, result, w', run, props⟩ := h w
  exact ⟨xs, _, w', run.started waits, props⟩

theorem Puts.together (schedule : Schedule) (h : ∀ c ∈ calls, m.Puts P c) :
    m.Puts P (together schedule calls) :=
  together_induction (Q := fun c => m.Puts P c) (fun result => (Straight.lift result).puts)
    Puts.bind fun c hc _ => (h c hc).start _

theorem Straight.start (h : m.Straight P c) : m.Straight P (start false c) := by
  intro w
  obtain ⟨xs, result, w', run, props, reports⟩ := h w
  exact ⟨xs, _, w', run.started false, props, reports.map fun e failed => by rw [failed]; rfl⟩

/-- **Where every answer is there at once**, calls that are started together go straight on. -/
theorem Straight.together (prompt : ∀ place, schedule.waits place = false)
    (h : ∀ c ∈ calls, m.Straight P c) : m.Straight P (together schedule calls) := by
  refine together_induction (Q := fun c => m.Straight P c) Straight.lift Straight.bind ?_
  intro c hc place
  rw [prompt place]
  exact (h c hc).start

end Model

end RecordMapper
