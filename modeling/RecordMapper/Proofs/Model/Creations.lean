import RecordMapper.Proofs.Model.Stages

/-!
# Creations one after another

The statements with which a model without hooks creates records one after another, each in the world
that the one before leaves.

* `Call.Steady`: a call draws no default values, and leaves the clock alone. All that a creation
  does after it completed its record is of this kind.
* `Schema.completeEach` completes records one after another, so that their defaults are drawn in
  order.
* `Model.creations_eq`: the statement with which a record is created inserts the completed record,
  if that passes validation; else there is none.
-/

namespace RecordMapper

/-! ## Calls that draw nothing -/

namespace Call

variable {σ α β : Type}

/-- A call that draws no default values and leaves the clock alone. -/
def Steady (c : Call σ α) : Prop :=
  ∀ w, (outcome c w).2.now = w.now ∧ (outcome c w).2.draws = w.draws

theorem steady_pure (a : α) : Steady (pure a : Call σ α) := fun _ => ⟨rfl, rfl⟩

theorem steady_throw (e : Error) : Steady (throw e : Call σ α) := fun _ => ⟨rfl, rfl⟩

theorem steady_lift (result : Except Error α) : Steady (lift result : Call σ α) := by
  intro w
  rw [outcome_lift]
  exact ⟨rfl, rfl⟩

theorem steady_ask (engine : Engine σ) (s : Statement) : Steady (ask engine s) :=
  fun _ => ⟨rfl, rfl⟩

theorem Steady.bind {c : Call σ α} {f : α → Call σ β} (hc : Steady c)
    (hf : ∀ a, Steady (f a)) : Steady (c >>= f) := by
  intro w
  obtain ⟨now, draws⟩ := hc w
  rcases h : outcome c w with ⟨e | a, w'⟩
  · rw [outcome_bind_error h]
    rw [h] at now draws
    exact ⟨now, draws⟩
  · rw [outcome_bind_ok h]
    rw [h] at now draws
    obtain ⟨later, drawn⟩ := hf a w'
    exact ⟨later.trans now, drawn.trans draws⟩

end Call

/-! ## Records completed one after another -/

/-- Completes records one after another. -/
def Schema.completeEach (s : Schema) (now : Instant) : List Record → Draws → List Record × Draws
  | [], draws => ([], draws)
  | data :: rest, draws =>
    let (row, draws) := s.complete now data draws
    let (rows, draws) := s.completeEach now rest draws
    (row :: rows, draws)

/-- Whether a record passes validation for its insertion. -/
def Schema.Admits (s : Schema) (row : Record) : Prop :=
  s.validate .create row = .ok ()

instance (s : Schema) (row : Record) : Decidable (s.Admits row) :=
  match h : s.validate .create row with
  | .ok () => isTrue h
  | .error _ => isFalse fun admitted => by rw [Schema.Admits, h] at admitted; cases admitted

namespace Model

variable {σ : Type} {m : Model σ}

open Call

theorem steady_execute (m : Model σ) (s : Statement) : Steady (m.execute s) := by
  refine (steady_ask m.engine s.wire).bind fun answer => ?_
  cases answer with
  | ok reply => exact steady_pure reply
  | error rejection => exact steady_throw _

theorem steady_fetchById (m : Model σ) (id : Value) : Steady (m.fetchById id) :=
  ((steady_execute m _).bind fun _ => steady_pure _).bind fun _ => steady_pure _

theorem steady_store (m : Model σ) (data : Record) : Steady (m.store data) := by
  refine (steady_execute m _).bind fun reply => (steady_lift _).bind fun id =>
    (steady_fetchById m id).bind fun found => ?_
  cases found with
  | none => exact steady_throw _
  | some record => exact steady_pure record

/-- A creation leaves the clock alone, and draws what completing the record draws. -/
theorem outcome_create (hm : m.hooks = {}) (data : Record) (w : World σ) :
    ((m.create data).outcome w).2.now = w.now ∧
      ((m.create data).outcome w).2.draws = (m.schema.complete w.now data w.draws).2 := by
  have prepared : outcome (m.prepareInsert data) w
      = (.ok (m.schema.complete w.now data w.draws).1,
          { w with draws := (m.schema.complete w.now data w.draws).2 }) := rfl
  rw [create_eq hm, outcome_bind_ok prepared]
  exact ((steady_lift _).bind fun _ => steady_store m _) _

/-- The statement with which a record is created. -/
theorem first?_create_eq (hm : m.hooks = {}) (data : Record) (w : World σ) :
    (m.create data).first? w =
      let row := (m.schema.complete w.now data w.draws).1
      if m.schema.Admits row then
        some (Insert.one m.table (m.schema.encode row)).statement.wire
      else none := by
  have prepared : outcome (m.prepareInsert data) w
      = (.ok (m.schema.complete w.now data w.draws).1,
          { w with draws := (m.schema.complete w.now data w.draws).2 }) := rfl
  rw [create_eq hm, first?_quiet_bind prepared rfl, first?_lift_bind]
  dsimp only
  cases valid : m.schema.validate .create (m.schema.complete w.now data w.draws).1 with
  | ok _ =>
    rw [if_pos (show m.schema.Admits _ from valid)]
    exact first?_store m _ _
  | error e =>
    refine (if_neg fun admitted => ?_).symm
    rw [Schema.Admits, valid] at admitted
    cases admitted

/-- The statements with which records are created one after another: for each record the first
statement of its creation, if there is one. -/
def creations (m : Model σ) : List Record → World σ → List (Option Statement)
  | [], _ => []
  | data :: rest, w =>
    (m.create data).first? w :: m.creations rest ((m.create data).outcome w).2

/-- **Records are created by inserting the completed ones** that pass validation. -/
theorem creations_eq (hm : m.hooks = {}) (rows : List Record) :
    ∀ w, m.creations rows w = (m.schema.completeEach w.now rows w.draws).1.map fun row =>
      if m.schema.Admits row then
        some (Insert.one m.table (m.schema.encode row)).statement.wire
      else none := by
  induction rows with
  | nil => exact fun w => rfl
  | cons data rest ih =>
    intro w
    obtain ⟨now, draws⟩ := outcome_create hm data w
    rw [creations, ih, first?_create_eq hm, now, draws, Schema.completeEach, List.map_cons]

end Model

end RecordMapper
