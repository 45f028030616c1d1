import RecordMapper.Proofs.Instant.Canonical
import RecordMapper.Proofs.Model.Filling
import RecordMapper.Proofs.Model.Outcome
import RecordMapper.Proofs.Schema.Declaration
import RecordMapper.Proofs.Schema.Violations
import RecordMapper.Proofs.Sql.Declared
import RecordMapper.Proofs.Validation

/-!
# Completion settles

What completing a record may change, and that completing it again changes nothing.

* `Record.Extends`: what was set is still there, in its place.
* `Schema.Fills` are the values that an unset field may take, with what they require of the field.
* `Field.complete_settled`: a field that holds what it is completed to is left alone.
* `Schema.LeavesNothing`: at a time, nothing is left to fill in a record.
* `completion_settles` says all this of a model whose schema was declared.
* `completion_goes_on`: at a later time a field may be filled that was left alone before.
-/

namespace RecordMapper

/-! ## Places -/

/-- A record holds what another one has set, at the same places, and has its names in front. -/
structure Record.Extends (r data : Record) : Prop where
  kept : ∀ (i : Nat) (name : String) (v : Value), data.entries[i]? = some (name, v) →
    v ≠ .null → r.entries[i]? = some (name, v)
  names : data.fields <+: r.fields

namespace Entries

/-- The entries of other names keep their places. -/
theorem getElem?_set {field name : String} (other : name ≠ field) (w v : Value)
    {entries : Entries} : ∀ {i : Nat}, entries[i]? = some (name, v) →
      (set field w entries)[i]? = some (name, v) := by
  induction entries with
  | nil => simp
  | cons entry rest ih =>
    obtain ⟨first, old⟩ := entry
    intro i h
    rw [set]
    cases i with
    | zero =>
      simp only [List.getElem?_cons_zero, Option.some.injEq, Prod.mk.injEq] at h
      rw [if_neg (h.1 ▸ other)]
      simp [h]
    | succ i =>
      rw [List.getElem?_cons_succ] at h
      split
      · rwa [List.getElem?_cons_succ]
      · rw [List.getElem?_cons_succ]
        exact ih h

/-- Setting a field to what it holds changes nothing. -/
theorem set_value? {field : String} {v : Value} {entries : Entries}
    (h : value? entries field = some v) : set field v entries = entries := by
  induction entries with
  | nil => cases h
  | cons entry rest ih =>
    obtain ⟨first, old⟩ := entry
    rw [value?_cons] at h
    rw [set]
    split
    · next here =>
      rw [if_pos here] at h
      cases h
      rw [here]
    · next other =>
      rw [if_neg other] at h
      rw [ih h]

end Entries

namespace Record

/-- Setting a field to what it holds changes nothing. -/
theorem set_get? {r : Record} {field : String} {v : Value} (h : r.get? field = some v) :
    r.set field v = r := by
  obtain ⟨entries, nodup⟩ := r
  exact Record.mk.injEq _ _ _ _ ▸ Entries.set_value? h

namespace Extends

variable {r data : Record}

theorem refl (r : Record) : r.Extends r :=
  ⟨fun _ _ _ h _ => h, List.prefix_refl _⟩

/-- Setting a field that is unset moves nothing and takes nothing away. -/
theorem set (h : r.Extends data) {field : String} (unset : r.isUnset field = true) (w : Value) :
    (r.set field w).Extends data := by
  refine ⟨fun i name v here given => ?_, ?_⟩
  · have kept := h.kept i name v here given
    have held : r.get? name = some v := get?_eq_some_iff.2 (List.mem_of_getElem? kept)
    have other : name ≠ field := by
      rintro rfl
      rw [isUnset_eq_all, held] at unset
      exact given (Value.isNull_iff.1 unset)
    exact Entries.getElem?_set other w v kept
  · rw [fields_set]
    split
    · exact h.names
    · exact h.names.trans (List.prefix_append _ _)

theorem complete (h : r.Extends data) (f : Field) (now : Instant) (draws : Draws) :
    (f.complete now r draws).1.Extends data := by
  rcases f.complete_cases now r draws with ⟨-, same⟩ | ⟨unset, -, v, same⟩
  · rwa [same]
  · rw [same]
    exact h.set unset v

theorem fill (now : Instant) (fields : List Field) : ∀ {r : Record} (draws : Draws),
    r.Extends data → (Schema.fill fields now r draws).1.Extends data := by
  induction fields with
  | nil => exact fun _ h => h
  | cons f rest ih => exact fun draws h => ih _ (h.complete f now draws)

theorem stampUnset (h : r.Extends data) (now : Instant) (field : String) :
    (r.stampUnset now field).Extends data := by
  unfold Record.stampUnset
  split
  · next unset => exact h.set unset _
  · exact h

theorem stampManaged (h : r.Extends data) (s : Schema) (now : Instant) :
    (s.stampManaged now r).Extends data := by
  unfold Schema.stampManaged
  split
  · exact (h.stampUnset now createdAt).stampUnset now updatedAt
  · exact h

end Extends

end Record

/-- **Completion only adds to what was set.** -/
theorem Schema.extends_complete (s : Schema) (now : Instant) (data : Record) (draws : Draws) :
    (s.complete now data draws).1.Extends data := by
  rw [fst_complete]
  exact ((Record.Extends.refl data).fill now s.fields draws).stampManaged s now

/-! ## Fallbacks -/

namespace Field

variable {f : Field} {now later : Instant} {draws : Draws} {v : Value}

/-- A field takes a fallback only if it is free to have any value, and then that of its kind, which
its constraints admit unless it is null. -/
theorem fallback?_eq_some : f.fallback? now = some v ↔
    f.required = false ∧ f.primaryKey = false ∧ f.autoIncrement = false ∧ f.unique = false ∧
      f.relation = none ∧ f.name ≠ deletedAt ∧
      (f.kind.fallback now = .null ∨ f.Admits (f.kind.fallback now)) ∧
      f.kind.fallback now = v := by
  unfold fallback? withoutFallback Admits
  simp only [Bool.or_eq_true, List.all_eq_true, Option.isNone_iff_eq_none, Value.isNull_iff,
    Option.ite_none_left_eq_some, Option.ite_none_right_eq_some, Option.some.injEq, not_or,
    Bool.not_eq_true, Option.isSome_eq_false_iff, beq_iff_eq, and_assoc, ne_eq]

/-- A default producer never gives null. -/
def Productive (f : Field) : Prop :=
  ∀ produce, f.default? = some (.produced produce) → ∀ n t, produce n t ≠ .null

/-- The fallback that is null does not depend on the time. -/
theorem fallback?_null (h : f.fallback? now = some .null) (later : Instant) :
    f.fallback? later = some .null := by
  obtain ⟨optional, plain, unnumbered, shared, own, live, -, null⟩ := fallback?_eq_some.1 h
  have null : f.kind.fallback later = .null := by
    cases hk : f.kind with
    | json => rfl
    | _ => rw [hk] at null; cases null
  exact fallback?_eq_some.2 ⟨optional, plain, unnumbered, shared, own, live, .inl null, null⟩

/-- A kind accepts its own fallback; the time is written as a date as long as the year has four
digits. -/
theorem accepts_fallback {kind : Kind}
    (year : kind = .date → 0 ≤ now.date.year ∧ now.date.year ≤ 9999) :
    kind.accepts (kind.fallback now) = true := by
  cases kind with
  | date =>
    rw [Kind.fallback, Value.stamp, Kind.accepts]
    exact Instant.ofText?_canonical (year rfl)
  | _ => rfl

/-- **Nothing is wrong with a field that holds its fallback.** -/
theorem fieldViolations_fallback {r : Record} (h : f.fallback? now = some v)
    (held : r.get? f.name = some v)
    (year : f.kind = .date → 0 ≤ now.date.year ∧ now.date.year ≤ 9999) :
    Schema.fieldViolations .create r f = [] := by
  obtain ⟨optional, -, -, -, -, -, admitted, rfl⟩ := fallback?_eq_some.1 h
  by_cases null : f.kind.fallback now = .null
  · rw [null] at held
    simp [Schema.fieldViolations, held, optional]
  · rw [Schema.fieldViolations_value held null, check_eq_nil]
    exact ⟨accepts_fallback year, admitted.resolve_left null⟩

end Field

/-! ## Values -/

namespace Schema

variable {s : Schema} {f : Field} {now later : Instant} {draws : Draws} {held : Option Value}

/-- What may fill a field that is not set. -/
inductive Fills (s : Schema) (f : Field) (now : Instant) (draws : Draws) : Value → Prop
  /-- Its declared default. -/
  | default {v : Value} (drawn : (f.draw? now draws).1 = some v) : Fills s f now draws v
  /-- The fallback of its kind, if it has no default, may have any value that its constraints
  admit, and these admit the fallback unless it is null. -/
  | fallback (undeclared : f.default? = none) (optional : f.required = false)
      (plain : f.primaryKey = false) (unnumbered : f.autoIncrement = false)
      (shared : f.unique = false) (own : f.relation = none) (live : f.name ≠ deletedAt)
      (admitted : f.kind.fallback now = .null ∨ f.Admits (f.kind.fallback now)) :
      Fills s f now draws (f.kind.fallback now)
  /-- The time, if it is one of the managed timestamps. -/
  | stamp (managed : s.options.timestamps = true)
      (named : f.name = createdAt ∨ f.name = updatedAt) :
      Fills s f now draws (.stamp now)

theorem stamps_eq_true {name : String} : s.stamps name = true ↔
    s.options.timestamps = true ∧ (name = createdAt ∨ name = updatedAt) := by
  simp [stamps]

/-- A field that is completed to something else was not set, and something fills it. -/
theorem fills_completed (changed : s.completed f now draws held ≠ held) :
    held.all Value.isNull = true ∧
      ∃ v, s.completed f now draws held = some v ∧ s.Fills f now draws v := by
  unfold completed Field.filled at changed ⊢
  cases unset : held.all Value.isNull with
  | false => simp [unset] at changed
  | true =>
    simp only [unset, if_true, true_and] at changed ⊢
    split
    · next stamped =>
      obtain ⟨managed, named⟩ := stamps_eq_true.1 (Bool.and_eq_true_iff.1 stamped).1
      exact ⟨_, rfl, .stamp managed named⟩
    · next unstamped =>
      rw [if_neg unstamped] at changed
      rcases drawn : (f.draw? now draws).1 with _ | v
      · rcases taken : f.fallback? now with _ | v
        · simp [drawn, taken] at changed
        · have undeclared : f.default? = none := Field.fst_draw?_eq_none.1 drawn
          obtain ⟨optional, plain, unnumbered, shared, own, live, admitted, rfl⟩ :=
            Field.fallback?_eq_some.1 taken
          exact ⟨_, rfl, .fallback undeclared optional plain unnumbered shared own live admitted⟩
      · exact ⟨v, rfl, .default drawn⟩

/-- What is completed to nothing or null was filled with it, and is so again. -/
theorem completed_null (h : (s.completed f now draws held).all Value.isNull = true) :
    s.completed f now draws held = f.filled now draws held ∧ held.all Value.isNull = true := by
  unfold completed at h ⊢
  dsimp only at h ⊢
  split
  · next stamped =>
    rw [if_pos stamped] at h
    cases h
  · next unstamped =>
    rw [if_neg unstamped] at h
    refine ⟨rfl, Classical.byContradiction fun isSet => ?_⟩
    rw [Field.filled, if_neg isSet] at h
    exact isSet h

end Schema

namespace Field

variable {f : Field} {s : Schema} {now later : Instant} {draws draws' : Draws} {r : Record}
  {held : Option Value}

/-- **A field that holds what it is completed to is left alone**, also at a later time, unless it is
unset and takes a fallback then. -/
theorem complete_settled (productive : f.Productive)
    (stays : r.isUnset f.name = true → f.default? = none →
      ∀ v, f.fallback? later = some v → v = .null)
    (h : r.get? f.name = s.completed f now draws held) :
    f.complete later r draws' = (r, draws') := by
  unfold complete
  cases unset : r.isUnset f.name with
  | false => rfl
  | true =>
    have stays := stays unset
    rw [Record.isUnset_eq_all, h] at unset
    obtain ⟨same, none⟩ := Schema.completed_null unset
    have again : ∀ v, r.get? f.name = some v → v = .null := fun v hv => by
      rw [← h, hv] at unset
      exact Value.isNull_iff.1 unset
    rw [same, filled, if_pos none] at h
    simp only [Bool.not_true, Bool.false_eq_true, if_false]
    rcases declared : f.default? with _ | default
    · rw [draw?_eq_none declared] at h ⊢
      rcases taken : f.fallback? later with _ | v
      · rfl
      · have null := stays declared v taken
        subst null
        rw [fallback?_null taken now] at h
        exact congrArg (·, draws') (Record.set_get? h)
    · obtain ⟨v, drawn⟩ : ∃ v, (f.draw? now draws).1 = some v :=
        Option.ne_none_iff_exists'.1 fun none => by
          rw [fst_draw?_eq_none.1 none] at declared
          cases declared
      rw [drawn] at h
      have null := again v h
      subst null
      rw [draw?_null productive drawn]
      exact congrArg (·, draws') (Record.set_get? h)

end Field

namespace Schema

variable {s : Schema} {now later : Instant} {draws : Draws} {data r : Record}

/-- What completing a record makes of it. -/
structure Completes (s : Schema) (now : Instant) (draws : Draws) (data r : Record) : Prop where
  /-- What was set is still there, in its place. -/
  extended : r.Extends data
  /-- Whatever else is there is a declared field that was not set, and something fills it. -/
  sources : ∀ name, r.get? name ≠ data.get? name → data.isUnset name = true ∧
    ∃ f ∈ s.fields, f.name = name ∧ ∃ v, r.get? name = some v ∧ s.Fills f now draws v
  /-- What each field holds. -/
  values : ∀ f ∈ s.fields, r.get? f.name = s.completed f now draws (data.get? f.name)
  /-- Nothing is reported of a field that was filled with its fallback. -/
  passes : ∀ f ∈ s.fields, data.isUnset f.name = true → f.default? = none →
    ∀ v, f.fallback? now = some v → r.get? f.name = some v →
      (f.kind = .date → 0 ≤ now.date.year ∧ now.date.year ≤ 9999) →
      Violation.ofField f.name (s.violations .create r) = []

theorem completes (distinct : (s.fields.map Field.name).Nodup)
    (managed : ∀ name, s.stamps name = true → name ∈ s.fields.map Field.name) (now : Instant)
    (data : Record) (draws : Draws) : s.Completes now draws data (s.complete now data draws).1 := by
  have values : ∀ f ∈ s.fields, (s.complete now data draws).1.get? f.name
      = s.completed f now draws (data.get? f.name) := fun f hf =>
    get?_complete_field distinct hf now data draws
  refine ⟨?_, fun name changed => ?_, values, ?_⟩
  · exact s.extends_complete now data draws
  · have declared : name ∈ s.fields.map Field.name := by
      refine Classical.byContradiction fun foreign => changed ?_
      have unmanaged : s.stamps name = false :=
        Bool.eq_false_iff.2 fun stamped => foreign (managed name stamped)
      exact get?_complete_undeclared foreign unmanaged now data draws
    obtain ⟨f, hf, rfl⟩ := List.mem_map.1 declared
    rw [values f hf] at changed ⊢
    obtain ⟨unset, v, filled, source⟩ := fills_completed changed
    exact ⟨(Record.isUnset_eq_all data f.name).trans unset, f, hf, rfl, v, filled, source⟩
  · exact fun f hf _ _ v taken held year => (ofField_violations_of_mem distinct hf).trans
      (f.fieldViolations_fallback taken held year)

/-- Only declared fields are drawn for. -/
theorem snd_complete (s : Schema) (now : Instant) (data : Record) (draws : Draws) :
    (s.complete now data draws).2 = (fill s.fields now data draws).2 := by
  unfold complete
  cases s.options.timestamps <;> rfl

/-- The declared fields of a completed record are left alone. -/
theorem fill_settled {fields : List Field} (draws : Draws)
    (h : ∀ f ∈ fields, ∀ draws, f.complete later r draws = (r, draws)) :
    fill fields later r draws = (r, draws) := by
  induction fields with
  | nil => rfl
  | cons f rest ih =>
    show fill rest later (f.complete later r draws).1 (f.complete later r draws).2 = (r, draws)
    rw [h f List.mem_cons_self draws]
    exact ih fun g hg => h g (List.mem_cons_of_mem f hg)

/-- So are the managed timestamps. -/
theorem stampManaged_settled (h : ∀ name, s.stamps name = true → r.isUnset name = false)
    (later : Instant) : s.stampManaged later r = r := by
  unfold stampManaged
  split
  · next managed =>
    have created : r.isUnset createdAt = false := h _ (stamps_eq_true.2 ⟨managed, .inl rfl⟩)
    have updated : r.isUnset updatedAt = false := h _ (stamps_eq_true.2 ⟨managed, .inr rfl⟩)
    simp [Record.stampUnset, created, updated]
  · rfl

/-- Nothing is left to fill in a record at a time: no field that is unset and has no default takes a
fallback then, unless that is null. -/
def LeavesNothing (s : Schema) (now : Instant) (r : Record) : Prop :=
  ∀ f ∈ s.fields, r.isUnset f.name = true → f.default? = none →
    ∀ v, f.fallback? now = some v → v = .null

/-- Completion leaves nothing to fill. -/
theorem leavesNothing_complete (distinct : (s.fields.map Field.name).Nodup) (now : Instant)
    (data : Record) (draws : Draws) : s.LeavesNothing now (s.complete now data draws).1 := by
  intro f hf unset undeclared v taken
  rw [Record.isUnset_eq_all, get?_complete_field distinct hf now data draws] at unset
  obtain ⟨same, none⟩ := completed_null unset
  rw [same, Field.filled, if_pos none, Field.draw?_eq_none undeclared, taken] at unset
  exact Value.isNull_iff.1 unset

/-- **A completed record is complete**, at any time at which nothing is left to fill. -/
theorem complete_settled (distinct : (s.fields.map Field.name).Nodup)
    (productive : ∀ f ∈ s.fields, f.Productive) (data : Record) (draws draws' : Draws)
    (nothing : s.LeavesNothing later (s.complete now data draws).1) :
    s.complete later (s.complete now data draws).1 draws'
      = ((s.complete now data draws).1, draws') := by
  have filled : fill s.fields later (s.complete now data draws).1 draws'
      = ((s.complete now data draws).1, draws') :=
    fill_settled draws' fun f hf _ => Field.complete_settled (productive f hf) (nothing f hf)
      (get?_complete_field distinct hf now data draws)
  have stamped : s.stampManaged later (s.complete now data draws).1
      = (s.complete now data draws).1 := by
    refine stampManaged_settled (fun name managed => ?_) later
    rw [Record.isUnset_eq_all, fst_complete, get?_stampManaged, managed, Bool.true_and]
    split
    · rfl
    · next isSet => exact Bool.eq_false_iff.2 isSet
  refine Prod.ext ?_ ?_
  · rw [fst_complete, filled, stamped]
  · exact (snd_complete s later _ draws').trans (congrArg Prod.snd filled)

end Schema

/-! ## Prepared records -/

/-- The managed fields never have a default that gives null. -/
theorem Schema.productive_of_declare {table : String} {declared : List Field}
    {options : SchemaOptions} {s : Schema} (hs : declare table declared options = .ok s)
    (productive : ∀ f ∈ declared, f.Productive) {f : Field} (hf : f ∈ s.fields) :
    f.Productive := by
  rw [(eq_of_declare hs).2.1, withManaged_eq, List.mem_append] at hf
  rcases hf with own | managed
  · exact productive f own
  · have wanted := (List.mem_filter.1 managed).1
    unfold wantedFields at wanted
    intro produce here
    rcases List.mem_append.1 wanted with stamped | marked
    · split at stamped
      · simp only [List.mem_cons, List.not_mem_nil, or_false] at stamped
        rcases stamped with rfl | rfl <;> (cases here; exact fun _ _ null => by cases null)
      · simp at stamped
    · split at marked
      · simp only [List.mem_cons, List.not_mem_nil, or_false] at marked
        subst marked
        cases here
      · simp at marked

/-- The timestamps that a schema manages are among its fields. -/
theorem Schema.stamped_of_declare {table : String} {declared : List Field}
    {options : SchemaOptions} {s : Schema} (hs : declare table declared options = .ok s)
    {name : String} (managed : s.stamps name = true) : name ∈ s.fields.map Field.name := by
  obtain ⟨timestamps, named⟩ := stamps_eq_true.1 managed
  rw [(eq_of_declare hs).2.1]
  rw [(eq_of_declare hs).2.2] at timestamps
  have wanted (name : String) (h : name = createdAt ∨ name = updatedAt) :
      stampedField name ∈ wantedFields options := by
    rcases h with rfl | rfl <;> simp [wantedFields, timestamps]
  exact name_mem_withManaged (wanted name named) declared

theorem Model.outcome_prepareInsert {σ : Type} (m : Model σ) (data : Record) (w : World σ) :
    (m.prepareInsert data).outcome w
      = (.ok (m.schema.complete w.now data w.draws).1,
          { w with draws := (m.schema.complete w.now data w.draws).2 }) :=
  rfl

/-- **Completion settles.** Where no default producer gives null, a record is completed to one that
holds what was set in its place; whatever else it holds is a declared field that was not set, filled
with its own default, with the fallback of its kind if it is free to take one, or with the time if
it is a managed timestamp; nothing is wrong with a field that was filled with its fallback. To
complete it again changes nothing, neither the record nor the number of values drawn. At a later
time it changes nothing exactly if nothing is left to fill then: a field that was left unset, since
its own constraints did not admit its fallback, may take one that they admit. -/
theorem completion_settles {σ : Type} {m : Model σ} {table : String} {declared : List Field}
    {options : SchemaOptions} (hs : Schema.declare table declared options = .ok m.schema)
    (productive : ∀ f ∈ declared, f.Productive) (data : Record) (w : World σ) :
    ∃ r draws, (m.prepareInsert data).outcome w = (.ok r, { w with draws }) ∧
      m.schema.Completes w.now w.draws data r ∧
      (m.prepareInsert r).outcome { w with draws } = (.ok r, { w with draws }) ∧
      ∀ later : World σ, (m.prepareInsert r).outcome later = (.ok r, later) ↔
        m.schema.LeavesNothing later.now r := by
  have distinct := Schema.nodup_of_declare hs
  have settled (later : World σ) :
      (m.prepareInsert (m.schema.complete w.now data w.draws).1).outcome later
          = (.ok (m.schema.complete w.now data w.draws).1, later) ↔
        m.schema.LeavesNothing later.now (m.schema.complete w.now data w.draws).1 := by
    rw [Model.outcome_prepareInsert]
    constructor
    · intro same
      -- What is left as it is was just completed.
      have record := Except.ok.inj (congrArg Prod.fst same)
      rw [← record]
      exact Schema.leavesNothing_complete distinct later.now _ later.draws
    · intro nothing
      rw [Schema.complete_settled distinct
        (fun _ => Schema.productive_of_declare hs productive) data w.draws later.draws nothing]
  exact ⟨_, _, m.outcome_prepareInsert data w,
    Schema.completes distinct (fun _ => Schema.stamped_of_declare hs) w.now data w.draws,
    (settled _).2 (Schema.leavesNothing_complete distinct w.now data w.draws), settled⟩

/-- The number of a chore, which is drawn. -/
def choreNumber : Field where
  name := "number"
  kind := .number
  required := true
  default? := some (.produced fun n _ => .int (.ofNat n))

/-- The declared fields of chores: the effort is at least 1, so that 0 is no fallback for it. -/
def choreFields : List Field :=
  [.id "id", choreNumber, { name := "title", kind := .string },
    { name := "effort", kind := .number, min := some (.ofNat 1) },
    { name := "labels", kind := .json }, { name := "due", kind := .date }]

/-- A table of chores with managed timestamps, which keeps deleted rows. -/
def chores : Model Unit where
  schema := ⟨"chores", choreFields ++ [Schema.stampedField createdAt,
    Schema.stampedField updatedAt, { name := deletedAt, kind := .date }],
    { timestamps := true, softDelete := true }, ⟨0, by decide⟩⟩
  engine := .silent

theorem choreFields_productive : ∀ f ∈ choreFields, f.Productive := by
  intro f hf produce here
  simp only [choreFields, List.mem_cons, List.not_mem_nil, or_false] at hf
  rcases hf with rfl | rfl | rfl | rfl | rfl | rfl
  case inr.inl => cases here; exact fun _ _ null => by cases null
  all_goals cases here

/-- A chore with a title, and due at no given time. -/
def sweeping : Record :=
  .ofEntries [("due", .null), ("title", .text "Sweep")]

theorem chores_settle :
    Schema.declare "chores" choreFields { timestamps := true, softDelete := true }
        = .ok chores.schema ∧
      (∀ f ∈ choreFields, f.Productive) ∧
      ∃ r draws, (chores.prepareInsert sweeping).outcome ⟨(), default, [], []⟩
          = (.ok r, ⟨(), default, draws, []⟩) ∧
        r.fields = ["due", "title", "number", "labels", "created_at", "updated_at"] ∧
        (chores.prepareInsert r).outcome ⟨(), default, draws, []⟩
          = (.ok r, ⟨(), default, draws, []⟩) := by
  have declared : Schema.declare "chores" choreFields { timestamps := true, softDelete := true }
      = .ok chores.schema := rfl
  obtain ⟨r, draws, prepared, -, again, -⟩ := completion_settles (m := chores) declared
    choreFields_productive sweeping ⟨(), default, [], []⟩
  refine ⟨declared, choreFields_productive, r, draws, prepared, ?_, again⟩
  have same : r = (chores.schema.complete default sweeping []).1 := by
    rw [Model.outcome_prepareInsert] at prepared
    exact (Except.ok.inj (congrArg Prod.fst prepared)).symm
  rw [same, Schema.fields_complete]
  decide +kernel

/-- **A completed record may be completed further.** In 1970 the rule of a reminder refuses the
time, and nothing is filled; in 2000 it does not, and the record is not left alone. In the year
12000 the rule admits the time as well, but it is no date that is read. -/
theorem completion_goes_on :
    Schema.declare "reminders" [.id "id", dueField] {} = .ok reminders.schema ∧
      (∀ f ∈ [Field.id "id", dueField], f.Productive) ∧
      (reminders.prepareInsert .empty).outcome (newYear 1970) = (.ok .empty, newYear 1970) ∧
      (reminders.prepareInsert .empty).outcome (newYear 2000)
        = (.ok (.ofEntries [("due", .text "2000-01-01T00:00:00.000Z")]), newYear 2000) ∧
      ∃ r, (reminders.prepareInsert .empty).outcome (newYear 12000) = (.ok r, newYear 12000) ∧
        Violation.ofField "due" (reminders.schema.violations .create r) ≠ [] := by
  have productive : ∀ f ∈ [Field.id "id", dueField], f.Productive := by
    simp [Field.Productive, dueField, Field.id]
  exact ⟨rfl, productive, rfl, rfl, _, rfl, by decide +kernel⟩

end RecordMapper
