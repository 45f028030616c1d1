import RecordMapper.Proofs.Model.Completion

/-!
# Filled fields

What a completed record holds in each field.

* `Field.filled` is what completing one field makes of its value; `Schema.get?_fill_field` says that
  no other field has a part in it.
* `Schema.completed` is the value of a field in the end: what was set, or else its default, or else
  its fallback, or else the stamp of a managed timestamp. `Schema.get?_complete_field` says that
  completion arrives at it.
-/

namespace RecordMapper

/-- A field is unset if it holds nothing but null. -/
theorem Record.isUnset_eq_all (r : Record) (field : String) :
    r.isUnset field = (r.get? field).all Value.isNull := by
  unfold isUnset
  cases r.get? field <;> rfl

/-! ## Drawn values -/

namespace Draws

/-- Counting a value changes the count of its field only. -/
theorem count_add (draws : Draws) (field wanted : String) :
    (draws.add field).count wanted
      = if field = wanted then draws.count field + 1 else draws.count wanted := by
  unfold add count
  by_cases h : field = wanted
  · simp [h]
  · have kept : (draws.filter fun entry => entry.1 != field).find? (fun entry => entry.1 == wanted)
        = draws.find? fun entry => entry.1 == wanted := by
      rw [List.find?_filter]
      congr 1
      funext entry
      by_cases here : entry.1 = wanted
      · simp [here, Ne.symm h]
      · simp [here]
    rw [if_neg h, List.find?_cons_of_neg (by simpa using h), kept]

end Draws

namespace Field

variable {f : Field} {now : Instant} {draws : Draws} {data : Record}

/-- A default depends on nothing but the number of values drawn for its field. -/
theorem draw?_congr {draws draws' : Draws} (h : draws.count f.name = draws'.count f.name) :
    (f.draw? now draws).1 = (f.draw? now draws').1 := by
  unfold draw?
  rcases f.default? with _ | _ | produce
  · rfl
  · rfl
  · simp only [h]

theorem draw?_eq_none (h : f.default? = none) (now : Instant) (draws : Draws) :
    f.draw? now draws = (none, draws) := by
  rw [draw?, h]

/-- There is a default where one is declared. -/
theorem fst_draw?_eq_none : (f.draw? now draws).1 = none ↔ f.default? = none := by
  unfold draw?
  rcases f.default? with _ | _ | produce <;> simp

/-- A default is null only if it is declared so, and then it is not drawn. -/
theorem draw?_null (productive : ∀ produce, f.default? = some (.produced produce) →
      ∀ n t, produce n t ≠ .null) (h : (f.draw? now draws).1 = some .null)
    (later : Instant) (draws' : Draws) : f.draw? later draws' = (some .null, draws') := by
  unfold draw? at h ⊢
  rcases hd : f.default? with _ | v | produce
  · simp [hd] at h
  · cases v <;> simp_all
  · rw [hd] at h
    have some : produce (draws.count f.name) now ≠ .null := productive produce hd _ _
    cases hp : produce (draws.count f.name) now <;> simp_all

/-! ## One field -/

/-- What a field holds after it was filled, if it held `held` before. -/
def filled (f : Field) (now : Instant) (draws : Draws) (held : Option Value) : Option Value :=
  if held.all Value.isNull then ((f.draw? now draws).1.or (f.fallback? now)).or held else held

/-- Completing a field fills it. -/
theorem get?_complete_self (f : Field) (now : Instant) (data : Record) (draws : Draws) :
    (f.complete now data draws).1.get? f.name = f.filled now draws (data.get? f.name) := by
  unfold complete filled
  rw [Record.isUnset_eq_all]
  cases (data.get? f.name).all Value.isNull with
  | false => rfl
  | true =>
    rcases f.draw? now draws with ⟨_ | v, draws'⟩
    · rcases f.fallback? now with _ | v
      · rfl
      · simp [Record.get?_set]
    · simp [Record.get?_set]

/-- It leaves all other fields as they are. -/
theorem get?_complete_other {column : String} (h : f.name ≠ column) (now : Instant) (data : Record)
    (draws : Draws) : (f.complete now data draws).1.get? column = data.get? column := by
  rcases f.complete_cases now data draws with ⟨-, same⟩ | ⟨-, -, v, same⟩
  · rw [same]
  · rw [same, Record.get?_set, if_neg h]

/-- It draws no value for any other field. -/
theorem count_complete_other {column : String} (h : f.name ≠ column) (now : Instant)
    (data : Record) (draws : Draws) :
    (f.complete now data draws).2.count column = draws.count column := by
  have kept : (f.draw? now draws).2.count column = draws.count column := by
    unfold draw?
    rcases f.default? with _ | _ | produce
    · rfl
    · rfl
    · simp [Draws.count_add, h]
  unfold complete
  split
  · rfl
  · rcases hd : f.draw? now draws with ⟨_ | v, draws'⟩
    · rw [hd] at kept
      cases f.fallback? now <;> exact kept
    · rw [hd] at kept
      exact kept

end Field

namespace Schema

variable {s : Schema} {f : Field} {now : Instant} {draws : Draws} {data : Record}

/-! ## All fields -/

theorem get?_fill_other (now : Instant) {column : String} {fields : List Field}
    (h : column ∉ fields.map Field.name) : ∀ (data : Record) (draws : Draws),
    (fill fields now data draws).1.get? column = data.get? column := by
  induction fields with
  | nil => exact fun _ _ => rfl
  | cons f rest ih =>
    intro data draws
    rw [List.map_cons, List.mem_cons, not_or] at h
    exact (ih h.2 _ _).trans (f.get?_complete_other (Ne.symm h.1) now data draws)

/-- **Each field is filled by itself**, as the fields have distinct names. -/
theorem get?_fill_field (now : Instant) {fields : List Field}
    (distinct : (fields.map Field.name).Nodup) (hf : f ∈ fields) :
    ∀ (data : Record) (draws : Draws),
      (fill fields now data draws).1.get? f.name = f.filled now draws (data.get? f.name) := by
  induction fields with
  | nil => simp at hf
  | cons g rest ih =>
    intro data draws
    obtain ⟨fresh, distinct⟩ := List.nodup_cons.1 distinct
    rcases List.mem_cons.1 hf with rfl | later
    · exact (get?_fill_other now fresh _ _).trans (f.get?_complete_self now data draws)
    · have other : g.name ≠ f.name := fun same => fresh (same ▸ List.mem_map_of_mem later)
      have rest := ih distinct later (g.complete now data draws).1 (g.complete now data draws).2
      -- What was done to the field before touched neither its value nor its draws.
      rw [g.get?_complete_other other] at rest
      refine rest.trans ?_
      unfold Field.filled
      rw [Field.draw?_congr (g.count_complete_other other now data draws)]

/-- Whether a field is one of the timestamps that the schema manages. -/
def stamps (s : Schema) (name : String) : Bool :=
  s.options.timestamps && (name == createdAt || name == updatedAt)

/-- What a field holds in a completed record, if it held `held` before. -/
def completed (s : Schema) (f : Field) (now : Instant) (draws : Draws) (held : Option Value) :
    Option Value :=
  let v := f.filled now draws held
  if s.stamps f.name && v.all Value.isNull then some (.stamp now) else v

theorem get?_stampUnset_eq (now : Instant) (data : Record) (field column : String) :
    (data.stampUnset now field).get? column
      = if field = column ∧ (data.get? column).all Value.isNull = true then some (.stamp now)
        else data.get? column := by
  unfold Record.stampUnset
  rw [Record.isUnset_eq_all]
  by_cases here : field = column
  · subst here
    split <;> simp_all [Record.get?_set]
  · split <;> simp [Record.get?_set, here]

/-- What stamping makes of a column. -/
theorem get?_stampManaged (s : Schema) (now : Instant) (data : Record) (column : String) :
    (s.stampManaged now data).get? column
      = if s.stamps column && (data.get? column).all Value.isNull then some (.stamp now)
        else data.get? column := by
  have distinct : createdAt ≠ updatedAt := by decide
  unfold stampManaged stamps
  cases s.options.timestamps with
  | false => simp
  | true =>
    simp only [if_true, List.foldl_cons, List.foldl_nil, get?_stampUnset_eq, Bool.true_and]
    by_cases created : createdAt = column
    · subst created
      simp [distinct.symm]
    · by_cases updated : updatedAt = column
      · subst updated
        simp [distinct]
      · simp [created, updated, Ne.symm created, Ne.symm updated]

/-- **What a field holds in a completed record.** -/
theorem get?_complete_field (distinct : (s.fields.map Field.name).Nodup) (hf : f ∈ s.fields)
    (now : Instant) (data : Record) (draws : Draws) :
    (s.complete now data draws).1.get? f.name
      = s.completed f now draws (data.get? f.name) := by
  rw [fst_complete, get?_stampManaged, get?_fill_field now distinct hf]
  rfl

/-- What is no field is not touched, unless it is stamped. -/
theorem get?_complete_undeclared {column : String} (h : column ∉ s.fields.map Field.name)
    (unmanaged : s.stamps column = false) (now : Instant) (data : Record) (draws : Draws) :
    (s.complete now data draws).1.get? column = data.get? column := by
  rw [fst_complete, get?_stampManaged, unmanaged, get?_fill_other now h]
  rfl

end Schema

end RecordMapper
