import RecordMapper.Model.Create
import RecordMapper.Proofs.Record

/-!
# Completed records

What completing a record does to it before it is inserted.

* `Field.complete_cases`: a field is filled if it is not set and something fills it; nothing else
  happens.
* `Schema.get?_complete`: what is set stays as it is.
* `Schema.fields_complete`: the names of a completed record depend on the names that were given and
  on which fields are filled, not on any value.
-/

namespace RecordMapper

namespace Field

/-- Whether something fills the field where it is not set: a default, or the fallback of its kind if
the field's own constraints accept that. -/
def isFilled (f : Field) (now : Instant) : Bool :=
  f.default?.isSome || (f.fallback? now).isSome

/-- **Completing one field.** -/
theorem complete_cases (f : Field) (now : Instant) (data : Record) (draws : Draws) :
    ((data.isUnset f.name = false ∨ f.isFilled now = false) ∧
        (f.complete now data draws).1 = data) ∨
      (data.isUnset f.name = true ∧ f.isFilled now = true ∧
        ∃ v, (f.complete now data draws).1 = data.set f.name v) := by
  unfold complete isFilled draw?
  cases hu : data.isUnset f.name with
  | false => exact .inl ⟨.inl rfl, by simp⟩
  | true =>
    rcases hd : f.default? with _ | default
    · rcases hf : f.fallback? now with _ | v
      · exact .inl ⟨.inr rfl, by simp⟩
      · exact .inr ⟨rfl, rfl, v, by simp⟩
    · cases default with
      | literal v => exact .inr ⟨rfl, rfl, _, by simp; rfl⟩
      | produced produce => exact .inr ⟨rfl, rfl, _, by simp; rfl⟩

/-- Completing a field leaves what is set as it is. -/
theorem get?_complete (f : Field) (now : Instant) {data : Record} (draws : Draws)
    {column : String} (h : data.isUnset column = false) :
    (f.complete now data draws).1.get? column = data.get? column := by
  rcases f.complete_cases now data draws with ⟨-, same⟩ | ⟨unset, -, v, same⟩
  · rw [same]
  · have ne : f.name ≠ column := by
      rintro rfl
      rw [h] at unset
      cases unset
    rw [same, Record.get?_set, if_neg ne]

/-- The names of a record after one field was completed. -/
def columns (f : Field) (now : Instant) (names : List String) : List String :=
  if f.name ∈ names ∨ f.isFilled now = false then names else names ++ [f.name]

theorem fields_complete (f : Field) (now : Instant) (data : Record) (draws : Draws) :
    (f.complete now data draws).1.fields = f.columns now data.fields := by
  rcases f.complete_cases now data draws with ⟨untouched, h⟩ | ⟨-, filled, v, h⟩
  · have kept : f.name ∈ data.fields ∨ f.isFilled now = false := by
      rcases untouched with isSet | empty
      · refine .inl (Classical.byContradiction fun absent => ?_)
        rw [Record.isUnset_of_not_mem absent] at isSet
        exact absurd isSet (by decide)
      · exact .inr empty
    rw [h, columns, if_pos kept]
  · rw [h, Record.fields_set, columns]
    simp only [filled, Bool.true_eq_false, or_false]

theorem subset_columns (f : Field) (now : Instant) (names : List String) :
    names ⊆ f.columns now names := by
  unfold columns
  split
  · exact List.Subset.refl names
  · exact List.subset_append_left names [f.name]

theorem columns_congr {f : Field} {now later : Instant} {names : List String}
    (h : f.name ∉ names → f.isFilled now = f.isFilled later) :
    f.columns now names = f.columns later names := by
  unfold columns
  by_cases given : f.name ∈ names
  · simp only [given, true_or, if_true]
  · rw [h given]

end Field

/-- Completing a field that is stamped. -/
theorem Record.fields_stampUnset (now : Instant) (data : Record) (field : String) :
    (data.stampUnset now field).fields
      = if field ∈ data.fields then data.fields else data.fields ++ [field] := by
  unfold stampUnset
  split
  · exact fields_set data field _
  · next isSet =>
    have present : field ∈ data.fields := Classical.byContradiction fun absent =>
      isSet (isUnset_of_not_mem absent)
    rw [if_pos present]

theorem Record.get?_stampUnset (now : Instant) {data : Record} (field : String) {column : String}
    (h : data.isUnset column = false) :
    (data.stampUnset now field).get? column = data.get? column := by
  unfold stampUnset
  split
  · next unset =>
    have ne : field ≠ column := by
      rintro rfl
      rw [h] at unset
      cases unset
    rw [get?_set, if_neg ne]
  · rfl

namespace Schema

/-- The record after its declared fields were completed, in their order. -/
def fill (fields : List Field) (now : Instant) (data : Record) (draws : Draws) : Record × Draws :=
  fields.foldl (fun (data, draws) f => f.complete now data draws) (data, draws)

/-- The record after the managed timestamps were stamped. -/
def stampManaged (s : Schema) (now : Instant) (data : Record) : Record :=
  if s.options.timestamps then [createdAt, updatedAt].foldl (Record.stampUnset now) data else data

theorem fst_complete (s : Schema) (now : Instant) (data : Record) (draws : Draws) :
    (s.complete now data draws).1 = s.stampManaged now (fill s.fields now data draws).1 := by
  unfold complete stampManaged
  cases s.options.timestamps <;> rfl

/-- The names of a completed record, from those that were given. -/
def columns (s : Schema) (now : Instant) (names : List String) : List String :=
  let names := s.fields.foldl (fun names f => f.columns now names) names
  if s.options.timestamps then
    [createdAt, updatedAt].foldl (fun names field =>
      if field ∈ names then names else names ++ [field]) names
  else names

theorem fields_fill (now : Instant) (fields : List Field) :
    ∀ (data : Record) (draws : Draws), (fill fields now data draws).1.fields
      = fields.foldl (fun names f => f.columns now names) data.fields := by
  induction fields with
  | nil => intro data draws; rfl
  | cons f rest ih =>
    intro data draws
    rw [List.foldl_cons, ← f.fields_complete now data draws]
    exact ih _ _

/-- **The names of a completed record.** -/
theorem fields_complete (s : Schema) (now : Instant) (data : Record) (draws : Draws) :
    (s.complete now data draws).1.fields = s.columns now data.fields := by
  rw [fst_complete, stampManaged, columns, ← fields_fill now s.fields data draws]
  split
  · simp only [List.foldl_cons, List.foldl_nil, Record.fields_stampUnset]
  · rfl

theorem get?_fill (now : Instant) {column : String} (fields : List Field) :
    ∀ {data : Record} (draws : Draws), data.isUnset column = false →
      (fill fields now data draws).1.get? column = data.get? column := by
  induction fields with
  | nil => intro data draws _; rfl
  | cons f rest ih =>
    intro data draws h
    have kept := f.get?_complete now draws h
    have rest := ih (f.complete now data draws).2 ((Record.isUnset_congr kept).trans h)
    exact rest.trans kept

/-- **Completion keeps what is set.** -/
theorem get?_complete (s : Schema) (now : Instant) {data : Record} (draws : Draws)
    {column : String} (h : data.isUnset column = false) :
    (s.complete now data draws).1.get? column = data.get? column := by
  have filled := get?_fill now s.fields draws h
  have isSet := (Record.isUnset_congr filled).trans h
  rw [fst_complete, stampManaged, ← filled]
  split
  · have once := Record.get?_stampUnset now createdAt isSet
    have again := Record.get?_stampUnset now updatedAt ((Record.isUnset_congr once).trans isSet)
    exact again.trans once
  · rfl

/-- Where the same of the fields that are left out are filled, completion adds the same names. -/
theorem columns_congr {s : Schema} {now later : Instant} {names : List String}
    (h : ∀ f ∈ s.fields, f.name ∉ names → f.isFilled now = f.isFilled later) :
    s.columns now names = s.columns later names := by
  have declared : ∀ (fields : List Field) (names : List String),
      (∀ f ∈ fields, f.name ∉ names → f.isFilled now = f.isFilled later) →
      fields.foldl (fun names f => f.columns now names) names
        = fields.foldl (fun names f => f.columns later names) names := by
    intro fields
    induction fields with
    | nil => intro names _; rfl
    | cons f rest ih =>
      intro names same
      have here : f.columns now names = f.columns later names :=
        Field.columns_congr (same f (by simp))
      rw [List.foldl_cons, List.foldl_cons, here]
      exact ih _ fun g hg absent =>
        same g (by simp [hg]) fun given => absent (f.subset_columns later names given)
  unfold columns
  rw [declared s.fields names h]

end Schema

/-! ### A field that the time decides -/

/-- A date that must have the digit 2, so that its fallback is admitted at some times only. -/
def dueField : Field where
  name := "due"
  kind := .date
  custom := some fun v =>
    if v.asText?.any fun s => Text.contains "2" s.toList then none else some "due must have a 2"

/-- A table of reminders, each of them due at some time. -/
def reminders : Model Unit where
  schema := ⟨"reminders", [.id "id", dueField], {}, 0⟩
  engine := .silent

/-- The world of the reminders at the beginning of a year. -/
def newYear (year : Int) : World Unit where
  engine := ()
  now := .midnight ⟨year, 1, 1, by decide, by simp [daysInMonth]⟩

end RecordMapper
