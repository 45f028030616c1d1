import RecordMapper.Proofs.Model.Completion
import RecordMapper.Proofs.Model.Stages
import RecordMapper.Proofs.Sql.Alike

/-!
# Calls that differ in their values

Two requests are alike when they differ in nothing but values: the same fields are given, those with
null are the same, and the filters are alike.

* `Request.Alike.first?`: on one schema, alike requests begin with statements of the same text.
* `text_independent_of_values` puts this together with the same fact about all kinds of drafts: no
  value that is bound decides any part of a statement's text.
* `text_depends_on_time`: the time does, where it decides whether a field takes its fallback.
-/

namespace RecordMapper

/-! ## Requests -/

/-- A call of an operation. -/
inductive Request where
  /-- Creating a record. -/
  | create (data : Record)
  /-- Assigning the fields of a record to the rows of a filter. -/
  | update (data : Record) (filter : Filter)
  /-- Deleting the rows of a filter. -/
  | delete (filter : Filter)
  /-- Finding records. -/
  | findAll (options : FindOptions)
  /-- Counting records. -/
  | count (filter : Filter)

/-- The first statement that a request puts to the engine of a model. -/
def Request.first? {σ : Type} (m : Model σ) (w : World σ) : Request → Option Statement
  | .create data => Call.first? (m.create data) w
  | .update data filter => Call.first? (m.update data filter) w
  | .delete filter => Call.first? (m.delete filter) w
  | .findAll options => Call.first? (m.findAll options) w
  | .count filter => Call.first? (m.count filter) w

/-- Records that differ in nothing but values, with null in the same places. -/
def Record.Alike (r other : Record) : Prop :=
  r.entries.map (fun entry => (entry.1, entry.2.isNull))
    = other.entries.map fun entry => (entry.1, entry.2.isNull)

/-- Find options that differ in nothing but the operands of their filters. -/
structure FindOptions.Alike (options other : FindOptions) : Prop where
  /-- Everything else is the same. -/
  rest : { options with filter := other.filter } = other
  /-- The filters are alike. -/
  filter : Filter.Alike options.filter other.filter

/-- Requests that differ in nothing but values. -/
inductive Request.Alike : Request → Request → Prop
  /-- Creations of alike records. -/
  | create {data other : Record} (h : data.Alike other) : Alike (.create data) (.create other)
  /-- Updates with alike records and filters. -/
  | update {data other : Record} {filter filter' : Filter} (h : data.Alike other)
      (hf : Filter.Alike filter filter') : Alike (.update data filter) (.update other filter')
  /-- Deletions with alike filters. -/
  | delete {filter other : Filter} (h : Filter.Alike filter other) :
    Alike (.delete filter) (.delete other)
  /-- Finding with alike options. -/
  | findAll {options other : FindOptions} (h : options.Alike other) :
    Alike (.findAll options) (.findAll other)
  /-- Counting with alike filters. -/
  | count {filter other : Filter} (h : Filter.Alike filter other) :
    Alike (.count filter) (.count other)

theorem Record.Alike.fields {r other : Record} (h : r.Alike other) : r.fields = other.fields := by
  have names := congrArg (List.map Prod.fst) h
  simpa [Record.fields, Entries.names, Function.comp_def] using names

theorem Condition.alike_refl (c : Condition) : c.Alike c where
  field := rfl
  operator := rfl
  operand := by
    cases c.operand with
    | none => exact .none
    | single v => exact .single v v
    | list values => exact .list rfl
  null := fun _ => Iff.rfl

/-! ## Statements of alike requests -/

namespace Model

variable {σ τ : Type} {m : Model σ} {m' : Model τ}

theorem alike_queryFor (hs : m.schema = m'.schema) {options other : FindOptions}
    (ho : options.Alike other) {q q' : Query} (h : m.queryFor options = .ok q)
    (h' : m'.queryFor other = .ok q') : q.Alike q' := by
  obtain rfl := queryFor_ok h
  obtain rfl := queryFor_ok h'
  obtain ⟨filter, select, order, limit, offset, withDeleted⟩ := options
  obtain ⟨filter', select', order', limit', offset', withDeleted'⟩ := other
  obtain ⟨rest, filter⟩ := ho
  simp only [FindOptions.mk.injEq, true_and] at rest
  obtain ⟨rfl, rfl, rfl, rfl, rfl⟩ := rest
  have table : m.query = m'.query := by rw [query, query, table, table, hs]
  refine ⟨by simp only [table], ?_, .nil⟩
  simp only [hs]
  exact List.rel_append filter (List.forall₂_same.2 fun c _ => c.alike_refl)

theorem alike_addFilter (hs : m.schema = m'.schema) {filter other : Filter}
    (h : Filter.Alike filter other) :
    (m.query.addFilter filter).Alike (m'.query.addFilter other) := by
  have table : m.query = m'.query := by rw [query, query, table, table, hs]
  rw [table]
  exact ⟨rfl, by simpa [query, Query.addFilter] using h, .nil⟩

/-- The names of the record that an update assigns. -/
theorem fields_stamped (hs : m.schema = m'.schema) {data other : Record} (h : data.Alike other)
    (now later : Instant) :
    (m.schema.encode (m.stamped now (m.assignable data))).fields
      = (m'.schema.encode (m'.stamped later (m'.assignable other))).fields := by
  have assigned : (m.assignable data).fields = (m'.assignable other).fields := by
    simp only [assignable, Record.fields_erase, h.fields, hs]
  simp only [Schema.encode, Schema.mapDeclared, Record.fields_mapValues, stamped, hs]
  split
  · rw [Record.fields_set, Record.fields_set, assigned]
  · exact assigned

end Model

namespace Request

variable {σ τ : Type} {m : Model σ} {m' : Model τ} {r r' : Request}

/-- **Alike requests begin alike.** On one schema, and where a creation fills the same of the fields
that are left out, the first statements of alike requests have the same text. -/
theorem Alike.first? (h : r.Alike r') (hm : m.hooks = {}) (hm' : m'.hooks = {})
    (hs : m.schema = m'.schema) {w : World σ} {w' : World τ}
    (hfill : ∀ data, r = .create data → ∀ f ∈ m.schema.fields, f.name ∉ data.fields →
      f.isFilled w.now = f.isFilled w'.now) {s s' : Statement}
    (first : r.first? m w = some s) (first' : r'.first? m' w' = some s') : s.sql = s'.sql := by
  have table : m.table = m'.table := congrArg Schema.table hs
  cases h with
  | @create data other h =>
    obtain rfl := Model.first?_create hm first
    obtain rfl := Model.first?_create hm' first'
    have names : (m.schema.encode (m.schema.complete w.now data w.draws).1).fields
        = (m'.schema.encode (m'.schema.complete w'.now other w'.draws).1).fields := by
      simp only [Schema.encode, Schema.mapDeclared, Record.fields_mapValues,
        Schema.fields_complete]
      rw [Schema.columns_congr (hfill data rfl), h.fields, hs]
    rw [table]
    exact Insert.sql_one m'.table names
  | update h hf =>
    obtain ⟨t, ht, rfl⟩ := Model.first?_update hm first
    obtain ⟨u, hu, rfl⟩ := Model.first?_update hm' first'
    have alike := Model.alike_addFilter hs hf
    have names := Model.fields_stamped hs h w.now w'.now
    rcases alike.sql_update names with ⟨refused, -⟩ | ⟨t', u', ht', hu', same⟩
    · rw [Model.updateTemplate_ok ht] at refused
      cases refused
    · rw [Model.updateTemplate_ok ht] at ht'
      rw [Model.updateTemplate_ok hu] at hu'
      obtain rfl := Except.ok.inj ht'
      obtain rfl := Except.ok.inj hu'
      exact same
  | delete h =>
    obtain rfl := Model.first?_delete hm first
    obtain rfl := Model.first?_delete hm' first'
    exact (Model.alike_addFilter hs h).sql_delete
  | findAll h =>
    obtain ⟨q, hq, rfl⟩ := Model.first?_findAll hm first
    obtain ⟨q', hq', rfl⟩ := Model.first?_findAll hm' first'
    exact (Model.alike_queryFor hs h hq hq').sql_find
  | count h =>
    obtain ⟨q, hq, rfl⟩ := Model.first?_count first
    obtain ⟨q', hq', rfl⟩ := Model.first?_count first'
    exact (Model.alike_queryFor hs ⟨rfl, h⟩ hq hq').sql_count

end Request

/-! ## Text and values -/

/-- **The text of a statement is independent of the values that it binds.** Drafts that differ in
nothing but operands are refused together or have the same text, and their parameters are as many:
those at one position are the operands at one place of the two drafts, so that they differ only
where that operand does. Requests to models of one schema that differ in nothing but values begin
with statements of the same text, whatever the engines, the settings and the rest of the worlds,
where a creation fills the same of the fields that are left out, as it does when the clock reads the
same. -/
theorem text_independent_of_values :
    (∀ d e : Draft, d.Alike e →
      (∃ error, d.template = .error error ∧ e.template = .error error) ∨
        ∃ t u, d.template = .ok t ∧ e.template = .ok u ∧ t.sql = u.sql ∧
          t.params.length = u.params.length ∧
          ∀ k < t.params.length, ∃ i j a b, d.operands[i]? = some a ∧ e.operands[i]? = some b ∧
            k = (d.operands.take i).flatten.length + j ∧
            t.params[k]? = a[j]? ∧ u.params[k]? = b[j]?) ∧
    (∀ (σ τ : Type) (m : Model σ) (m' : Model τ) (w : World σ) (w' : World τ) (r r' : Request),
      m.hooks = {} → m'.hooks = {} → m.schema = m'.schema →
      (∀ data, r = .create data → ∀ f ∈ m.schema.fields, f.name ∉ data.fields →
        f.isFilled w.now = f.isFilled w'.now) → r.Alike r' →
      ∀ s s', r.first? m w = some s → r'.first? m' w' = some s' → s.sql = s'.sql) := by
  refine ⟨fun d e h => h.template, ?_⟩
  intro σ τ m m' w w' r r' hm hm' hs hfill h s s' first first'
  exact h.first? hm hm' hs hfill first first'

/-- A table of notes with a title. -/
def notes : Model Unit where
  schema := ⟨"notes", [.id "id", { name := "title", kind := .string, required := true }], {}, 0⟩
  engine := .silent

/-- A new title for two notes. -/
def retitle (title : String) (first second : Int64) : Request :=
  .update (.ofEntries [("title", .text title)]) [.isIn "id" [.int first, .int second]]

/-- A world for calls to `notes`. -/
def notesWorld : World Unit where
  engine := ()
  now := default

theorem retitled_alike :
    ∃ s s', (retitle "a" 1 2).first? notes notesWorld = some s ∧
      (retitle "b" 3 4).first? notes notesWorld = some s' ∧
      s.sql = s'.sql ∧ s.params ≠ s'.params := by
  have hs : (retitle "a" 1 2).first? notes notesWorld
      = some ⟨"UPDATE notes SET title = ? WHERE id IN (?, ?)", [.text "a", .int 1, .int 2]⟩ := by
    decide
  have hs' : (retitle "b" 3 4).first? notes notesWorld
      = some ⟨"UPDATE notes SET title = ? WHERE id IN (?, ?)", [.text "b", .int 3, .int 4]⟩ := by
    decide
  have ids : Condition.Alike (.isIn "id" [.int 1, .int 2]) (.isIn "id" [.int 3, .int 4]) :=
    ⟨rfl, rfl, .list rfl, by decide⟩
  have alike : (retitle "a" 1 2).Alike (retitle "b" 3 4) := .update rfl (.cons ids .nil)
  refine ⟨_, _, hs, hs', ?_, by decide⟩
  exact text_independent_of_values.2 Unit Unit notes notes notesWorld notesWorld _ _ rfl rfl rfl
    (fun _ _ _ _ _ => rfl) alike _ _ hs hs'

/-- **The time decides which columns are inserted.** The same reminder, with nothing given, is
created twice, and no value is produced for it. In 1970 the rule refuses the time as a fallback, and
no column is inserted; in 2000 it does not, and the time is inserted. -/
theorem text_depends_on_time :
    reminders.hooks = {} ∧ (∀ f ∈ reminders.schema.fields, f.default? = none) ∧
      (Request.create .empty).Alike (.create .empty) ∧
      ∃ s s', (Request.create .empty).first? reminders (newYear 1970) = some s ∧
        (Request.create .empty).first? reminders (newYear 2000) = some s' ∧
        s.sql = "INSERT INTO reminders DEFAULT VALUES" ∧
        s'.sql = "INSERT INTO reminders (due) VALUES (?)" := by
  have early : (Request.create .empty).first? reminders (newYear 1970)
      = some ⟨"INSERT INTO reminders DEFAULT VALUES", []⟩ := by decide +kernel
  have late : (Request.create .empty).first? reminders (newYear 2000)
      = some ⟨"INSERT INTO reminders (due) VALUES (?)", [.text "2000-01-01T00:00:00.000Z"]⟩ := by
    decide +kernel
  have produced : ∀ f ∈ reminders.schema.fields, f.default? = none := by
    simp [reminders, dueField, Field.id]
  exact ⟨rfl, produced, .create rfl, _, _, early, late, rfl, rfl⟩

end RecordMapper
