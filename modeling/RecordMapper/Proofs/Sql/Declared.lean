import Mathlib.Data.List.Nodup
import RecordMapper.Model.Aggregate
import RecordMapper.Proofs.Model.Columns
import RecordMapper.Proofs.Sql.Draft

/-!
# Drafts over declared columns

What it means that a statement names the table of a schema, declared columns and aliases, and
nothing else.

* `Query.Declared` and `Draft.Declared` say this of a query and of a statement before it is written.
* `Schema.Plain` is a schema whose names are ASCII identifiers; `Schema.plain_of_declare` makes one.
-/

namespace RecordMapper

/-! ## Declared drafts -/

/-- An aggregate of a declared column, or of the rows, under a plain alias. -/
structure Aggregate.Over (s : Schema) (a : Aggregate) : Prop where
  /-- Only rows can be counted without a column. -/
  field : s.hasField a.field = true ∨ (a.field = "*" ∧ a.function = .count)
  /-- The alias. -/
  label : Aggregate.isIdentifier a.label = true

/-- A query of the table of a schema all of whose columns are declared. An ordering may be by the
alias of a selected aggregate. -/
structure Query.Declared (s : Schema) (q : Query) : Prop where
  table : q.table = s.table
  select : ∀ text ∈ q.select, s.hasField text = true ∨ ∃ a : Aggregate, a.Over s ∧ text = a.sql
  joins : q.joins = []
  conditions : ∀ c ∈ q.conditions, s.hasField c.field = true
  groupBy : ∀ column ∈ q.groupBy, s.hasField column = true
  having : q.having = []
  orderBy : ∀ o ∈ q.orderBy,
    s.hasField o.column = true ∨
      ∃ a : Aggregate, a.Over s ∧ a.sql ∈ q.select ∧ o.column = a.label

/-- A statement on the table of a schema all of whose columns are declared. -/
def Draft.Declared (s : Schema) : Draft → Prop
  | .find q | .count q | .delete q => q.Declared s
  | .update q set => q.Declared s ∧ ∀ name ∈ set.fields, s.hasField name = true
  | .insert table r => table = s.table ∧ ∀ name ∈ r.fields, s.hasField name = true
  | .insertRows table columns _ => table = s.table ∧ ∀ name ∈ columns, s.hasField name = true

/-! ## Plain schemas -/

/-- A schema whose names are ASCII identifiers. -/
structure Schema.Plain (s : Schema) : Prop where
  /-- The table. -/
  table : Aggregate.isIdentifier s.table = true
  /-- The columns. -/
  fields : ∀ name, s.hasField name = true → Aggregate.isIdentifier name = true
  /-- Where deleted rows are kept there is a column that marks them. -/
  mark : s.options.softDelete = true → s.hasField deletedAt = true

theorem Schema.mem_addManaged {f g : Field} {fields : List Field}
    (h : g ∈ addManaged f fields) : g ∈ fields ∨ g = f := by
  unfold addManaged at h
  split at h
  · exact .inl h
  · simpa using h

/-- Managed fields are the only ones that a declaration adds. -/
theorem Schema.mem_withManaged {options : SchemaOptions} {fields : List Field} {g : Field}
    (h : g ∈ withManaged options fields) :
    g ∈ fields ∨ g.name = createdAt ∨ g.name = updatedAt ∨ g.name = deletedAt := by
  have stamped : ∀ {g}, g ∈ addManaged (stampedField updatedAt)
      (addManaged (stampedField createdAt) fields) →
        g ∈ fields ∨ g.name = createdAt ∨ g.name = updatedAt := by
    intro g hg
    rcases mem_addManaged hg with hg | rfl
    · exact (mem_addManaged hg).imp_right fun same => .inl (by rw [same]; rfl)
    · exact .inr (.inr rfl)
  unfold withManaged at h
  grind [mem_addManaged]

theorem Schema.declares_addManaged (f : Field) (fields : List Field) :
    declares (addManaged f fields) f.name = true := by
  unfold addManaged
  split
  · assumption
  · simp [declares]

/-- What a declaration makes of the table, the fields and the options. -/
theorem Schema.eq_of_declare {table : String} {fields : List Field} {options : SchemaOptions}
    {s : Schema} (h : declare table fields options = .ok s) :
    s.table = table ∧ s.fields = withManaged options fields ∧ s.options = options := by
  unfold declare at h
  dsimp only at h
  split at h
  · cases h
  · split at h
    · cases h
    · split at h
      · split at h
        · cases h
        · cases h
          exact ⟨rfl, rfl, rfl⟩
      · cases h

/-- Fields without fault have distinct names, none of which was seen before. -/
theorem Schema.nodup_of_fieldsFault? {table : String} {seen : List String} {fields : List Field}
    (h : fieldsFault? table seen fields = none) :
    (fields.map (·.name)).Nodup ∧ ∀ f ∈ fields, f.name ∉ seen := by
  induction fields generalizing seen with
  | nil => simp
  | cons f rest ih =>
    rw [fieldsFault?] at h
    split at h
    · cases h
    · next fresh =>
      obtain ⟨distinct, unseen⟩ := ih (Option.or_eq_none_iff.1 h).2
      rw [List.contains_iff_mem] at fresh
      refine ⟨List.nodup_cons.2 ⟨fun again => ?_, distinct⟩, List.forall_mem_cons.2 ⟨fresh, ?_⟩⟩
      · obtain ⟨g, member, same⟩ := List.mem_map.1 again
        exact unseen g member (by simp [same])
      · intro g member before
        exact unseen g member (List.mem_cons_of_mem _ before)

/-- **A declared schema** finds each of its fields under its name. -/
theorem Schema.field?_of_declare {table : String} {fields : List Field} {options : SchemaOptions}
    {s : Schema} (h : declare table fields options = .ok s) {f : Field} (hf : f ∈ s.fields) :
    s.field? f.name = some f := by
  have faultless : fieldsFault? table [] s.fields = none := by
    rw [(eq_of_declare h).2.1]
    unfold declare at h
    dsimp only at h
    split at h
    · cases h
    · split at h
      · cases h
      · assumption
  have distinct := (nodup_of_fieldsFault? faultless).1
  have named : s.hasField f.name = true := by
    rw [hasField, field?, List.find?_isSome]
    exact ⟨f, hf, by simp⟩
  obtain ⟨g, found⟩ := Option.isSome_iff_exists.1 named
  obtain ⟨member, same⟩ := field?_eq_some found
  rw [found, List.inj_on_of_nodup_map distinct member hf same]

/-- **A declaration with plain names** makes a plain schema. -/
theorem Schema.plain_of_declare {table : String} {fields : List Field} {options : SchemaOptions}
    {s : Schema} (h : declare table fields options = .ok s)
    (ht : Aggregate.isIdentifier table = true)
    (hf : ∀ f ∈ fields, Aggregate.isIdentifier f.name = true) : s.Plain := by
  obtain ⟨rfl, all, rfl⟩ := eq_of_declare h
  refine ⟨ht, fun name hn => ?_, fun soft => ?_⟩
  · obtain ⟨f, member, rfl⟩ := mem_of_hasField hn
    rcases mem_withManaged (all ▸ member) with declared | managed | managed | managed
    · exact hf f declared
    · rw [managed]; rfl
    · rw [managed]; rfl
    · rw [managed]; rfl
  · have marked : declares s.fields deletedAt = true := by
      rw [all, withManaged, if_pos soft]
      exact declares_addManaged { name := deletedAt, kind := .date } _
    rw [hasField, field?, List.find?_isSome]
    simpa [declares] using marked

end RecordMapper
