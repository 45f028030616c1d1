import Mathlib.Data.List.Nodup
import RecordMapper.Proofs.Sql.Declared
import RecordMapper.Proofs.Validation

/-!
# Which declarations are accepted

A declaration is accepted exactly if it is well formed, and an accepted one can be declared again.

* `Schema.managedFields` are the fields that are added to a declaration: those that the options ask
  for and the declaration lacks (`Schema.withManaged_eq`).
* `Schema.WellDeclared` says what is required of the table, the fields and the indexes.
* `Schema.declare_correct`: a schema comes of the well formed declarations and of no others; it has
  the declared fields first, every managed field once and one primary key, and its own fields and
  options declare it.
-/

namespace RecordMapper

namespace Schema

variable {table : String} {declared fields : List Field} {options : SchemaOptions} {s : Schema}
  {f : Field}

/-! ## Managed fields -/

/-- The managed fields that the options ask for. -/
def wantedFields (options : SchemaOptions) : List Field :=
  (if options.timestamps then [stampedField createdAt, stampedField updatedAt] else [])
    ++ if options.softDelete then [{ name := deletedAt, kind := .date }] else []

/-- The managed fields that a declaration lacks. -/
def managedFields (options : SchemaOptions) (declared : List Field) : List Field :=
  (wantedFields options).filter fun f => decide (f.name ∉ declared.map Field.name)

theorem declares_iff {name : String} :
    declares fields name = true ↔ name ∈ fields.map Field.name := by
  simp [declares]

/-- Fields with distinct names are added one after another; those that are there are left out. -/
theorem foldl_addManaged {wanted : List Field} (distinct : (wanted.map Field.name).Nodup)
    (fields : List Field) :
    wanted.foldl (fun fields f => addManaged f fields) fields
      = fields ++ wanted.filter fun f => decide (f.name ∉ fields.map Field.name) := by
  induction wanted generalizing fields with
  | nil => simp
  | cons w rest ih =>
    obtain ⟨fresh, distinct⟩ := List.nodup_cons.1 distinct
    rw [List.foldl_cons, ih distinct, List.filter_cons, addManaged]
    by_cases there : w.name ∈ fields.map Field.name
    · rw [if_pos (declares_iff.2 there), if_neg (by simpa using there)]
    · rw [if_neg (mt declares_iff.1 there), if_pos (by simpa using there), List.append_assoc]
      -- The name that was added is none of those that are still to come.
      have same : ∀ x ∈ rest, decide (x.name ∉ (fields ++ [w]).map Field.name)
          = decide (x.name ∉ fields.map Field.name) := by
        intro x mem
        have other : x.name ≠ w.name := fun same => fresh (List.mem_map.2 ⟨x, mem, same⟩)
        simp [other]
      rw [List.filter_congr same, List.singleton_append]

theorem nodup_wantedFields (options : SchemaOptions) :
    ((wantedFields options).map Field.name).Nodup := by
  unfold wantedFields
  cases options.timestamps <;> cases options.softDelete <;> decide

/-- A declaration is completed at its end, by the managed fields that it lacks. -/
theorem withManaged_eq (options : SchemaOptions) (declared : List Field) :
    withManaged options declared = declared ++ managedFields options declared := by
  rw [managedFields, ← foldl_addManaged (nodup_wantedFields options)]
  unfold withManaged wantedFields
  cases options.timestamps <;> cases options.softDelete <;> rfl

/-- Every managed field that the options ask for is there in the end. -/
theorem name_mem_withManaged (h : f ∈ wantedFields options) (declared : List Field) :
    f.name ∈ (withManaged options declared).map Field.name := by
  rw [withManaged_eq, List.map_append, List.mem_append]
  by_cases there : f.name ∈ declared.map Field.name
  · exact .inl there
  · exact .inr (List.mem_map_of_mem (List.mem_filter.2 ⟨h, by simpa using there⟩))

/-- A completed declaration stays as it is. -/
theorem withManaged_withManaged (options : SchemaOptions) (declared : List Field) :
    withManaged options (withManaged options declared) = withManaged options declared := by
  have nothing : managedFields options (withManaged options declared) = [] := by
    refine List.filter_eq_nil_iff.2 fun f mem => ?_
    simpa using name_mem_withManaged mem declared
  rw [withManaged_eq, nothing, List.append_nil]

/-! ## Faults -/

/-- What is required of one field: a name, a key of numbers if the engine numbers the rows by it,
and a default that passes its own check if a value must be given. -/
structure FieldFormed (f : Field) : Prop where
  named : isBlank f.name = false
  numbered : f.autoIncrement = true → f.primaryKey = true ∧ f.kind = .number
  default : ∀ v, f.required = true → f.default? = some (.literal v) →
    v ≠ .null ∧ f.kind.accepts v = true ∧ f.Admits v

theorem defaultProblems_eq_nil : defaultProblems f = [] ↔
    ∀ v, f.required = true → f.default? = some (.literal v) →
      v ≠ .null ∧ f.kind.accepts v = true ∧ f.Admits v := by
  unfold defaultProblems
  split
  · next v required given =>
    by_cases null : v = .null
    · simp [null, required, given, Value.isNull]
    · have some : v.isNull = false := by cases v <;> simp_all [Value.isNull]
      rw [if_neg (by simp [some]), List.map_eq_nil_iff, Field.check_eq_nil]
      simp [required, given, null]
  · next none =>
    refine iff_of_true rfl fun v required given => ?_
    exact absurd given (none v required)

theorem fieldFault?_eq_none : fieldFault? table f = none ↔ FieldFormed f := by
  have parts : fieldFault? table f = none ↔
      isBlank f.name = false ∧ (f.autoIncrement = true → f.primaryKey = true) ∧
        (f.autoIncrement = true → f.kind = .number) ∧ defaultProblems f = [] := by
    unfold fieldFault?
    cases isBlank f.name <;> cases f.autoIncrement <;> cases f.primaryKey <;> simp
    by_cases number : f.kind = .number <;> simp [number]
  rw [parts, defaultProblems_eq_nil]
  constructor
  · rintro ⟨named, isKey, number, default⟩
    exact ⟨named, fun counted => ⟨isKey counted, number counted⟩, default⟩
  · rintro ⟨named, numbered, default⟩
    exact ⟨named, fun counted => (numbered counted).1, fun counted => (numbered counted).2, default⟩

theorem fieldsFault?_eq_none {seen : List String} :
    fieldsFault? table seen fields = none ↔ (fields.map Field.name).Nodup ∧
      (∀ f ∈ fields, f.name ∉ seen) ∧ ∀ f ∈ fields, FieldFormed f := by
  induction fields generalizing seen with
  | nil => simp [fieldsFault?]
  | cons f rest ih =>
    rw [fieldsFault?]
    by_cases before : f.name ∈ seen
    · simp [before]
    · rw [if_neg (by simpa using before), Option.or_eq_none_iff, fieldFault?_eq_none, ih,
        List.forall_mem_cons, List.forall_mem_cons]
      -- None of the later fields bears the name of this one or an earlier name.
      simp only [List.mem_cons, not_or, List.map_cons, List.nodup_cons, List.mem_map, not_exists,
        not_and]
      constructor
      · rintro ⟨formed, distinct, fresh, rest⟩
        exact ⟨⟨fun g mem => (fresh g mem).1, distinct⟩, ⟨before, fun g mem => (fresh g mem).2⟩,
          formed, rest⟩
      · rintro ⟨⟨fresh, distinct⟩, ⟨-, unseen⟩, formed, rest⟩
        exact ⟨formed, distinct, fun g mem => ⟨fresh g mem, unseen g mem⟩, rest⟩

theorem indexFault?_eq_none {index : CompositeIndex} : indexFault? table fields index = none ↔
    index.fields ≠ [] ∧ ∀ name ∈ index.fields, name ∈ fields.map Field.name := by
  unfold indexFault?
  split
  · next none => simp [List.isEmpty_iff.1 none]
  · next some =>
    rw [Option.map_eq_none_iff, List.find?_eq_none]
    simp only [Bool.not_eq_true, Bool.not_eq_false', declares_iff]
    exact (and_iff_right fun none => some (List.isEmpty_iff.2 none)).symm

/-! ## Primary keys -/

/-- Where one element has a property, it is at one place. -/
theorem eq_of_countP_eq_one {α : Type} {p : α → Bool} {l : List α} (one : l.countP p = 1) :
    ∀ i j : Fin l.length, p (l.get i) = true → p (l.get j) = true → i = j := by
  induction l with
  | nil => exact fun i => i.elim0
  | cons a rest ih =>
    rw [List.countP_cons] at one
    by_cases first : p a = true
    · -- The first element is the one, and no other is.
      rw [if_pos first] at one
      have none : ∀ b ∈ rest, ¬ p b = true := List.countP_eq_zero.1 (by omega)
      have place (i : Fin (a :: rest).length) (hi : p ((a :: rest).get i) = true) : i = 0 := by
        cases i using Fin.cases with
        | zero => rfl
        | succ i => exact absurd hi (none _ (List.get_mem rest i))
      intro i j hi hj
      rw [place i hi, place j hj]
    · rw [if_neg first] at one
      intro i j hi hj
      cases i using Fin.cases with
      | zero => exact absurd hi first
      | succ i =>
        cases j using Fin.cases with
        | zero => exact absurd hj first
        | succ j => rw [ih one i j hi hj]

/-! ## Declarations -/

/-- What is required of a declaration. The fields are those that it has in the end, with the managed
ones. -/
structure WellDeclared (table : String) (declared : List Field) (options : SchemaOptions) :
    Prop where
  titled : isBlank table = false
  formed : ∀ f ∈ declared ++ managedFields options declared, FieldFormed f
  distinct : ((declared ++ managedFields options declared).map Field.name).Nodup
  oneKey : (declared ++ managedFields options declared).countP (·.primaryKey) = 1
  indexed : ∀ index ∈ options.indexes, index.fields ≠ [] ∧
    ∀ name ∈ index.fields, name ∈ (declared ++ managedFields options declared).map Field.name

/-- Nothing is wrong with a declaration that gives a schema, and its key is a primary key. -/
theorem wellDeclared_of_declare (h : declare table declared options = .ok s) :
    WellDeclared table declared options ∧ s.key.primaryKey = true := by
  unfold declare at h
  rw [withManaged_eq] at h
  dsimp only at h
  split at h
  · cases h
  · next titled =>
    split at h
    · cases h
    · next faultless =>
      split at h
      · next k one found =>
        split at h
        · cases h
        · next indexed =>
          cases h
          obtain ⟨distinct, -, formed⟩ := fieldsFault?_eq_none.1 faultless
          rw [List.findSome?_eq_none_iff] at indexed
          refine ⟨⟨by simpa using titled, formed, distinct, one, fun index mem => ?_⟩, ?_⟩
          · exact indexFault?_eq_none.1 (indexed index mem)
          · exact (List.findFinIdx?_eq_some_iff.1 found).1
      · cases h

/-- The fields of a declared schema have distinct names. -/
theorem nodup_of_declare (h : declare table declared options = .ok s) :
    (s.fields.map Field.name).Nodup := by
  rw [(eq_of_declare h).2.1, withManaged_eq]
  exact (wellDeclared_of_declare h).1.distinct

/-- Every field of a declared schema is well formed. -/
theorem formed_of_declare (h : declare table declared options = .ok s) (hf : f ∈ s.fields) :
    FieldFormed f := by
  rw [(eq_of_declare h).2.1, withManaged_eq] at hf
  exact (wellDeclared_of_declare h).1.formed f hf

/-- A well formed declaration gives a schema, whose key is the primary key among the fields. -/
theorem declare_of_wellDeclared (h : WellDeclared table declared options)
    (k : Fin (declared ++ managedFields options declared).length)
    (isKey : ((declared ++ managedFields options declared).get k).primaryKey = true) :
    declare table declared options
      = .ok ⟨table, declared ++ managedFields options declared, options, k⟩ := by
  have faultless : fieldsFault? table [] (declared ++ managedFields options declared) = none :=
    fieldsFault?_eq_none.2 ⟨h.distinct, fun _ _ => List.not_mem_nil, h.formed⟩
  have indexed : options.indexes.findSome?
      (indexFault? table (declared ++ managedFields options declared)) = none :=
    List.findSome?_eq_none_iff.2 fun index mem => indexFault?_eq_none.2 (h.indexed index mem)
  have found :
      (declared ++ managedFields options declared).findFinIdx? (·.primaryKey) = some k := by
    refine List.findFinIdx?_eq_some_iff.2 ⟨isKey, fun j before again => ?_⟩
    have same := eq_of_countP_eq_one h.oneKey ⟨j, Nat.lt_trans before k.isLt⟩ k again isKey
    exact absurd (congrArg Fin.val same) (Nat.ne_of_lt before)
  unfold declare
  rw [withManaged_eq]
  simp only [h.titled, faultless, h.oneKey, found, indexed]
  rfl

/-- **A declaration is accepted exactly if it is well formed.** The schema then has the declared
fields first and every managed field once, its key is the one primary key, and its own fields and
options declare it again. -/
theorem declare_correct (table : String) (declared : List Field) (options : SchemaOptions) :
    ((∃ s, declare table declared options = .ok s) ↔ WellDeclared table declared options) ∧
    ∀ s, declare table declared options = .ok s →
      s.table = table ∧ s.options = options ∧
      s.fields = declared ++ managedFields options declared ∧
      (options.timestamps = true →
        (s.fields.map Field.name).count createdAt = 1 ∧
          (s.fields.map Field.name).count updatedAt = 1) ∧
      (options.softDelete = true → (s.fields.map Field.name).count deletedAt = 1) ∧
      s.keyIndex < s.fields.length ∧ s.key.primaryKey = true ∧
      (∀ i : Fin s.fields.length, (s.fields.get i).primaryKey = true → i = s.keyIndex) ∧
      declare s.table s.fields s.options = .ok s := by
  refine ⟨⟨fun ⟨s, h⟩ => (wellDeclared_of_declare h).1, fun h => ?_⟩, fun s h => ?_⟩
  · have some : ∃ f ∈ declared ++ managedFields options declared, f.primaryKey = true :=
      List.countP_pos_iff.1 (h.oneKey ▸ Nat.one_pos)
    obtain ⟨f, mem, isKey⟩ := some
    obtain ⟨k, rfl⟩ := List.get_of_mem mem
    exact ⟨_, declare_of_wellDeclared h k isKey⟩
  · obtain ⟨formed, isKey⟩ := wellDeclared_of_declare h
    obtain ⟨rfl, all, rfl⟩ := eq_of_declare h
    have fields : s.fields = declared ++ managedFields s.options declared :=
      all.trans (withManaged_eq _ _)
    have once {f : Field} (wanted : f ∈ wantedFields s.options) :
        (s.fields.map Field.name).count f.name = 1 := by
      have there := name_mem_withManaged wanted declared
      rw [← all] at there
      exact List.count_eq_one_of_mem (fields ▸ formed.distinct) there
    refine ⟨rfl, rfl, fields, fun stamped => ?_, fun kept => ?_, s.keyIndex.isLt, isKey,
      fun i hi => ?_, ?_⟩
    · exact ⟨once (f := stampedField createdAt) (by simp [wantedFields, stamped]),
        once (f := stampedField updatedAt) (by simp [wantedFields, stamped])⟩
    · exact once (f := { name := deletedAt, kind := .date }) (by simp [wantedFields, kept])
    · exact eq_of_countP_eq_one (fields ▸ formed.oneKey) i s.keyIndex hi isKey
    · have again : declare s.table (withManaged s.options declared) s.options
          = declare s.table declared s.options := by
        unfold declare
        rw [withManaged_withManaged]
      rw [all, again, h]

end Schema

end RecordMapper
