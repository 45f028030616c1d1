import RecordMapper.Record.Basic

/-!
# Names and values of records

What a record holds after it was changed.

* `Record.fields_set`, `Record.fields_erase` and `Record.fields_mapValues` give the names.
* `Record.entries_foldl_set` and `Record.get?_foldl_set` are what many fields are set to, one after
  another: new ones are added in order, and the last value of a name counts.
* `Record.get?_set`, `Record.get?_erase`, `Record.get?_mapValues` and `Record.get?_merge` give the
  values: every change touches the fields that it is about and no others.
-/

namespace RecordMapper

namespace Entries

/-- The value of a name. -/
def value? (entries : Entries) (name : String) : Option Value :=
  (entries.find? fun entry => entry.1 == name).map (·.2)

@[simp] theorem value?_nil (name : String) : value? [] name = none := rfl

theorem value?_cons (name : String) (v : Value) (rest : Entries) (wanted : String) :
    value? ((name, v) :: rest) wanted = if name = wanted then some v else value? rest wanted := by
  by_cases h : name = wanted <;> simp [value?, h]

theorem value?_isSome (entries : Entries) (name : String) :
    (value? entries name).isSome = true ↔ name ∈ entries.names := by
  induction entries with
  | nil => simp [names]
  | cons entry rest ih =>
    obtain ⟨first, v⟩ := entry
    rw [value?_cons]
    by_cases h : first = name
    · simp [h, names]
    · have h' : ¬ name = first := fun e => h e.symm
      simpa [h, h', names] using ih

/-- The entries of distinct names are their values. -/
theorem value?_eq_some {entries : Entries} (distinct : entries.names.Nodup) {name : String}
    {v : Value} : value? entries name = some v ↔ (name, v) ∈ entries := by
  induction entries with
  | nil => simp
  | cons entry rest ih =>
    obtain ⟨first, old⟩ := entry
    obtain ⟨absent, distinct⟩ := List.nodup_cons.1 distinct
    rw [value?_cons, List.mem_cons, Prod.mk.injEq]
    by_cases h : first = name
    · subst h
      have other : (first, v) ∉ rest := fun mem =>
        absent (List.mem_map.2 ⟨_, mem, rfl⟩)
      simp [other, eq_comm]
    · rw [if_neg h, ih distinct]
      simp [Ne.symm h]

theorem value?_set (field : String) (v : Value) (entries : Entries) (wanted : String) :
    value? (set field v entries) wanted
      = if field = wanted then some v else value? entries wanted := by
  induction entries with
  | nil => simp [set, value?_cons]
  | cons entry rest ih =>
    obtain ⟨name, old⟩ := entry
    by_cases h : name = field
    · subst h
      rw [set, if_pos rfl, value?_cons, value?_cons]
      split <;> rfl
    · rw [set, if_neg h, value?_cons, value?_cons, ih]
      by_cases hn : name = wanted
      · have hf : ¬ field = wanted := fun e => h (hn.trans e.symm)
        simp [hn, hf]
      · simp [hn]

/-- Setting a field replaces its value in place, or else adds it at the end. -/
theorem set_eq {field : String} {v : Value} {entries : Entries}
    (distinct : entries.names.Nodup) : set field v entries
      = if field ∈ entries.names then
          entries.map fun entry => if entry.1 = field then (field, v) else entry
        else entries ++ [(field, v)] := by
  induction entries with
  | nil => rfl
  | cons entry rest ih =>
    obtain ⟨name, old⟩ := entry
    obtain ⟨fresh, distinct⟩ := List.nodup_cons.1 distinct
    rw [set]
    split
    · next here =>
      subst here
      have kept : rest.map (fun entry => if entry.1 = name then (name, v) else entry) = rest :=
        (List.map_congr_left fun entry mem =>
          if_neg fun same => fresh (List.mem_map.2 ⟨entry, mem, same⟩)).trans (List.map_id rest)
      simp [names, kept]
    · next other =>
      rw [ih distinct]
      have mem : field ∈ names ((name, old) :: rest) ↔ field ∈ names rest := by
        simp [names, Ne.symm other]
      simp only [mem]
      split
      · simp [other]
      · rfl

/-- The first value of a name in two lists of entries. -/
theorem value?_append (entries more : Entries) (name : String) :
    value? (entries ++ more) name = (value? entries name).or (value? more name) := by
  rw [value?, List.find?_append, Option.map_or]
  rfl

/-- The order of entries with distinct names does not matter to the values. -/
theorem value?_reverse {entries : Entries} (distinct : entries.names.Nodup) (name : String) :
    value? entries.reverse name = value? entries name := by
  have reversed : (names entries.reverse).Nodup :=
    ((List.reverse_perm entries).map Prod.fst).nodup_iff.2 distinct
  exact Option.ext fun v => by
    rw [value?_eq_some reversed, value?_eq_some distinct, List.mem_reverse]

theorem value?_filter (field : String) (entries : Entries) (wanted : String) :
    value? (entries.filter fun entry => entry.1 != field) wanted
      = if field = wanted then none else value? entries wanted := by
  induction entries with
  | nil => simp
  | cons entry rest ih =>
    obtain ⟨name, v⟩ := entry
    by_cases h : name = field
    · subst h
      rw [List.filter_cons_of_neg (by simp), ih, value?_cons]
      split <;> rfl
    · rw [List.filter_cons_of_pos (by simpa using h), value?_cons, value?_cons, ih]
      by_cases hn : name = wanted
      · have hf : ¬ field = wanted := fun e => h (hn.trans e.symm)
        simp [hn, hf]
      · simp [hn]

theorem value?_map (f : String → Value → Value) (entries : Entries) (wanted : String) :
    value? (entries.map fun entry => (entry.1, f entry.1 entry.2)) wanted
      = (value? entries wanted).map (f wanted) := by
  induction entries with
  | nil => rfl
  | cons entry rest ih =>
    obtain ⟨name, v⟩ := entry
    rw [List.map_cons, value?_cons, value?_cons, ih]
    by_cases h : name = wanted
    · subst h
      simp
    · simp [h]

end Entries

namespace Record

/-! ## Names -/

theorem fields_set (r : Record) (field : String) (v : Value) :
    (r.set field v).fields = if field ∈ r.fields then r.fields else r.fields ++ [field] :=
  Entries.names_set field v r.entries

theorem fields_erase (r : Record) (field : String) :
    (r.erase field).fields = r.fields.filter (· != field) := by
  simp only [fields, erase, Entries.names, List.filter_map]
  rfl

theorem fields_mapValues (f : String → Value → Value) (r : Record) :
    (r.mapValues f).fields = r.fields := by
  simp only [fields, mapValues, Entries.names, List.map_map]
  rfl

theorem isEmpty_eq (r : Record) : r.isEmpty = r.fields.isEmpty := by
  simp [isEmpty, fields, Entries.names]

/-! ## Values -/

/-- A name is present when it has a value. -/
theorem mem_fields (r : Record) (field : String) : field ∈ r.fields ↔ (r.get? field).isSome :=
  (Entries.value?_isSome r.entries field).symm

theorem get?_eq_some_iff {r : Record} {field : String} {v : Value} :
    r.get? field = some v ↔ (field, v) ∈ r.entries :=
  Entries.value?_eq_some r.nodup

/-- The order of the entries does not matter to the values. -/
theorem get?_of_perm {r other : Record} (h : other.entries.Perm r.entries) (field : String) :
    other.get? field = r.get? field :=
  Option.ext fun v => by rw [get?_eq_some_iff, get?_eq_some_iff, h.mem_iff]

theorem get?_of_not_mem {r : Record} {field : String} (h : field ∉ r.fields) :
    r.get? field = none := by
  rw [mem_fields] at h
  simpa using h

@[simp] theorem get?_empty (field : String) : Record.empty.get? field = none := rfl

theorem get?_set (r : Record) (field : String) (v : Value) (wanted : String) :
    (r.set field v).get? wanted = if field = wanted then some v else r.get? wanted :=
  Entries.value?_set field v r.entries wanted

theorem get?_erase (r : Record) (field wanted : String) :
    (r.erase field).get? wanted = if field = wanted then none else r.get? wanted :=
  Entries.value?_filter field r.entries wanted

theorem get?_mapValues (f : String → Value → Value) (r : Record) (wanted : String) :
    (r.mapValues f).get? wanted = (r.get? wanted).map (f wanted) :=
  Entries.value?_map f r.entries wanted

/-- New fields are added at the end. -/
theorem entries_foldl_set (entries : Entries) : ∀ r : Record,
    (r.fields ++ entries.names).Nodup →
      (entries.foldl (fun r entry => r.set entry.1 entry.2) r).entries = r.entries ++ entries := by
  induction entries with
  | nil => exact fun r _ => (List.append_nil _).symm
  | cons entry rest ih =>
    intro r distinct
    obtain ⟨name, v⟩ := entry
    have fresh : name ∉ r.fields := fun old =>
      (List.nodup_append.1 distinct).2.2 name old name List.mem_cons_self rfl
    have added : (r.set name v).entries = r.entries ++ [(name, v)] :=
      (Entries.set_eq r.nodup).trans (if_neg fresh)
    have fields : (r.set name v).fields = r.fields ++ [name] := by
      rw [fields_set, if_neg fresh]
    rw [List.foldl_cons, ih, added, List.append_assoc]
    · rfl
    · rw [fields, List.append_assoc]
      exact distinct

/-- **The last value of a name** is that of the record. -/
theorem get?_foldl_set (entries : Entries) (name : String) : ∀ r : Record,
    (entries.foldl (fun r entry => r.set entry.1 entry.2) r).get? name
      = (Entries.value? entries.reverse name).or (r.get? name) := by
  induction entries with
  | nil => exact fun r => rfl
  | cons entry rest ih =>
    intro r
    have first : (Entries.value? [entry] name).or (r.get? name)
        = if entry.1 = name then some entry.2 else r.get? name := by
      rw [Entries.value?_cons]
      split <;> rfl
    rw [List.foldl_cons, ih, get?_set, List.reverse_cons, Entries.value?_append, Option.or_assoc,
      first]

/-- **A merged record** has the values of the other record, and its own where that has none. -/
theorem get?_merge (r other : Record) (wanted : String) :
    (r.merge other).get? wanted = (other.get? wanted).or (r.get? wanted) := by
  rw [merge, get?_foldl_set, Entries.value?_reverse other.nodup]
  rfl

/-- A field that is not there, or null, is unset. -/
theorem isUnset_of_not_mem {r : Record} {field : String} (h : field ∉ r.fields) :
    r.isUnset field = true := by
  rw [isUnset, get?_of_not_mem h]

theorem isUnset_congr {r other : Record} {field : String} (h : r.get? field = other.get? field) :
    r.isUnset field = other.isUnset field := by
  rw [isUnset, isUnset, h]

theorem isUnset_eq_true {r : Record} {field : String} :
    r.isUnset field = true ↔ r.get? field = none ∨ r.get? field = some .null := by
  unfold isUnset
  rcases r.get? field with _ | v
  · simp
  · cases v <;> simp [Value.isNull]

theorem isUnset_eq_false {r : Record} {field : String} :
    r.isUnset field = false ↔ ∃ v, r.get? field = some v ∧ v.isNull = false := by
  unfold isUnset
  cases r.get? field <;> simp

end Record

end RecordMapper
