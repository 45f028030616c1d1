import RecordMapper.Proofs.Storage

/-!
# Edits of records

A record is a list of pairs that is meant to be an ordered map. This file edits three things side
by side: a bare list of pairs, which no type keeps free of repeated names (`Entries.edit`), a
record (`Record.edit`), and a map that has its names in order and, apart from them, a value for
each name (`OrderedMap.edit`).

* `Edit.run` makes edits one after another. `Edit.run_view` carries a view of the state, and
  `Edit.run_keeps` a property of it, from one edit to all of them.
* `Entries.nodup_edit` and `Record.entries_edit`: no edit of a list repeats a name, and the edits
  of a record are those of its list.
* `Record.view_edit`: the edits of a record are those of the map that it stands for.
* `Record.Laws` is what a change does to the names and values of a record, one by one.
* `Edit.run_keeps_map` puts them together for every run.
-/

namespace RecordMapper

/-- Something that is done to a record. -/
inductive Edit where
  /-- A field is given a value. -/
  | set (field : String) (v : Value)
  /-- A field is removed. -/
  | remove (field : String)
  /-- Every field of another record is set. -/
  | merge (other : Record)
  /-- The record is made anew of pairs, in which names may be repeated. -/
  | collect (pairs : Entries)
  /-- The record is made anew of a document. -/
  | read (d : Document)
  /-- The record is brought into its stored form. -/
  | encode (s : Schema)
  /-- The record is read back as a row. -/
  | hydrate (s : Schema)

namespace Edit

/-- What is said to an edit: the value that was removed, if any, or why nothing was done. -/
abbrev Reply : Type := Except Error (Option Value)

/-- Edits one after another, with what is said to each of them. -/
def run {σ : Type} (step : Edit → σ → Reply × σ) : List Edit → σ → List Reply × σ
  | [], state => ([], state)
  | e :: rest, state =>
    let (reply, next) := step e state
    let (replies, last) := run step rest next
    (reply :: replies, last)

variable {σ τ : Type} {step : Edit → σ → Reply × σ} {step' : Edit → τ → Reply × τ}

/-- A view that every edit respects is respected by a run. -/
theorem run_view {view : σ → τ}
    (respects : ∀ e state, step' e (view state) = Prod.map id view (step e state))
    (edits : List Edit) : ∀ state,
      run step' edits (view state) = Prod.map id view (run step edits state) := by
  induction edits with
  | nil => exact fun state => rfl
  | cons e rest ih =>
    intro state
    have first : step' e (view state) = ((step e state).1, view (step e state).2) :=
      respects e state
    have later := ih (step e state).2
    simp only [run, first, later]
    rfl

/-- A property that every edit keeps is kept by a run. -/
theorem run_keeps {P : σ → Prop} (keeps : ∀ e state, P state → P (step e state).2)
    (edits : List Edit) : ∀ state, P state → P (run step edits state).2 := by
  induction edits with
  | nil => exact fun state holds => holds
  | cons e rest ih => exact fun state holds => ih (step e state).2 (keeps e state holds)

end Edit

namespace Schema

/-- A value as it is stored under a name: as that of the field of this name, if there is one. -/
def storedUnder (s : Schema) (name : String) (v : Value) : Value :=
  match s.field? name with
  | some f => f.kind.encode v
  | none => v

end Schema

/-! ## Bare lists -/

namespace Entries

/-- Takes the first entry of a name out of a list, and gives its value. -/
def takeOut (field : String) : Entries → Option Value × Entries
  | [] => (none, [])
  | entry :: rest =>
    if entry.1 = field then (some entry.2, rest)
    else
      let (taken, left) := takeOut field rest
      (taken, entry :: left)

/-- Sets the pairs of a list one after another. -/
def setAll (pairs entries : Entries) : Entries :=
  pairs.foldl (fun entries pair => set pair.1 pair.2 entries) entries

/-- The list that pairs are collected into. -/
def collect (pairs : Entries) : Entries :=
  setAll pairs []

/-- An edit of a list of pairs. What is read from a document, stored or read back is collected
anew. -/
def edit : Edit → Entries → Edit.Reply × Entries
  | .set field v, entries => (.ok none, set field v entries)
  | .remove field, entries =>
    let (taken, left) := takeOut field entries
    (.ok taken, left)
  | .merge other, entries => (.ok none, setAll other.entries entries)
  | .collect pairs, _ => (.ok none, collect pairs)
  | .read (.object members), _ =>
    (.ok none, collect (members.map fun member => (member.1, .ofDocument member.2)))
  | .read d, entries => (.error (.conversion (.notAnObject d)), entries)
  | .encode s, entries =>
    (.ok none, collect (entries.map fun entry => (entry.1, s.storedUnder entry.1 entry.2)))
  | .hydrate s, entries =>
    (.ok none, collect (entries.map fun entry => (entry.1, s.readUnder entry.1 entry.2)))

theorem takeOut_sublist (field : String) (entries : Entries) :
    (takeOut field entries).2.Sublist entries := by
  induction entries with
  | nil => exact List.Sublist.slnil
  | cons entry rest ih =>
    rw [takeOut]
    split
    · exact List.sublist_cons_self entry rest
    · exact ih.cons_cons entry

/-- Where names are distinct, the entry that is taken out is the only one of its name. -/
theorem takeOut_eq (field : String) {entries : Entries} (distinct : entries.names.Nodup) :
    takeOut field entries
      = (value? entries field, entries.filter fun entry => entry.1 != field) := by
  induction entries with
  | nil => rfl
  | cons entry rest ih =>
    obtain ⟨name, v⟩ := entry
    obtain ⟨fresh, distinct⟩ := List.nodup_cons.1 distinct
    rw [takeOut, value?_cons]
    by_cases here : name = field
    · subst here
      have others : (rest.filter fun entry => entry.1 != name) = rest := by
        apply List.filter_eq_self.2
        intro entry mem
        exact bne_iff_ne.2 fun same => fresh (List.mem_map.2 ⟨entry, mem, same⟩)
      simp [others]
    · simp [here, ih distinct]

theorem nodup_setAll (pairs : Entries) : ∀ {entries : Entries}, entries.names.Nodup →
    (setAll pairs entries).names.Nodup := by
  induction pairs with
  | nil => exact fun distinct => distinct
  | cons pair rest ih => exact fun distinct => ih (nodup_names_set pair.1 pair.2 distinct)

theorem nodup_collect (pairs : Entries) : (collect pairs).names.Nodup :=
  nodup_setAll pairs List.Pairwise.nil

/-- **No edit repeats a name.** -/
theorem nodup_edit (e : Edit) (entries : Entries) (distinct : entries.names.Nodup) :
    (edit e entries).2.names.Nodup := by
  cases e with
  | set field v => exact nodup_names_set field v distinct
  | remove field => exact distinct.sublist ((takeOut_sublist field entries).map Prod.fst)
  | merge other => exact nodup_setAll other.entries distinct
  | collect pairs => exact nodup_collect pairs
  | read d =>
    cases d
    case object members => exact nodup_collect _
    all_goals exact distinct
  | encode s => exact nodup_collect _
  | hydrate s => exact nodup_collect _

end Entries

/-! ## Ordered maps -/

/-- A map that has its names in order. The values are apart from the names: what belongs together
is up to those who change it. -/
@[ext]
structure OrderedMap where
  /-- The names in order. -/
  order : List String
  /-- The value of a name. -/
  value? : String → Option Value

namespace OrderedMap

/-- The map without names. -/
def empty : OrderedMap := ⟨[], fun _ => none⟩

/-- Gives a name a value; one without a value comes last. -/
def insert (field : String) (v : Value) (m : OrderedMap) : OrderedMap where
  order := if (m.value? field).isSome then m.order else m.order ++ [field]
  value? name := if field = name then some v else m.value? name

/-- The map without a name. -/
def erase (field : String) (m : OrderedMap) : OrderedMap where
  order := m.order.filter (· != field)
  value? name := if field = name then none else m.value? name

/-- The map with the values of another one, where that has a value. Its new names come last, in
their order. -/
def overlay (m other : OrderedMap) : OrderedMap where
  order := m.order ++ other.order.filter fun name => (m.value? name).isNone
  value? name := (other.value? name).or (m.value? name)

/-- The map of pairs: a name comes where it occurs first, with the value that it has last. -/
def ofPairs (pairs : Entries) : OrderedMap where
  order := pairs.names.eraseDups
  value? name := Entries.value? pairs.reverse name

/-- The map with every value replaced by a function of its name and itself. -/
def mapValues (f : String → Value → Value) (m : OrderedMap) : OrderedMap where
  order := m.order
  value? name := (m.value? name).map (f name)

end OrderedMap

namespace Record

/-- The map that a record stands for. -/
def view (r : Record) : OrderedMap := ⟨r.fields, r.get?⟩

/-- An edit of a record. -/
def edit : Edit → Record → Edit.Reply × Record
  | .set field v, r => (.ok none, r.set field v)
  | .remove field, r => (.ok (r.get? field), r.erase field)
  | .merge other, r => (.ok none, r.merge other)
  | .collect pairs, _ => (.ok none, .ofEntries pairs)
  | .read d, r =>
    match ofDocument d with
    | .ok made => (.ok none, made)
    | .error e => (.error e, r)
  | .encode s, r => (.ok none, s.encode r)
  | .hydrate s, r => (.ok none, s.hydrate r)

end Record

/-- An edit of an ordered map. -/
def OrderedMap.edit : Edit → OrderedMap → Edit.Reply × OrderedMap
  | .set field v, m => (.ok none, m.insert field v)
  | .remove field, m => (.ok (m.value? field), m.erase field)
  | .merge other, m => (.ok none, m.overlay other.view)
  | .collect pairs, _ => (.ok none, .ofPairs pairs)
  | .read (.object members), _ =>
    (.ok none, .ofPairs (members.map fun member => (member.1, .ofDocument member.2)))
  | .read d, m => (.error (.conversion (.notAnObject d)), m)
  | .encode s, m => (.ok none, m.mapValues s.storedUnder)
  | .hydrate s, m => (.ok none, m.mapValues s.readUnder)

namespace Record

/-! ## Records and their lists -/

theorem entries_setAll (pairs : Entries) (r : Record) :
    Entries.setAll pairs r.entries
      = (pairs.foldl (fun r pair => r.set pair.1 pair.2) r).entries :=
  List.foldl_hom Record.entries fun _ _ => rfl

theorem entries_collect (pairs : Entries) : Entries.collect pairs = (ofEntries pairs).entries :=
  entries_setAll pairs empty

/-- A record is made of its own entries again. -/
theorem ofEntries_entries (r : Record) : ofEntries r.entries = r := by
  have collected : (ofEntries r.entries).entries = r.entries :=
    entries_foldl_set r.entries empty r.nodup
  rw [Record.mk.injEq]
  exact collected

/-- Values that are replaced one by one need not be collected anew. -/
theorem collect_mapValues (f : String → Value → Value) (r : Record) :
    Entries.collect (r.entries.map fun entry => (entry.1, f entry.1 entry.2))
      = (r.mapValues f).entries := by
  have collected := congrArg entries (ofEntries_entries (r.mapValues f))
  rw [← entries_collect] at collected
  exact collected

/-- **The edits of a record are those of its list.** -/
theorem entries_edit (e : Edit) (r : Record) :
    Entries.edit e r.entries = Prod.map id entries (r.edit e) := by
  cases e with
  | set field v => rfl
  | remove field =>
    simp only [Entries.edit, Entries.takeOut_eq field r.nodup]
    rfl
  | merge other => exact congrArg (Prod.mk _) (entries_setAll other.entries r)
  | collect pairs => exact congrArg (Prod.mk _) (entries_collect pairs)
  | read d =>
    cases d
    case object members => exact congrArg (Prod.mk _) (entries_collect _)
    all_goals rfl
  | encode s => exact congrArg (Prod.mk _) (collect_mapValues s.storedUnder r)
  | hydrate s => exact congrArg (Prod.mk _) (collect_mapValues s.readUnder r)

/-! ## Records and their maps -/

/-- Distinct names are those that are left of them without repetitions. -/
theorem eraseDups_of_nodup {names : List String} (distinct : names.Nodup) :
    names.eraseDups = names := by
  induction names with
  | nil => rfl
  | cons name rest ih =>
    obtain ⟨fresh, distinct⟩ := List.nodup_cons.1 distinct
    have others : rest.filter (fun other => !other == name) = rest := by
      apply List.filter_eq_self.2
      intro other mem
      have differs : other ≠ name := fun same => fresh (same ▸ mem)
      simpa using differs
    rw [List.eraseDups_cons, others, ih distinct]

/-- The names of a record that was set many fields, one after another. -/
theorem fields_foldl_set (pairs : Entries) : ∀ r : Record,
    (pairs.foldl (fun r pair => r.set pair.1 pair.2) r).fields
      = r.fields ++ (pairs.names.filter (· ∉ r.fields)).eraseDups := by
  induction pairs with
  | nil => exact fun r => (List.append_nil _).symm
  | cons pair rest ih =>
    intro r
    obtain ⟨name, v⟩ := pair
    rw [List.foldl_cons, ih, fields_set]
    change _ = _ ++ (List.filter _ (name :: Entries.names rest)).eraseDups
    split
    · next old => rw [List.filter_cons_of_neg (by simpa using old)]
    · next fresh =>
      -- the names that come later are new if they are neither among the old ones nor this one
      have later : (Entries.names rest).filter (· ∉ r.fields ++ [name])
          = ((Entries.names rest).filter (· ∉ r.fields)).filter (fun other => !other == name) := by
        rw [List.filter_filter]
        apply List.filter_congr
        intro other _
        simp only [List.mem_append, List.mem_singleton, not_or, Bool.decide_and, decide_not]
        exact Bool.and_comm _ _
      rw [List.filter_cons_of_pos (by simpa using fresh), List.eraseDups_cons, later,
        List.append_assoc]
      rfl

theorem view_set (r : Record) (field : String) (v : Value) :
    (r.set field v).view = r.view.insert field v := by
  apply OrderedMap.ext
  · change (r.set field v).fields
      = if (r.get? field).isSome then r.fields else r.fields ++ [field]
    simp only [fields_set, mem_fields]
  · funext name
    exact get?_set r field v name

theorem view_erase (r : Record) (field : String) :
    (r.erase field).view = r.view.erase field := by
  apply OrderedMap.ext
  · exact fields_erase r field
  · funext name
    exact get?_erase r field name

theorem view_merge (r other : Record) : (r.merge other).view = r.view.overlay other.view := by
  apply OrderedMap.ext
  · have distinct : (other.fields.filter (· ∉ r.fields)).Nodup := other.nodup.filter _
    change (r.merge other).fields
      = r.fields ++ other.fields.filter fun name => (r.get? name).isNone
    rw [merge, fields_foldl_set]
    change r.fields ++ (other.fields.filter (· ∉ r.fields)).eraseDups = _
    rw [eraseDups_of_nodup distinct]
    apply congrArg (r.fields ++ ·)
    apply List.filter_congr
    intro name _
    simp only [mem_fields]
    cases r.get? name <;> rfl
  · funext name
    exact get?_merge r other name

theorem view_ofEntries (pairs : Entries) : (ofEntries pairs).view = .ofPairs pairs := by
  apply OrderedMap.ext
  · have none : pairs.names.filter (· ∉ empty.fields) = pairs.names :=
      List.filter_eq_self.2 fun name _ => by simp [empty, fields, Entries.names]
    change (ofEntries pairs).fields = pairs.names.eraseDups
    rw [ofEntries, fields_foldl_set, none]
    rfl
  · funext name
    change (ofEntries pairs).get? name = Entries.value? pairs.reverse name
    rw [ofEntries, get?_foldl_set, get?_empty, Option.or_none]

theorem view_mapValues (f : String → Value → Value) (r : Record) :
    (r.mapValues f).view = r.view.mapValues f := by
  apply OrderedMap.ext
  · exact fields_mapValues f r
  · funext name
    exact get?_mapValues f r name

/-- **The edits of a record are those of its map.** -/
theorem view_edit (e : Edit) (r : Record) : r.view.edit e = Prod.map id view (r.edit e) := by
  cases e with
  | set field v => exact congrArg (Prod.mk _) (view_set r field v).symm
  | remove field => exact congrArg (Prod.mk _) (view_erase r field).symm
  | merge other => exact congrArg (Prod.mk _) (view_merge r other).symm
  | collect pairs => exact congrArg (Prod.mk _) (view_ofEntries pairs).symm
  | read d =>
    cases d
    case object members => exact congrArg (Prod.mk _) (view_ofEntries _).symm
    all_goals rfl
  | encode s => exact congrArg (Prod.mk _) (view_mapValues s.storedUnder r).symm
  | hydrate s => exact congrArg (Prod.mk _) (view_mapValues s.readUnder r).symm

/-- Entries are their names, each with its value. -/
theorem entries_of_values {value? : String → Option Value} {entries : Entries}
    (values : ∀ entry ∈ entries, value? entry.1 = some entry.2) :
    (Entries.names entries).filterMap (fun name => (value? name).map (name, ·)) = entries := by
  induction entries with
  | nil => rfl
  | cons entry rest ih =>
    have first : value? entry.1 = some entry.2 := values entry List.mem_cons_self
    have later := ih fun entry mem => values entry (List.mem_cons_of_mem _ mem)
    rw [Entries.names, List.map_cons, List.filterMap_cons, first]
    exact congrArg (entry :: ·) later

/-- A record is its names and their values. -/
theorem eq_of_view {r other : Record} (same : r.view = other.view) : r = other := by
  have names : r.fields = other.fields := congrArg OrderedMap.order same
  have values : r.get? = other.get? := congrArg OrderedMap.value? same
  have each (r : Record) :
      r.fields.filterMap (fun name => (r.get? name).map (name, ·)) = r.entries :=
    entries_of_values fun _ mem => get?_eq_some_iff.2 mem
  have entries : r.entries = other.entries := by
    rw [← each r, ← each other, names, values]
  rw [Record.mk.injEq]
  exact entries

/-! ## What single changes do -/

theorem entries_set_of_mem {r : Record} {field : String} (present : field ∈ r.fields) (v : Value) :
    (r.set field v).entries
      = r.entries.map fun entry => if entry.1 = field then (field, v) else entry :=
  (Entries.set_eq r.nodup).trans (if_pos present)

theorem entries_set_of_not_mem {r : Record} {field : String} (fresh : field ∉ r.fields)
    (v : Value) : (r.set field v).entries = r.entries ++ [(field, v)] :=
  (Entries.set_eq r.nodup).trans (if_neg fresh)

/-- A list is left as it is by taking out a name that it does not have. -/
theorem filter_of_not_mem {entries : Entries} {field : String} (absent : field ∉ entries.names) :
    (entries.filter fun entry => entry.1 != field) = entries := by
  apply List.filter_eq_self.2
  intro entry mem
  have differs : entry.1 ≠ field := fun same => absent (List.mem_map.2 ⟨entry, mem, same⟩)
  simpa using differs

/-- Where a record has a field, it is erased between what comes before it and what comes after
it. -/
theorem entries_erase {r : Record} {before after : Entries} {field : String} {v : Value}
    (split : r.entries = before ++ (field, v) :: after) :
    (r.erase field).entries = before ++ after := by
  have distinct : (Entries.names before ++ field :: Entries.names after).Nodup := by
    have names : r.entries.names = Entries.names before ++ field :: Entries.names after := by
      rw [split, Entries.names, List.map_append]
      rfl
    exact names ▸ r.nodup
  obtain ⟨-, rest, apart⟩ := List.nodup_append.1 distinct
  have notBefore : field ∉ Entries.names before := fun mem =>
    apart field mem field List.mem_cons_self rfl
  have notAfter : field ∉ Entries.names after := (List.nodup_cons.1 rest).1
  change (r.entries.filter fun entry => entry.1 != field) = before ++ after
  rw [split, List.filter_append, List.filter_cons_of_neg (by simp), filter_of_not_mem notBefore,
    filter_of_not_mem notAfter]

theorem erase_of_not_mem {r : Record} {field : String} (absent : field ∉ r.fields) :
    r.erase field = r := by
  rw [Record.mk.injEq]
  exact filter_of_not_mem absent

/-- Setting one field after another is a run of edits. -/
theorem run_sets (pairs : Entries) : ∀ r : Record,
    (Edit.run edit (pairs.map fun pair => .set pair.1 pair.2) r).2
      = pairs.foldl (fun r pair => r.set pair.1 pair.2) r := by
  induction pairs with
  | nil => exact fun r => rfl
  | cons pair rest ih => exact fun r => ih (r.set pair.1 pair.2)

/-- Merging a record whose values are all there already does nothing. -/
theorem merge_eq_self {r other : Record}
    (same : ∀ name v, other.get? name = some v → r.get? name = some v) : r.merge other = r := by
  apply eq_of_view
  rw [view_merge]
  apply OrderedMap.ext
  · have old : other.fields.filter (fun name => (r.get? name).isNone) = [] := by
      apply List.filter_eq_nil_iff.2
      intro name mem
      obtain ⟨v, value⟩ := Option.isSome_iff_exists.1 ((mem_fields other name).1 mem)
      simp [same name v value]
    change r.fields ++ other.fields.filter (fun name => (r.get? name).isNone) = r.fields
    rw [old, List.append_nil]
  · funext name
    change (other.get? name).or (r.get? name) = r.get? name
    rcases value : other.get? name with _ | v
    · rfl
    · exact (same name v value).symm

/-- What changes do to the names and values of a record. -/
structure Laws (r : Record) : Prop where
  /-- A field that is there keeps its place when it is set, and only its value changes. -/
  set_present : ∀ {field}, field ∈ r.fields → ∀ v, (r.set field v).entries
    = r.entries.map fun entry => if entry.1 = field then (field, v) else entry
  /-- A new field comes last. -/
  set_new : ∀ {field}, field ∉ r.fields → ∀ v, (r.set field v).entries = r.entries ++ [(field, v)]
  /-- A field has the value that it was set. -/
  get_set : ∀ field v, (r.set field v).get? field = some v
  /-- The other fields have their values still. -/
  get_set_other : ∀ {field other}, other ≠ field → ∀ v,
    (r.set field v).get? other = r.get? other
  /-- Removing a field gives its value. It takes its entry, and leaves what is before and after. -/
  remove_present : ∀ {before after field v}, r.entries = before ++ (field, v) :: after →
    (r.edit (.remove field)).1 = .ok (some v)
      ∧ (r.edit (.remove field)).2.entries = before ++ after
  /-- Removing a field that is not there gives nothing and does nothing. -/
  remove_absent : ∀ {field}, field ∉ r.fields → r.edit (.remove field) = (.ok none, r)
  /-- A merge sets the fields of the other record one after another. -/
  merge_sets : ∀ other : Record, r.merge other
    = (Edit.run edit (other.entries.map fun entry => .set entry.1 entry.2) r).2
  /-- The values of the other record win. -/
  merge_right : ∀ {other : Record} {name v}, other.get? name = some v →
    (r.merge other).get? name = some v
  /-- Where the other record has none, the values stay. -/
  merge_left : ∀ {other : Record} {name}, name ∉ other.fields →
    (r.merge other).get? name = r.get? name
  /-- Merging a record once more does nothing, and neither does merging a record with itself. -/
  merge_again : ∀ other : Record, (r.merge other).merge other = r.merge other ∧ r.merge r = r
  /-- The stored form has the same names in the same order, and the stored values. -/
  encode_keeps : ∀ s : Schema, (s.encode r).fields = r.fields
    ∧ ∀ name, (s.encode r).get? name = (r.get? name).map (s.storedUnder name)
  /-- What is read back has the same names in the same order, and the values that are read. -/
  hydrate_keeps : ∀ s : Schema, (s.hydrate r).fields = r.fields
    ∧ ∀ name, (s.hydrate r).get? name = (r.get? name).map (s.readUnder name)

theorem laws (r : Record) : r.Laws where
  set_present present v := entries_set_of_mem present v
  set_new fresh v := entries_set_of_not_mem fresh v
  get_set field v := by rw [get?_set, if_pos rfl]
  get_set_other differs v := by rw [get?_set, if_neg differs.symm]
  remove_present {before after field v} split := by
    have value : r.get? field = some v := get?_eq_some_iff.2 (split ▸ by simp)
    constructor
    · exact congrArg Except.ok value
    · exact entries_erase split
  remove_absent absent := by
    rw [edit, get?_of_not_mem absent, erase_of_not_mem absent]
  merge_sets other := (run_sets other.entries r).symm
  merge_right {other name v} value := by
    rw [get?_merge, value]
    rfl
  merge_left {other name} absent := by
    rw [get?_merge, get?_of_not_mem absent]
    rfl
  merge_again other := by
    constructor
    · apply merge_eq_self
      intro name v value
      rw [get?_merge, value]
      rfl
    · exact merge_eq_self fun name v value => value
  encode_keeps s := ⟨fields_mapValues s.storedUnder r, get?_mapValues s.storedUnder r⟩
  hydrate_keeps s := ⟨fields_mapValues s.readUnder r, get?_mapValues s.readUnder r⟩

end Record

/-! ## Runs of edits -/

namespace Edit

/-- What holds after edits of a record that was empty at first. -/
structure Tracked (edits : List Edit) : Prop where
  /-- The bare list that was edited in the same way repeats no name. -/
  distinct : (run Entries.edit edits []).2.names.Nodup
  /-- It has the entries of the record, and the same was said to every edit. -/
  list : run Entries.edit edits [] = Prod.map id Record.entries (run Record.edit edits .empty)
  /-- The map that was edited in the same way is that of the record, and the same was said to
  every edit. -/
  map : run OrderedMap.edit edits .empty = Prod.map id Record.view (run Record.edit edits .empty)
  /-- The names in the order of the map are those that have a value in it. -/
  ordered : ∀ name, name ∈ (run OrderedMap.edit edits .empty).2.order
    ↔ ((run OrderedMap.edit edits .empty).2.value? name).isSome
  /-- Every further change does what it should. -/
  laws : (run Record.edit edits .empty).2.Laws

/-- Every record is reached by edits. -/
theorem run_collect (r : Record) : (run Record.edit [.collect r.entries] .empty).2 = r :=
  Record.ofEntries_entries r

/-- **Records are ordered maps.** However a record is edited, the list of pairs that it is never
has a name twice, and it is and answers what an ordered map is and answers after the same edits. -/
theorem run_tracks_ordered_map (edits : List Edit) : Tracked edits where
  distinct := run_keeps Entries.nodup_edit edits [] List.Pairwise.nil
  list := run_view Record.entries_edit edits Record.empty
  map := run_view Record.view_edit edits Record.empty
  ordered name := by
    have last : (run OrderedMap.edit edits .empty).2 = (run Record.edit edits .empty).2.view :=
      congrArg Prod.snd (run_view Record.view_edit edits Record.empty)
    rw [last]
    exact Record.mem_fields _ name
  laws := Record.laws _

/-- A repeated name stays where it was first, with its last value; a removed one comes back at the
end. -/
example : run Record.edit
      [.collect [("a", .int 1), ("b", .int 2), ("a", .int 3)], .remove "b", .set "c" .null,
        .set "b" (.int 4)] .empty
    = ([.ok none, .ok (some (.int 2)), .ok none, .ok none],
      .ofEntries [("a", .int 3), ("c", .null), ("b", .int 4)]) := by
  rfl

end Edit

end RecordMapper
