import RecordMapper.Failure.Basic

/-!
# Records

A record is an ordered map from field names to values: a field keeps its place when its value is
replaced, and a new field goes to the end.

* The names of a record are distinct; the type carries the proof.
* `get?_set` says that a field reads as it was last set, and that other fields are not touched.
-/

namespace RecordMapper

/-- Fields and their values, in order. -/
abbrev Entries : Type := List (String × Value)

namespace Entries

/-- The names in order. -/
def names (entries : Entries) : List String :=
  entries.map (·.1)

/-- Gives a field a value, in its place or else at the end. -/
def set (field : String) (value : Value) : Entries → Entries
  | [] => [(field, value)]
  | (name, old) :: rest =>
    if name = field then (field, value) :: rest else (name, old) :: set field value rest

theorem names_set (field : String) (value : Value) (entries : Entries) :
    names (set field value entries)
      = if field ∈ names entries then names entries else names entries ++ [field] := by
  induction entries with
  | nil => simp [set, names]
  | cons entry rest ih =>
    obtain ⟨name, old⟩ := entry
    by_cases h : name = field
    · simp [set, names, h]
    · have h' : ¬ field = name := fun e => h e.symm
      simp only [set, if_neg h, names, List.map_cons, List.mem_cons, h', false_or]
      simp only [names] at ih
      rw [ih]
      split
      · next hm => simp [hm]
      · next hm => simp [hm]

theorem nodup_names_set (field : String) (value : Value) {entries : Entries}
    (h : (names entries).Nodup) : (names (set field value entries)).Nodup := by
  rw [names_set]
  split
  · exact h
  · next hn =>
    refine List.nodup_append.2 ⟨h, List.pairwise_singleton _ _, fun a ha b hb e => hn ?_⟩
    rw [List.mem_singleton] at hb
    exact hb ▸ e ▸ ha

end Entries

/-- An ordered map from field names to values. -/
structure Record where
  /-- The fields and their values, in order. -/
  entries : Entries
  /-- No name occurs twice. -/
  nodup : entries.names.Nodup
deriving DecidableEq, Repr

namespace Record

/-- The record without fields. -/
def empty : Record := ⟨[], List.Pairwise.nil⟩

instance : Inhabited Record := ⟨empty⟩
instance : EmptyCollection Record := ⟨empty⟩

/-! ## Reading -/

/-- The names in order. -/
def fields (r : Record) : List String :=
  r.entries.names

/-- The number of fields. -/
def size (r : Record) : Nat :=
  r.entries.length

/-- Whether there are no fields. -/
def isEmpty (r : Record) : Bool :=
  r.entries.isEmpty

/-- The value of a field. -/
def get? (r : Record) (field : String) : Option Value :=
  (r.entries.find? fun entry => entry.1 == field).map (·.2)

/-- Whether a field is present, be it with null. -/
def contains (r : Record) (field : String) : Bool :=
  r.fields.contains field

/-- Whether a field is absent or null. -/
def isUnset (r : Record) (field : String) : Bool :=
  match r.get? field with
  | some v => v.isNull
  | none => true

/-! ## Changing -/

/-- Gives a field a value, in its place or else at the end. -/
def set (r : Record) (field : String) (value : Value) : Record :=
  ⟨r.entries.set field value, Entries.nodup_names_set field value r.nodup⟩

/-- The record of a list of fields and values, of which the last with a name counts. -/
def ofEntries (entries : Entries) : Record :=
  entries.foldl (fun r entry => r.set entry.1 entry.2) empty

/-- The record without a field. -/
def erase (r : Record) (field : String) : Record where
  entries := r.entries.filter fun entry => entry.1 != field
  nodup := by
    have h : (Entries.names (r.entries.filter fun entry => entry.1 != field)).Sublist
        r.entries.names :=
      List.Sublist.map _ (List.filter_sublist)
    exact List.Nodup.sublist h r.nodup

/-- Sets every field of another record. -/
def merge (r other : Record) : Record :=
  other.entries.foldl (fun r entry => r.set entry.1 entry.2) r

/-- The record with every value replaced by a function of its field and itself. -/
def mapValues (f : String → Value → Value) (r : Record) : Record where
  entries := r.entries.map fun entry => (entry.1, f entry.1 entry.2)
  nodup := by
    have h : Entries.names (r.entries.map fun entry => (entry.1, f entry.1 entry.2))
        = r.entries.names := by
      simp [Entries.names, Function.comp_def]
    rw [h]
    exact r.nodup

/-! ## Documents and text -/

/-- The object that a record is sent as. -/
def toDocument (r : Record) : Document :=
  .ofEntries (r.entries.map fun entry => (entry.1, entry.2.toDocument))

/-- The record of an object's entries. -/
def ofObject (entries : List (String × Document)) : Record :=
  ofEntries (entries.map fun entry => (entry.1, Value.ofDocument entry.2))

/-- The record that an object stands for. -/
def ofDocument : Document → Except Error Record
  | .object entries => .ok (ofObject entries)
  | d => .error (.conversion (.notAnObject d))

/-- A record as messages show it. -/
def display (r : Record) : String :=
  "\x7b" ++ ", ".intercalate (r.entries.map fun entry => entry.1 ++ ": " ++ entry.2.display)
    ++ "\x7d"

end Record

end RecordMapper
