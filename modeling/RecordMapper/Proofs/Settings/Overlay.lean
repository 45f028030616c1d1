import RecordMapper.Proofs.Document.Entries
import RecordMapper.Proofs.Document.ReadBack
import RecordMapper.Settings.Loading

/-!
# Documents laid over each other

What stands at a place of a document that is laid over another.

* `Document.Ordered`: the keys of every object are in order. So it is in documents that are read
  from a text (`Document.ordered_ofText?`).
* `Document.at?` is what a path of keys leads to, and `Document.Along` says that no other value
  stands in the way of a path.
* `Document.at?_overlay`: the upper document counts where it has a value, and elsewhere the lower
  one does, however deep the place is.
-/

namespace RecordMapper.Document

/-! ## Objects in order -/

/-- The keys of every object are in increasing order. -/
def Ordered (d : Document) : Prop :=
  ∀ entries, Within (.object entries) d → entries.Pairwise fun a b => a.1 < b.1

theorem Ordered.value {entries : List (String × Document)} (h : Ordered (.object entries))
    {key : String} {value : Document} (here : valueAt? key entries = some value) : value.Ordered :=
  fun inner within => h inner (.value (mem_of_valueAt? here) within)

theorem ordered_array {items : List Document} (h : ∀ e ∈ items, e.Ordered) :
    Ordered (.array items) := by
  intro entries within
  cases within with
  | item he inner => exact h _ he entries inner

theorem ordered_object {entries : List (String × Document)}
    (ascending : entries.Pairwise fun a b => a.1 < b.1) (h : ∀ entry ∈ entries, entry.2.Ordered) :
    Ordered (.object entries) := by
  intro inner within
  cases within with
  | self => exact ascending
  | value he within => exact h _ he inner within

/-- Collected entries stand in order. -/
theorem ordered_ofEntries {entries : List (String × Document)}
    (h : ∀ entry ∈ entries, entry.2.Ordered) : (ofEntries entries).Ordered :=
  ordered_object (pairwise_collected entries) fun entry he => h entry (mem_of_mem_collected he)

mutual

/-- What is written denotes a document in order. -/
theorem ordered_ofRaw? (levels : Nat) : ∀ {raw : RawDocument} {d : Document},
    ofRaw? levels raw = some d → d.Ordered
  | .null, d, h => by
    cases h
    exact nofun
  | .bool b, d, h => by
    cases h
    exact nofun
  | .number n, d, h => by
    rw [ofRaw?, Option.map_eq_some_iff] at h
    obtain ⟨_, -, rfl⟩ := h
    exact nofun
  | .text cs, d, h => by
    rw [ofRaw?, Option.map_eq_some_iff] at h
    obtain ⟨_, -, rfl⟩ := h
    exact nofun
  | .array items, d, h => by
    rw [ofRaw?, Option.ite_none_left_eq_some, Option.map_eq_some_iff] at h
    obtain ⟨-, ds, read, rfl⟩ := h
    exact ordered_array (ordered_ofRawItems? (levels - 1) read)
  | .object entries, d, h => by
    rw [ofRaw?, Option.ite_none_left_eq_some, Option.map_eq_some_iff] at h
    obtain ⟨-, ds, read, rfl⟩ := h
    exact ordered_ofEntries (ordered_ofRawEntries? (levels - 1) read)

/-- So it is with items, -/
theorem ordered_ofRawItems? (levels : Nat) : ∀ {raws : List RawDocument} {ds : List Document},
    ofRawItems? levels raws = some ds → ∀ d ∈ ds, d.Ordered
  | [], ds, h => by
    cases h
    exact nofun
  | raw :: rest, ds, h => by
    rw [ofRawItems?] at h
    split at h
    · next d others first later =>
      cases h
      exact List.forall_mem_cons.2 ⟨ordered_ofRaw? levels first, ordered_ofRawItems? levels later⟩
    · cases h

/-- and with entries. -/
theorem ordered_ofRawEntries? (levels : Nat) :
    ∀ {raws : List (List RawChar × RawDocument)} {ds : List (String × Document)},
      ofRawEntries? levels raws = some ds → ∀ entry ∈ ds, entry.2.Ordered
  | [], ds, h => by
    cases h
    exact nofun
  | (key, raw) :: rest, ds, h => by
    rw [ofRawEntries?] at h
    split at h
    · next k d others _ first later =>
      cases h
      exact List.forall_mem_cons.2 ⟨ordered_ofRaw? levels first, ordered_ofRawEntries? levels later⟩
    · cases h

end

/-- **Documents that are read from a text** are in order. -/
theorem ordered_ofText? {text : String} {d : Document} (h : ofText? text = some d) : d.Ordered := by
  obtain ⟨raw, -, read⟩ := Option.bind_eq_some_iff.1 h
  exact ordered_ofRaw? maxDepth read

/-! ## Places -/

/-- The value that a path of keys leads to. -/
def at? : List String → Document → Option Document
  | [], d => some d
  | key :: path, .object entries => (valueAt? key entries).bind (at? path)
  | _ :: _, _ => none

/-- A document is an object, and so is every value on the way along a path. -/
def Along : List String → Document → Prop
  | [], _ => True
  | key :: path, d =>
    ∃ entries, d = .object entries ∧ ∀ value, valueAt? key entries = some value → Along path value

@[simp] theorem at?_nil (d : Document) : d.at? [] = some d := rfl

@[simp] theorem at?_object (key : String) (path : List String)
    (entries : List (String × Document)) :
    at? (key :: path) (.object entries) = (valueAt? key entries).bind (at? path) := rfl

theorem at?_single (key : String) (entries : List (String × Document)) :
    at? [key] (.object entries) = valueAt? key entries := by
  rw [at?_object]
  cases valueAt? key entries <;> rfl

/-- A path leads somewhere in an object only. -/
theorem at?_cons_eq_some {key : String} {path : List String} {d e : Document} :
    d.at? (key :: path) = some e ↔ ∃ entries value,
      d = .object entries ∧ valueAt? key entries = some value ∧ value.at? path = some e := by
  constructor
  · intro h
    cases d with
    | object entries =>
      obtain ⟨value, here, there⟩ := Option.bind_eq_some_iff.1 h
      exact ⟨entries, value, rfl, here, there⟩
    | null | bool | number | text | array => cases h
  · rintro ⟨entries, value, rfl, here, there⟩
    rw [at?_object, here]
    exact there

/-! ## Laying documents over each other -/

theorem overlayEntries_cons (below : List (String × Document)) (key : String) (value : Document)
    (rest : List (String × Document)) : overlayEntries below ((key, value) :: rest)
      = overlayEntries
          (setEntry key (((valueAt? key below).map (overlay · value)).getD value) below) rest := by
  rw [overlayEntries]
  cases valueAt? key below <;> rfl

/-- What a key has in an object that is laid over another. -/
theorem valueAt?_overlayEntries {entries : List (String × Document)}
    (ordered : entries.Pairwise fun a b => a.1 < b.1) (below : List (String × Document))
    (key : String) : valueAt? key (overlayEntries below entries)
      = match valueAt? key entries with
        | some value => some (((valueAt? key below).map (overlay · value)).getD value)
        | none => valueAt? key below := by
  induction entries generalizing below with
  | nil => rw [overlayEntries]; rfl
  | cons entry rest ih =>
    obtain ⟨k, v⟩ := entry
    obtain ⟨less, ordered⟩ := List.pairwise_cons.1 ordered
    rw [overlayEntries_cons, ih ordered, valueAt?_cons, valueAt?_setEntry]
    by_cases here : k = key
    · subst here
      have absent : valueAt? k rest = none := by
        cases found : valueAt? k rest with
        | none => rfl
        | some value => exact absurd (less _ (mem_of_valueAt? found)) (String.lt_irrefl k)
      rw [absent, if_pos rfl, if_pos rfl]
    · rw [if_neg here, if_neg here]

/-- **A document that is laid over another** counts where it has a value, and elsewhere the other
one does. -/
theorem at?_overlay {path : List String} : ∀ {base d : Document}, d.Ordered → d.Along path →
    (∀ entries, d.at? path ≠ some (.object entries)) →
    (overlay base d).at? path = (d.at? path).or (base.at? path) := by
  induction path with
  | nil =>
    intro base d _ _ flat
    cases d with
    | object entries => exact absurd rfl (flat entries)
    | null | bool | number | text | array => rfl
  | cons key path ih =>
    rintro base _ ordered ⟨entries, rfl, along⟩ flat
    have sorted := ordered entries .self
    cases base with
    | object below =>
      rw [overlay, at?_object, at?_object, at?_object, valueAt?_overlayEntries sorted]
      rw [at?_object] at flat
      cases here : valueAt? key entries with
      | none => rfl
      | some value =>
        rw [here] at flat
        cases old : valueAt? key below with
        | none => exact (Option.or_none).symm
        | some old => exact ih (ordered.value here) (along value here) flat
    | null | bool | number | text | array => exact (Option.or_none).symm

end RecordMapper.Document
