import Mathlib.Data.List.Perm.Lattice
import RecordMapper.Document.Basic

/-!
# Entries of objects

What an entry that is put into its place does to the entries of an object.

* `Document.pairwise_setEntry`: the keys stay in increasing order.
* `Document.valueAt?_setEntry`: the key has the new value, and the other keys are not touched.
* `Document.perm_setEntry`, `Document.perm_collected`: entries of new keys are only rearranged.
-/

namespace RecordMapper.Document

variable {entries : List (String × Document)}

theorem valueAt?_cons (key : String) (value : Document) (rest : List (String × Document))
    (wanted : String) : valueAt? wanted ((key, value) :: rest)
      = if key = wanted then some value else valueAt? wanted rest := by
  by_cases h : key = wanted <;> simp [valueAt?, h]

/-- The value of a key is that of an entry. -/
theorem mem_of_valueAt? {key : String} {value : Document} (h : valueAt? key entries = some value) :
    (key, value) ∈ entries := by
  induction entries with
  | nil => exact absurd h nofun
  | cons entry rest ih =>
    obtain ⟨k, v⟩ := entry
    rw [valueAt?_cons] at h
    split at h
    · next here =>
      rw [here, Option.some.inj h]
      exact List.mem_cons_self
    · exact List.mem_cons_of_mem _ (ih h)

/-! ## One more entry -/

/-- **An entry that is put into its place** is the value of its key, and other keys keep theirs. -/
theorem valueAt?_setEntry (key : String) (value : Document) (entries : List (String × Document))
    (wanted : String) : valueAt? wanted (setEntry key value entries)
      = if key = wanted then some value else valueAt? wanted entries := by
  induction entries with
  | nil => exact valueAt?_cons key value [] wanted
  | cons entry rest ih =>
    obtain ⟨k, v⟩ := entry
    by_cases same : k = key
    · rw [setEntry, if_pos same, valueAt?_cons, valueAt?_cons, same]
      split <;> rfl
    by_cases before : key < k
    · rw [setEntry, if_neg same, if_pos before, valueAt?_cons]
    · rw [setEntry, if_neg same, if_neg before, valueAt?_cons, valueAt?_cons, ih]
      by_cases first : k = wanted
      · rw [if_pos first, if_pos first, if_neg fun here => same (first.trans here.symm)]
      · rw [if_neg first, if_neg first]

theorem mem_setEntry {key : String} {value : Document} {entry : String × Document}
    (h : entry ∈ setEntry key value entries) : entry = (key, value) ∨ entry ∈ entries := by
  induction entries with
  | nil => exact .inl (List.mem_singleton.1 h)
  | cons first rest ih =>
    rw [setEntry] at h
    split_ifs at h with same before
    · exact (List.mem_cons.1 h).imp id (List.mem_cons_of_mem _)
    · exact List.mem_cons.1 h
    · rcases List.mem_cons.1 h with here | later
      · exact .inr (here ▸ List.mem_cons_self)
      · exact (ih later).imp id (List.mem_cons_of_mem _)

/-- **The keys stay in order.** -/
theorem pairwise_setEntry (key : String) (value : Document)
    (h : entries.Pairwise fun a b => a.1 < b.1) :
    (setEntry key value entries).Pairwise fun a b => a.1 < b.1 := by
  induction entries with
  | nil => exact List.pairwise_singleton _ _
  | cons first rest ih =>
    obtain ⟨less, others⟩ := List.pairwise_cons.1 h
    rw [setEntry]
    split_ifs with same before
    · exact List.pairwise_cons.2 ⟨same ▸ less, others⟩
    · refine List.pairwise_cons.2 ⟨fun entry he => ?_, h⟩
      rcases List.mem_cons.1 he with here | later
      · exact here ▸ before
      · exact String.lt_trans before (less entry later)
    · refine List.pairwise_cons.2 ⟨fun entry he => ?_, ih others⟩
      rcases mem_setEntry he with new | old
      · exact new ▸ String.not_le.1 fun le => same (String.le_antisymm (String.not_lt.1 before) le)
      · exact less entry old

/-- An entry of a new key is added. -/
theorem perm_setEntry {key : String} (value : Document)
    (fresh : ∀ entry ∈ entries, entry.1 ≠ key) :
    (setEntry key value entries).Perm ((key, value) :: entries) := by
  induction entries with
  | nil => exact .refl _
  | cons first rest ih =>
    obtain ⟨other, others⟩ := List.forall_mem_cons.1 fresh
    rw [setEntry, if_neg other]
    split_ifs
    · exact .refl _
    · exact ((ih others).cons first).trans (.swap _ _ _)

/-! ## Many entries -/

/-- The entries of the object of a list of entries. -/
def collected (entries : List (String × Document)) : List (String × Document) :=
  entries.foldl (fun sorted entry => setEntry entry.1 entry.2 sorted) []

theorem ofEntries_eq (entries : List (String × Document)) :
    ofEntries entries = .object (collected entries) := rfl

theorem mem_of_mem_collected {entries : List (String × Document)} {entry : String × Document}
    (h : entry ∈ collected entries) : entry ∈ entries := by
  have kept : ∀ later sorted : List (String × Document),
      entry ∈ later.foldl (fun sorted entry => setEntry entry.1 entry.2 sorted) sorted →
      entry ∈ sorted ∨ entry ∈ later := by
    intro later
    induction later with
    | nil => exact fun _ he => .inl he
    | cons first rest ih =>
      intro sorted he
      rcases ih _ he with set | later
      · exact (mem_setEntry set).symm.imp id fun same => List.mem_cons.2 (.inl same)
      · exact .inr (List.mem_cons_of_mem _ later)
  exact (kept entries [] h).resolve_left List.not_mem_nil

/-- Whatever is collected stands in the order of its keys. -/
theorem pairwise_collected (entries : List (String × Document)) :
    (collected entries).Pairwise fun a b => a.1 < b.1 := by
  have kept : ∀ later sorted : List (String × Document),
      sorted.Pairwise (fun a b => a.1 < b.1) →
      (later.foldl (fun sorted entry => setEntry entry.1 entry.2 sorted) sorted).Pairwise
        fun a b => a.1 < b.1 := by
    intro later
    induction later with
    | nil => exact fun _ h => h
    | cons entry rest ih => exact fun sorted h => ih _ (pairwise_setEntry entry.1 entry.2 h)
  exact kept entries [] .nil

/-- Entries of distinct keys are collected without loss. -/
theorem perm_collected {entries : List (String × Document)} (h : (entries.map (·.1)).Nodup) :
    (collected entries).Perm entries := by
  have gathered : ∀ later sorted : List (String × Document),
      ((sorted ++ later).map (·.1)).Nodup →
      (later.foldl (fun sorted entry => setEntry entry.1 entry.2 sorted) sorted).Perm
        (sorted ++ later) := by
    intro later
    induction later with
    | nil => exact fun sorted _ => by rw [List.append_nil]; exact .refl _
    | cons entry rest ih =>
      intro sorted distinct
      rw [List.map_append, List.map_cons] at distinct
      have fresh : ∀ other ∈ sorted, other.1 ≠ entry.1 := fun other ho =>
        (List.nodup_append.1 distinct).2.2 other.1 (List.mem_map_of_mem ho) entry.1
          List.mem_cons_self
      have added : (setEntry entry.1 entry.2 sorted ++ rest).Perm (sorted ++ entry :: rest) :=
        ((perm_setEntry entry.2 fresh).append_right rest).trans List.perm_middle.symm
      refine (ih _ ?_).trans added
      rw [(added.map _).nodup_iff, List.map_append, List.map_cons]
      exact distinct
  exact gathered entries [] h

end RecordMapper.Document
