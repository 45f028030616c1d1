import Mathlib.Data.List.Forall2
import RecordMapper.Proofs.Document.Numbers
import RecordMapper.Proofs.Document.Texts

/-!
# Reading documents back

A document in compact JSON is read as itself.

* `Document.induction` is induction over documents.
* `Document.Legible`: the keys of every object are in order, and every float reads back.
  `Document.Restorable` is such a document that is not nested too deep.
* `RawDocument.Spells`: what a document is written as. Its text is read as this, and this denotes
  the document. Every legible document is written as something (`RawDocument.spelling`).
* `Document.ofText?_compact` puts this together.
-/

namespace RecordMapper

namespace Document

/-! ## Documents within documents -/

/-- Induction over documents: the items of an array, and the values of an object, come first. -/
@[elab_as_elim]
theorem induction {motive : Document → Prop} (null : motive .null) (bool : ∀ b, motive (.bool b))
    (number : ∀ n, motive (.number n)) (text : ∀ s, motive (.text s))
    (array : ∀ items, (∀ e ∈ items, motive e) → motive (.array items))
    (object : ∀ entries, (∀ entry ∈ entries, motive entry.2) → motive (.object entries)) :
    ∀ d, motive d :=
  @Document.rec motive (fun items => ∀ e ∈ items, motive e)
    (fun entries => ∀ entry ∈ entries, motive entry.2) (fun entry => motive entry.2) null bool
    number text array object (fun _ h => absurd h List.not_mem_nil)
    (fun _ _ first others => List.forall_mem_cons.2 ⟨first, others⟩)
    (fun _ h => absurd h List.not_mem_nil)
    (fun _ _ first others => List.forall_mem_cons.2 ⟨first, others⟩) (fun _ _ h => h)

/-- A document is another one, or stands somewhere in it. -/
inductive Within (d : Document) : Document → Prop
  /-- It is the other document. -/
  | self : Within d d
  /-- It is within an item. -/
  | item {e : Document} {items : List Document} (h : e ∈ items) (inner : Within d e) :
    Within d (.array items)
  /-- It is within the value of a key. -/
  | value {entry : String × Document} {entries : List (String × Document)} (h : entry ∈ entries)
    (inner : Within d entry.2) : Within d (.object entries)

/-- Documents whose text says everything about them. -/
structure Legible (d : Document) : Prop where
  /-- The keys of every object are in increasing order. -/
  ordered : ∀ entries, Within (.object entries) d → entries.Pairwise fun a b => a.1 < b.1
  /-- Every float reads back. -/
  floats : ∀ x, Within (.number (.float x)) d → (Number.float x).ReadsBack

/-- Documents that can be read back from their text. -/
structure Restorable (d : Document) : Prop extends Legible d where
  /-- The nesting is not too deep to be read. -/
  shallow : d.depth ≤ maxDepth

theorem legible_null : Legible .null := ⟨nofun, nofun⟩

theorem legible_bool (b : Bool) : Legible (.bool b) := ⟨nofun, nofun⟩

theorem legible_whole (n : Whole) : Legible (.number (.whole n)) := ⟨nofun, nofun⟩

theorem legible_text (s : String) : Legible (.text s) := ⟨nofun, nofun⟩

theorem legible_float {x : Finite} (h : (Number.float x).ReadsBack) :
    Legible (.number (.float x)) :=
  ⟨nofun, fun _ inner => by cases inner; exact h⟩

theorem legible_array {items : List Document} (h : ∀ e ∈ items, e.Legible) :
    Legible (.array items) where
  ordered entries inner := by
    cases inner with
    | item he inner => exact (h _ he).ordered entries inner
  floats x inner := by
    cases inner with
    | item he inner => exact (h _ he).floats x inner

theorem legible_object {entries : List (String × Document)}
    (ordered : entries.Pairwise fun a b => a.1 < b.1) (h : ∀ entry ∈ entries, entry.2.Legible) :
    Legible (.object entries) where
  ordered entries inner := by
    cases inner with
    | self => exact ordered
    | value he inner => exact (h _ he).ordered entries inner
  floats x inner := by
    cases inner with
    | value he inner => exact (h _ he).floats x inner

theorem Legible.item {items : List Document} (h : Legible (.array items)) {e : Document}
    (he : e ∈ items) : e.Legible :=
  ⟨fun entries inner => h.ordered entries (.item he inner),
    fun x inner => h.floats x (.item he inner)⟩

theorem Legible.value {entries : List (String × Document)} (h : Legible (.object entries))
    {entry : String × Document} (he : entry ∈ entries) : entry.2.Legible :=
  ⟨fun entries inner => h.ordered entries (.value he inner),
    fun x inner => h.floats x (.value he inner)⟩

theorem Legible.number {n : Number} (h : Legible (.number n)) : n.ReadsBack := by
  cases n with
  | whole n => exact Number.readsBack_whole n
  | float x => exact h.floats x .self

/-! ## Depth -/

theorem depthItems_le {levels : Nat} (items : List Document) :
    depthItems items ≤ levels ↔ ∀ e ∈ items, e.depth ≤ levels := by
  induction items with
  | nil => simp [depthItems]
  | cons e rest ih => rw [depthItems, Nat.max_le, ih, List.forall_mem_cons]

theorem depthEntries_le {levels : Nat} (entries : List (String × Document)) :
    depthEntries entries ≤ levels ↔ ∀ entry ∈ entries, entry.2.depth ≤ levels := by
  induction entries with
  | nil => simp [depthEntries]
  | cons entry rest ih => rw [depthEntries, Nat.max_le, ih, List.forall_mem_cons]

/-! ## Lengths of texts -/

theorem length_lt_compactItems (items : List Document) :
    items.length < (compactItems items).length := by
  induction items with
  | nil => decide
  | cons e rest ih =>
    rw [compactItems, List.length_cons, List.length_cons, List.length_append]
    omega

theorem length_lt_compactEntries (entries : List (String × Document)) :
    entries.length < (compactEntries entries).length := by
  induction entries with
  | nil => decide
  | cons entry rest ih =>
    rw [compactEntries]
    simp only [List.length_cons, List.length_append]
    omega

theorem length_lt_of_mem_items {items : List Document} {e : Document} (h : e ∈ items) :
    (compactChars e).length < (compactItems items).length := by
  induction items with
  | nil => cases h
  | cons first rest ih =>
    rw [compactItems, List.length_cons, List.length_append]
    rcases List.mem_cons.1 h with rfl | later
    · omega
    · have := ih later
      omega

theorem length_lt_of_mem_entries {entries : List (String × Document)} {entry : String × Document}
    (h : entry ∈ entries) :
    (compactChars entry.2).length < (compactEntries entries).length := by
  induction entries with
  | nil => cases h
  | cons first rest ih =>
    rw [compactEntries]
    simp only [List.length_cons, List.length_append]
    rcases List.mem_cons.1 h with rfl | later
    · omega
    · have := ih later
      omega

/-- No document is nested deeper than its text is long. -/
theorem depth_le_length (d : Document) : d.depth ≤ (compactChars d).length := by
  induction d using Document.induction with
  | null | bool | number | text => exact Nat.zero_le _
  | array items ih =>
    have inner : depthItems items ≤ (compactItems items).length - 1 :=
      (depthItems_le items).2 fun e he =>
        (ih e he).trans (Nat.le_sub_one_of_lt (length_lt_of_mem_items he))
    cases items with
    | nil => decide
    | cons e rest =>
      rw [compactItems] at inner
      rw [depth, compactChars]
      simp only [List.length_cons, List.length_append] at inner ⊢
      omega
  | object entries ih =>
    have inner : depthEntries entries ≤ (compactEntries entries).length - 1 :=
      (depthEntries_le entries).2 fun entry he =>
        (ih entry he).trans (Nat.le_sub_one_of_lt (length_lt_of_mem_entries he))
    cases entries with
    | nil => decide
    | cons entry rest =>
      rw [compactEntries] at inner
      rw [depth, compactChars]
      simp only [List.length_cons, List.length_append] at inner ⊢
      omega

/-! ## Objects in order -/

/-- An entry whose key is greater than all others goes to the end. -/
theorem setEntry_append {key : String} {entries : List (String × Document)}
    (h : ∀ entry ∈ entries, entry.1 < key) (value : Document) :
    setEntry key value entries = entries ++ [(key, value)] := by
  induction entries with
  | nil => rfl
  | cons entry rest ih =>
    obtain ⟨less, others⟩ := List.forall_mem_cons.1 h
    have different : entry.1 ≠ key := fun same => String.lt_irrefl key (same ▸ less)
    rw [setEntry, if_neg different, if_neg (String.lt_asymm less), ih others, List.cons_append]

/-- The object of entries in order has these entries. -/
theorem ofEntries_ordered {entries : List (String × Document)}
    (h : entries.Pairwise fun a b => a.1 < b.1) : ofEntries entries = .object entries := by
  have set : ∀ later sorted : List (String × Document),
      (sorted ++ later).Pairwise (fun a b => a.1 < b.1) →
      later.foldl (fun sorted entry => setEntry entry.1 entry.2 sorted) sorted
        = sorted ++ later := by
    intro later
    induction later with
    | nil => simp
    | cons entry rest ih =>
      intro sorted ascending
      have before : ∀ other ∈ sorted, other.1 < entry.1 := fun other ho =>
        (List.pairwise_append.1 ascending).2.2 other ho entry List.mem_cons_self
      rw [List.foldl_cons, setEntry_append before, ih, List.append_assoc, List.singleton_append]
      rwa [List.append_assoc, List.singleton_append]
  rw [ofEntries, set entries [] h, List.nil_append]

end Document

/-! ## Spellings -/

namespace RawDocument

open Document (compactChars compactItems compactEntries escapeChar)

theorem skipBlanks_of_unblank {c : Char} (h : isBlank c = false) (cs : List Char) :
    skipBlanks (c :: cs) = c :: cs :=
  List.dropWhile_cons_of_neg (by simp [h])

theorem closes_comma (rest : List Char) : Closes (',' :: rest) := by
  simp [Closes]

theorem closes_bracket (rest : List Char) : Closes (']' :: rest) := by
  simp [Closes]

theorem closes_brace (rest : List Char) : Closes ('\x7d' :: rest) := by
  simp [Closes]

/-- What a document is written as. -/
structure Spells (raw : RawDocument) (d : Document) : Prop where
  /-- The text begins neither with a blank nor with a closing bracket. -/
  opens : ∃ c tail, compactChars d = c :: tail ∧ isBlank c = false ∧ c ≠ ']'
  /-- The text is read as what is written. -/
  reads : ∀ levels, d.depth ≤ levels → ∀ rest, Closes rest →
    read? levels (compactChars d ++ rest) = some (raw, rest)
  /-- What is written denotes the document. -/
  denotes : ∀ levels, d.depth ≤ levels → Document.ofRaw? levels raw = some d

variable {raw : RawDocument} {d : Document} {levels : Nat}

theorem Spells.skipBlanks (h : raw.Spells d) (rest : List Char) :
    skipBlanks (compactChars d ++ rest) = compactChars d ++ rest := by
  obtain ⟨c, tail, text, unblank, -⟩ := h.opens
  rw [text, List.cons_append, skipBlanks_of_unblank unblank]

/-! ## Arrays -/

theorem read?_array {cs : List Char} (h : ∀ tail, skipBlanks cs ≠ ']' :: tail) :
    read? (levels + 1) ('[' :: cs) = (readItems? (read? levels) (cs.length + 1) cs).map
      fun (xs, rest) => (.array xs, rest) := by
  rw [read?]
  split
  · next tail same => exact absurd same (h tail)
  · rfl

theorem readItems?_spelled {raws : List RawDocument} {items : List Document}
    (h : List.Forall₂ Spells raws items) (rest : List Char) :
    ∀ {raw d}, raw.Spells d → (∀ e ∈ d :: items, e.depth ≤ levels) → ∀ {fuel},
      items.length < fuel →
      readItems? (read? levels) fuel (compactChars d ++ (compactItems items ++ rest))
        = some (raw :: raws, rest) := by
  induction h with
  | nil =>
    intro raw d spelled shallow fuel enough
    obtain ⟨fuel, rfl⟩ := Nat.exists_eq_succ_of_ne_zero (Nat.ne_of_gt enough)
    have first := spelled.reads levels (shallow d List.mem_cons_self) _ (closes_bracket rest)
    rw [readItems?, spelled.skipBlanks]
    show (read? levels (compactChars d ++ ']' :: rest)).bind _ = _
    rw [first]
    rfl
  | @cons next e raws items spelledNext _ ih =>
    intro raw d spelled shallow fuel enough
    obtain ⟨fuel, rfl⟩ := Nat.exists_eq_succ_of_ne_zero (Nat.ne_of_gt (Nat.zero_lt_of_lt enough))
    have first := spelled.reads levels (shallow d List.mem_cons_self) _
      (closes_comma (compactChars e ++ (compactItems items ++ rest)))
    have others := ih spelledNext (fun e he => shallow e (List.mem_cons_of_mem d he))
      (Nat.lt_of_succ_lt_succ enough)
    rw [readItems?, compactItems, List.cons_append, List.append_assoc, spelled.skipBlanks]
    show (read? levels _).bind _ = _
    rw [first]
    show (readItems? (read? levels) fuel _).bind _ = _
    rw [others]
    rfl

theorem ofRawItems?_spelled {raws : List RawDocument} {items : List Document}
    (h : List.Forall₂ Spells raws items) (shallow : ∀ e ∈ items, e.depth ≤ levels) :
    Document.ofRawItems? levels raws = some items := by
  induction h with
  | nil => rfl
  | cons spelled _ ih =>
    obtain ⟨first, others⟩ := List.forall_mem_cons.1 shallow
    rw [Document.ofRawItems?, spelled.denotes levels first, ih others]

/-- **An array is written** as what its items are written as. -/
theorem Spells.array {raws : List RawDocument} {items : List Document}
    (h : List.Forall₂ Spells raws items) : Spells (.array raws) (.array items) where
  opens := by
    cases items with
    | nil => exact ⟨'[', _, rfl, rfl, by decide⟩
    | cons e items => exact ⟨'[', _, rfl, rfl, by decide⟩
  reads levels shallow rest closes := by
    obtain ⟨inner, rfl⟩ : ∃ inner, levels = inner + 1 :=
      ⟨levels - 1, by rw [Document.depth] at shallow; omega⟩
    have shallow : ∀ e ∈ items, e.depth ≤ inner :=
      (Document.depthItems_le items).1 (Nat.le_of_succ_le_succ shallow)
    cases h with
    | nil => rfl
    | @cons raw e raws items first others =>
      have enough : items.length
          < (compactChars e ++ (compactItems items ++ rest)).length + 1 := by
        have := Document.length_lt_compactItems items
        simp only [List.length_append]
        omega
      have apart : ∀ tail, RawDocument.skipBlanks
          (compactChars e ++ (compactItems items ++ rest)) ≠ ']' :: tail := by
        intro tail same
        obtain ⟨c, more, text, -, notClosing⟩ := first.opens
        rw [first.skipBlanks, text] at same
        exact notClosing (List.cons.inj same).1
      rw [compactChars, List.cons_append, List.append_assoc, read?_array apart,
        readItems?_spelled others rest first shallow enough]
      rfl
  denotes levels shallow := by
    rw [Document.depth] at shallow
    have positive : levels ≠ 0 := by omega
    have inner : Document.depthItems items ≤ levels - 1 := by omega
    rw [Document.ofRaw?, if_neg positive,
      ofRawItems?_spelled h ((Document.depthItems_le items).1 inner), Option.map_some]

/-! ## Objects -/

/-- What an entry of an object is written as. -/
structure SpellsEntry (raw : List RawChar × RawDocument) (entry : String × Document) : Prop where
  /-- The text of the key is read as what is written, -/
  readsKey : ∀ rest, readText? (entry.1.toList.flatMap escapeChar ++ '"' :: rest)
    = some (raw.1, rest)
  /-- which denotes the key. -/
  key : RawChar.text? raw.1 = some entry.1
  /-- The value is written likewise. -/
  value : raw.2.Spells entry.2

theorem read?_object {cs : List Char} (h : ∀ tail, skipBlanks cs ≠ '\x7d' :: tail) :
    read? (levels + 1) ('\x7b' :: cs) = (readEntries? (read? levels) (cs.length + 1) cs).map
      fun (xs, rest) => (.object xs, rest) := by
  rw [read?]
  split
  · next tail same => exact absurd same (h tail)
  · rfl

/-- The text of an entry, from the opening quote of its key on. -/
def entryChars (entry : String × Document) : List Char :=
  '"' :: (entry.1.toList.flatMap escapeChar ++ '"' :: ':' :: compactChars entry.2)

theorem compactEntries_cons (entry : String × Document) (entries : List (String × Document)) :
    compactEntries (entry :: entries) = ',' :: (entryChars entry ++ compactEntries entries) := by
  simp [compactEntries, entryChars, Document.quoted]

theorem compactChars_object (entry : String × Document) (entries : List (String × Document)) :
    compactChars (.object (entry :: entries))
      = '\x7b' :: (entryChars entry ++ compactEntries entries) := by
  simp [compactChars, entryChars, Document.quoted]

theorem entryChars_append (entry : String × Document) (rest : List Char) :
    entryChars entry ++ rest = '"' :: (entry.1.toList.flatMap escapeChar
      ++ '"' :: ':' :: (compactChars entry.2 ++ rest)) := by
  simp [entryChars]

/-- What follows the value of an entry: nothing more, or the other entries. -/
def readMore? (item : List Char → Option (RawDocument × List Char)) (fuel : Nat)
    (entry : List RawChar × RawDocument) (cs : List Char) :
    Option (List (List RawChar × RawDocument) × List Char) :=
  match skipBlanks cs with
  | ',' :: cs => do
    let (more, cs) ← readEntries? item fuel cs
    return (entry :: more, cs)
  | '\x7d' :: cs => return ([entry], cs)
  | _ => none

/-- An entry is read in front of what may follow it. -/
theorem readEntries?_entry {raw : List RawChar × RawDocument} {entry : String × Document}
    (h : SpellsEntry raw entry) (shallow : entry.2.depth ≤ levels) (fuel : Nat) {rest : List Char}
    (closes : Closes rest) :
    readEntries? (read? levels) (fuel + 1) (entryChars entry ++ rest)
      = readMore? (read? levels) fuel raw rest := by
  have value := h.value.reads levels shallow rest closes
  rw [readEntries?, entryChars_append]
  show (readText? _).bind _ = _
  rw [h.readsKey]
  show (read? levels (skipBlanks (compactChars entry.2 ++ rest))).bind _ = _
  rw [h.value.skipBlanks, value]
  rfl

theorem readEntries?_spelled {raws : List (List RawChar × RawDocument)}
    {entries : List (String × Document)} (h : List.Forall₂ SpellsEntry raws entries)
    (rest : List Char) :
    ∀ {raw entry}, SpellsEntry raw entry → (∀ e ∈ entry :: entries, e.2.depth ≤ levels) →
      ∀ {fuel}, entries.length < fuel →
      readEntries? (read? levels) fuel (entryChars entry ++ (compactEntries entries ++ rest))
        = some (raw :: raws, rest) := by
  induction h with
  | nil =>
    intro raw entry spelled shallow fuel enough
    obtain ⟨fuel, rfl⟩ := Nat.exists_eq_succ_of_ne_zero (Nat.ne_of_gt enough)
    exact readEntries?_entry spelled (shallow entry List.mem_cons_self) fuel (closes_brace rest)
  | @cons next other raws entries spelledNext _ ih =>
    intro raw entry spelled shallow fuel enough
    obtain ⟨fuel, rfl⟩ := Nat.exists_eq_succ_of_ne_zero (Nat.ne_of_gt (Nat.zero_lt_of_lt enough))
    have others := ih spelledNext (fun e he => shallow e (List.mem_cons_of_mem entry he))
      (Nat.lt_of_succ_lt_succ enough)
    rw [compactEntries_cons, List.cons_append, List.append_assoc,
      readEntries?_entry spelled (shallow entry List.mem_cons_self) fuel (closes_comma _)]
    show (readEntries? (read? levels) fuel _).bind _ = _
    rw [others]
    rfl

theorem ofRawEntries?_spelled {raws : List (List RawChar × RawDocument)}
    {entries : List (String × Document)} (h : List.Forall₂ SpellsEntry raws entries)
    (shallow : ∀ entry ∈ entries, entry.2.depth ≤ levels) :
    Document.ofRawEntries? levels raws = some entries := by
  induction h with
  | nil => rfl
  | @cons raw entry raws entries spelled _ ih =>
    obtain ⟨first, others⟩ := List.forall_mem_cons.1 shallow
    rw [Document.ofRawEntries?, spelled.key, spelled.value.denotes levels first, ih others]

/-- **An object is written** as what its entries are written as, if these are in order. -/
theorem Spells.object {raws : List (List RawChar × RawDocument)}
    {entries : List (String × Document)} (h : List.Forall₂ SpellsEntry raws entries)
    (ordered : entries.Pairwise fun a b => a.1 < b.1) :
    Spells (.object raws) (.object entries) where
  opens := by
    cases entries with
    | nil => exact ⟨'\x7b', _, rfl, rfl, by decide⟩
    | cons entry entries => exact ⟨'\x7b', _, rfl, rfl, by decide⟩
  reads levels shallow rest closes := by
    obtain ⟨inner, rfl⟩ : ∃ inner, levels = inner + 1 :=
      ⟨levels - 1, by rw [Document.depth] at shallow; omega⟩
    have shallow : ∀ entry ∈ entries, entry.2.depth ≤ inner :=
      (Document.depthEntries_le entries).1 (Nat.le_of_succ_le_succ shallow)
    cases h with
    | nil => rfl
    | @cons raw entry raws entries first others =>
      have enough : entries.length
          < (entryChars entry ++ (compactEntries entries ++ rest)).length + 1 := by
        have := Document.length_lt_compactEntries entries
        simp only [List.length_append]
        omega
      have apart : ∀ tail, RawDocument.skipBlanks
          (entryChars entry ++ (compactEntries entries ++ rest)) ≠ '\x7d' :: tail := by
        intro tail same
        rw [entryChars_append, skipBlanks_of_unblank rfl] at same
        cases same
      rw [compactChars_object, List.cons_append, List.append_assoc, read?_object apart,
        readEntries?_spelled others rest first shallow enough]
      rfl
  denotes levels shallow := by
    rw [Document.depth] at shallow
    have positive : levels ≠ 0 := by omega
    have inner : Document.depthEntries entries ≤ levels - 1 := by omega
    rw [Document.ofRaw?, if_neg positive,
      ofRawEntries?_spelled h ((Document.depthEntries_le entries).1 inner), Option.map_some,
      Document.ofEntries_ordered ordered]

/-! ## Scalars -/

theorem afterWord?_append (word : String) (rest : List Char) :
    afterWord? word (word.toList ++ rest) = some rest := by
  have found : word.toList.isPrefixOf (word.toList ++ rest) = true := by simp
  rw [afterWord?, if_pos found, ← String.length_toList, List.drop_left]

/-- A sign or a digit is none of the characters that have another meaning. -/
theorem ne_of_opensNumber {c d : Char} (h : c = '-' ∨ c.isDigit = true)
    (hd : (d == '-' || d.isDigit) = false) : c ≠ d := by
  rintro rfl
  rcases h with rfl | digit
  · cases hd
  · rw [digit, Bool.or_true] at hd
    cases hd

theorem read?_number {c : Char} (h : c = '-' ∨ c.isDigit = true) (cs : List Char) :
    read? levels (c :: cs) = (readNumber? (c :: cs)).map fun (n, rest) => (.number n, rest) := by
  rw [read?]
  all_goals exact fun _ same => ne_of_opensNumber h rfl (List.cons.inj same).1

theorem Spells.null : Spells .null .null where
  opens := ⟨'n', _, rfl, rfl, by decide⟩
  reads levels _ rest _ := by
    show read? levels ('n' :: ("ull".toList ++ rest)) = _
    rw [read?, afterWord?_append]
    rfl
  denotes _ _ := rfl

theorem Spells.bool (b : Bool) : Spells (.bool b) (.bool b) where
  opens := by cases b <;> exact ⟨_, _, rfl, rfl, by decide⟩
  reads levels _ rest _ := by
    cases b with
    | true =>
      show read? levels ('t' :: ("rue".toList ++ rest)) = _
      rw [read?, afterWord?_append]
      rfl
    | false =>
      show read? levels ('f' :: ("alse".toList ++ rest)) = _
      rw [read?, afterWord?_append]
      rfl
  denotes _ _ := rfl

theorem Spells.text {raws : List RawChar} {s : String}
    (reads : ∀ rest, readText? (s.toList.flatMap escapeChar ++ '"' :: rest) = some (raws, rest))
    (denotes : RawChar.text? raws = some s) : Spells (.text raws) (.text s) where
  opens := ⟨'"', _, rfl, rfl, by decide⟩
  reads levels _ rest _ := by
    rw [compactChars, Document.quoted, List.cons_append, List.append_assoc, List.singleton_append,
      read?, reads]
    rfl
  denotes levels _ := by rw [Document.ofRaw?, denotes, Option.map_some]

theorem Spells.number {raw : RawNumber} {n : Number}
    (reads : readNumber? (Document.numberText n) = some (raw, [])) (denotes : raw.read? = some n) :
    Spells (.number raw) (.number n) where
  opens := by
    obtain ⟨c, tail, text, sign⟩ := readNumber?_opens reads
    refine ⟨c, tail, text, ?_, ne_of_opensNumber sign rfl⟩
    simp [isBlank, ne_of_opensNumber sign]
  reads levels _ rest closes := by
    obtain ⟨c, tail, text, sign⟩ := readNumber?_opens reads
    have whole := readNumber?_append closes reads
    rw [compactChars]
    rw [text, List.cons_append] at whole ⊢
    rw [read?_number sign, whole]
    rfl
  denotes levels _ := by rw [Document.ofRaw?, denotes, Option.map_some]

/-! ## Documents -/

/-- Where every item is related to something, a list of items is related to a list. -/
theorem exists_forall₂ {α β : Type} {R : α → β → Prop} {items : List β} :
    (∀ b ∈ items, ∃ a, R a b) → ∃ raws, List.Forall₂ R raws items := by
  induction items with
  | nil => exact fun _ => ⟨[], .nil⟩
  | cons b rest ih =>
    intro h
    obtain ⟨⟨a, first⟩, others⟩ := List.forall_mem_cons.1 h
    obtain ⟨raws, related⟩ := ih others
    exact ⟨a :: raws, .cons first related⟩

/-- **Every legible document is written** as something. -/
theorem spelling (d : Document) (h : d.Legible) : ∃ raw : RawDocument, raw.Spells d := by
  induction d using Document.induction with
  | null => exact ⟨_, .null⟩
  | bool b => exact ⟨_, .bool b⟩
  | number n =>
    obtain ⟨raw, reads, denotes⟩ := h.number
    exact ⟨_, .number reads denotes⟩
  | text s =>
    obtain ⟨raws, reads, denotes⟩ := quoted_reads s
    exact ⟨_, .text reads denotes⟩
  | array items ih =>
    obtain ⟨raws, spelled⟩ := exists_forall₂ fun e he => ih e he (h.item he)
    exact ⟨_, .array spelled⟩
  | object entries ih =>
    have each : ∀ entry ∈ entries, ∃ raw, SpellsEntry raw entry := by
      intro entry he
      obtain ⟨raws, reads, denotes⟩ := quoted_reads entry.1
      obtain ⟨raw, spelled⟩ := ih entry he (h.value he)
      exact ⟨(raws, raw), reads, denotes, spelled⟩
    obtain ⟨raws, spelled⟩ := exists_forall₂ each
    exact ⟨_, .object spelled (h.ordered entries .self)⟩

end RawDocument

/-- **A document is read back** from its compact text. -/
theorem Document.ofText?_compact {d : Document} (h : d.Restorable) :
    ofText? d.compact = some d := by
  obtain ⟨raw, spelled⟩ := RawDocument.spelling d h.toLegible
  have text : d.compact.toList = compactChars d := by rw [compact, String.toList_ofList]
  have blanks := spelled.skipBlanks []
  have reads := spelled.reads _ d.depth_le_length [] RawDocument.closes_nil
  rw [List.append_nil] at blanks reads
  have whole : RawDocument.ofText? d.compact = some raw := by
    rw [RawDocument.ofText?, text, blanks, reads]
    rfl
  rw [ofText?, whole, Option.bind_some, spelled.denotes maxDepth h.shallow]

end RecordMapper
