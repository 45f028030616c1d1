import RecordMapper.Proofs.Settings.Overlay

/-!
# Layers of settings

Settings that are loaded from a JSON text under an environment, one by one.

* `Setting` lists the settings: the keys that lead to each, what it is written as, and what its
  variable gives.
* `Settings.ofDocument?_of_forall`: settings are read from where each of them stands.
* `Setting.Layered`: the environment comes first, then the document, then the default.
* `settings_are_layered`: so it is with every setting, whatever text and environment there is.
-/

namespace RecordMapper

/-- The settings, one by one. -/
inductive Setting where
  | debug
  | logLevel
  | excerptLength
  | maxParameters
  | createChunk
  | updateChunk
  | deleteChunk
  | upsertChunk
  | insertChunk

/-- A text gives a number: its decimal digits, which a plus sign may lead. -/
def Text.Gives (v : String) (n : UInt64) : Prop :=
  ∃ digits, digits ≠ [] ∧ (∀ c ∈ digits, c.isDigit = true) ∧
    (v.toList = digits ∨ v.toList = '+' :: digits) ∧ Text.digitsValue digits = n.toNat

theorem Document.word?_ofUInt64 (n : UInt64) : word? (.ofUInt64 n) = some n := by
  rw [ofUInt64, word?, if_pos (Int.natCast_nonneg _), Int.toNat_natCast, UInt64.ofNat_toNat]

/-- Collected entries are legible, and one level deeper than their values. -/
theorem Document.legible_ofEntries {entries : List (String × Document)} {levels : Nat}
    (h : ∀ entry ∈ entries, entry.2.Legible ∧ entry.2.depth ≤ levels) :
    (ofEntries entries).Legible ∧ (ofEntries entries).depth ≤ levels + 1 :=
  ⟨legible_object (pairwise_collected entries) fun entry he =>
      (h entry (mem_of_mem_collected he)).1,
    Nat.succ_le_succ ((depthEntries_le _).2 fun entry he =>
      (h entry (mem_of_mem_collected he)).2)⟩

namespace Setting

/-- The values of a setting. -/
def Value : Setting → Type
  | debug => Bool
  | logLevel => String
  | excerptLength | maxParameters | createChunk | updateChunk | deleteChunk | upsertChunk
  | insertChunk => UInt64

/-- The value of a setting. -/
def of : (k : Setting) → Settings → k.Value
  | debug, s => s.debug
  | logLevel, s => s.logLevel
  | excerptLength, s => s.excerptLength
  | maxParameters, s => s.maxParameters
  | createChunk, s => s.bulk.createChunk
  | updateChunk, s => s.bulk.updateChunk
  | deleteChunk, s => s.bulk.deleteChunk
  | upsertChunk, s => s.bulk.upsertChunk
  | insertChunk, s => s.bulk.insertChunk

/-- The keys that lead to a setting. -/
def path : Setting → List String
  | debug => ["debug"]
  | logLevel => ["log_level"]
  | excerptLength => ["sql_excerpt_len"]
  | maxParameters => ["max_bound_parameters"]
  | createChunk => ["bulk", "create_chunk_size"]
  | updateChunk => ["bulk", "update_chunk_size"]
  | deleteChunk => ["bulk", "delete_chunk_size"]
  | upsertChunk => ["bulk", "upsert_chunk_size"]
  | insertChunk => ["bulk", "insert_chunk_size"]

/-- What a value is written as. -/
def write : (k : Setting) → k.Value → Document
  | debug, b => .bool b
  | logLevel, s => .text s
  | excerptLength, n | maxParameters, n | createChunk, n | updateChunk, n | deleteChunk, n
  | upsertChunk, n | insertChunk, n => .ofUInt64 n

/-- The environment gives a value to a setting. The sizes of bulk operations have no variables. -/
def Given (lookup : String → Option String) : (k : Setting) → k.Value → Prop
  | debug, b => ∃ v, lookup "TABULA_DEBUG" = some v ∧
      (b = true ↔ ∃ word ∈ ["true", "1", "yes"], Text.sameLetters v word = true)
  | logLevel, s => lookup "TABULA_LOG_LEVEL" = some s
  | excerptLength, n => ∃ v, lookup "TABULA_SQL_EXCERPT_LEN" = some v ∧ Text.Gives v n
  | maxParameters, n => ∃ v, lookup "TABULA_MAX_BOUND_PARAMETERS" = some v ∧ Text.Gives v n
  | createChunk, _ | updateChunk, _ | deleteChunk, _ | upsertChunk, _ | insertChunk, _ => False

/-- A setting under the layers that it has: the environment comes first, then the document, then
the default. -/
inductive Layered (lookup : String → Option String) (d : Document) (k : Setting) : k.Value → Prop
  /-- The environment gives the value. -/
  | environment {v : k.Value} (given : k.Given lookup v) : Layered lookup d k v
  /-- The environment gives none, and the document has the value. -/
  | document {v : k.Value} (free : ∀ w, ¬ k.Given lookup w)
    (here : d.at? k.path = some (k.write v)) : Layered lookup d k v
  /-- Neither gives one. -/
  | default (free : ∀ w, ¬ k.Given lookup w) (absent : d.at? k.path = none) :
    Layered lookup d k (k.of {})

/-- An object whose settings are of the right types. It may leave out any of them, and have any
other keys. -/
structure Typed (d : Document) : Prop where
  /-- It is an object. -/
  object : ∃ entries, d = .object entries
  /-- The bulk sizes are an object. -/
  bulk : ∀ e, d.at? ["bulk"] = some e → ∃ inner, e = .object inner
  /-- Every setting that is there is written as one of its values. -/
  setting : ∀ (k : Setting) (e : Document), d.at? k.path = some e → ∃ v, e = k.write v

/-- The settings of given values. -/
def gather (values : (k : Setting) → k.Value) : Settings where
  debug := values debug
  logLevel := values logLevel
  excerptLength := values excerptLength
  maxParameters := values maxParameters
  bulk :=
    { createChunk := values createChunk
      updateChunk := values updateChunk
      deleteChunk := values deleteChunk
      upsertChunk := values upsertChunk
      insertChunk := values insertChunk }

theorem of_gather (values : (k : Setting) → k.Value) (k : Setting) :
    k.of (gather values) = values k := by
  cases k <;> rfl

/-- Settings are what each of them is. -/
theorem ext_of {s t : Settings} (h : ∀ k : Setting, k.of s = k.of t) : s = t := by
  have gathered (s : Settings) : gather (fun k => k.of s) = s := rfl
  rw [← gathered s, ← gathered t, funext h]

theorem write_injective (k : Setting) {v w : k.Value} (h : k.write v = k.write w) : v = w := by
  have word {m n : UInt64} (h : Document.ofUInt64 m = .ofUInt64 n) : m = n := by
    have read := congrArg Document.word? h
    rwa [Document.word?_ofUInt64, Document.word?_ofUInt64, Option.some.injEq] at read
  cases k
  case debug => exact Document.bool.inj h
  case logLevel => exact Document.text.inj h
  all_goals exact word h

/-- What a setting is written as is no object. -/
theorem write_ne_object (k : Setting) (v : k.Value) (entries : List (String × Document)) :
    k.write v ≠ .object entries := by
  cases k <;> exact nofun

/-! ## Reading -/

/-- The document of settings has every one of them. -/
theorem at?_toDocument (s : Settings) (k : Setting) :
    s.toDocument.at? k.path = some (k.write (k.of s)) := by
  cases k <;>
    simp only [path, Settings.toDocument, BulkSettings.toDocument, Document.ofEntries,
      List.foldl_cons, List.foldl_nil, Document.at?_object, Document.valueAt?_setEntry,
      String.reduceEq, if_true, if_false, Option.bind_some] <;>
    rfl

/-- What stands on the way of a setting is an object. -/
theorem Typed.along {d : Document} (h : Typed d) (k : Setting) : d.Along k.path := by
  obtain ⟨entries, rfl⟩ := h.object
  have short (key : String) : (Document.object entries).Along [key] :=
    ⟨entries, rfl, fun _ _ => trivial⟩
  have long (key : String) : (Document.object entries).Along ["bulk", key] := by
    refine ⟨entries, rfl, fun e here => ?_⟩
    obtain ⟨inner, rfl⟩ := h.bulk e (by rw [Document.at?_object, here]; rfl)
    exact ⟨inner, rfl, fun _ _ => trivial⟩
  cases k
  case debug | logLevel | excerptLength | maxParameters => exact short _
  all_goals exact long _

end Setting

open Document in
/-- Sizes are read from where each of them stands. -/
theorem BulkSettings.ofDocument?_object {entries : List (String × Document)} {b : BulkSettings}
    (create : valueAt? "create_chunk_size" entries = some (.ofUInt64 b.createChunk))
    (update : valueAt? "update_chunk_size" entries = some (.ofUInt64 b.updateChunk))
    (delete : valueAt? "delete_chunk_size" entries = some (.ofUInt64 b.deleteChunk))
    (upsert : valueAt? "upsert_chunk_size" entries = some (.ofUInt64 b.upsertChunk))
    (insert : valueAt? "insert_chunk_size" entries = some (.ofUInt64 b.insertChunk)) :
    BulkSettings.ofDocument? (.object entries) = some b := by
  simp only [BulkSettings.ofDocument?, parts?, List.map_cons, List.map_nil, create, update, delete,
    upsert, insert, Option.bind_eq_bind, Option.bind_some, part?, word?_ofUInt64]
  rfl

namespace Settings

open Document in
/-- **Settings are read from where each of them stands.** -/
theorem ofDocument?_of_forall {d : Document} {s : Settings}
    (h : ∀ k : Setting, d.at? k.path = some (k.write (k.of s))) : ofDocument? d = some s := by
  obtain ⟨entries, bulk, rfl, there, create⟩ := at?_cons_eq_some.1 (h .createChunk)
  obtain ⟨inner, _, rfl, -, -⟩ := at?_cons_eq_some.1 create
  have top {key : String} {e : Document} (he : (Document.object entries).at? [key] = some e) :
      valueAt? key entries = some e := by
    rwa [at?_single] at he
  have size {key : String} {e : Document}
      (he : (Document.object entries).at? ["bulk", key] = some e) :
      valueAt? key inner = some e := by
    rwa [at?_object, there, Option.bind_some, at?_single] at he
  have debug : valueAt? "debug" entries = some (.bool s.debug) := top (h .debug)
  have logLevel : valueAt? "log_level" entries = some (.text s.logLevel) := top (h .logLevel)
  have excerptLength : valueAt? "sql_excerpt_len" entries = some (.ofUInt64 s.excerptLength) :=
    top (h .excerptLength)
  have maxParameters : valueAt? "max_bound_parameters" entries = some (.ofUInt64 s.maxParameters) :=
    top (h .maxParameters)
  have bulk : BulkSettings.ofDocument? (.object inner) = some s.bulk :=
    BulkSettings.ofDocument?_object (size (h .createChunk)) (size (h .updateChunk))
      (size (h .deleteChunk)) (size (h .upsertChunk)) (size (h .insertChunk))
  simp only [ofDocument?, parts?, List.map_cons, List.map_nil, debug, logLevel, excerptLength,
    maxParameters, there, Option.bind_eq_bind, Option.bind_some, part?, bool?, text?,
    word?_ofUInt64, bulk]
  rfl

/-- A document that is laid over the defaults gives the settings that it has, and the others keep
their defaults. -/
theorem ofOverlay?_of_typed {d : Document} (ordered : d.Ordered) (typed : Setting.Typed d) :
    ∃ s, ofOverlay? d = some s ∧ ∀ k : Setting, d.at? k.path = some (k.write (k.of s)) ∨
      d.at? k.path = none ∧ k.of s = k.of {} := by
  have laid (k : Setting) : ∃ v,
      (Document.overlay ({} : Settings).toDocument d).at? k.path = some (k.write v) ∧
        (d.at? k.path = some (k.write v) ∨ d.at? k.path = none ∧ v = k.of {}) := by
    have flat (entries : List (String × Document)) : d.at? k.path ≠ some (.object entries) := by
      intro here
      obtain ⟨v, same⟩ := typed.setting k _ here
      exact k.write_ne_object v entries same.symm
    rw [Document.at?_overlay ordered (typed.along k) flat]
    cases here : d.at? k.path with
    | some e =>
      obtain ⟨v, rfl⟩ := typed.setting k e here
      exact ⟨v, rfl, .inl rfl⟩
    | none =>
      rw [Option.none_or]
      exact ⟨k.of {}, Setting.at?_toDocument {} k, .inr ⟨rfl, rfl⟩⟩
  choose values merged source using laid
  refine ⟨Setting.gather values, ofDocument?_of_forall fun k => ?_, fun k => ?_⟩
  · rw [Setting.of_gather, merged]
  · rw [Setting.of_gather]
    exact source k

theorem load_json {text : String} {d : Document} (read : Document.ofText? text = some d)
    {s : Settings} (laid : ofOverlay? d = some s) : load .json text = .ok s := by
  rw [load, parse?, read]
  simp only [laid]

/-- The document of settings has settings of the right types. -/
theorem typed_toDocument (s : Settings) : Setting.Typed s.toDocument where
  object := ⟨_, rfl⟩
  bulk e here := by
    have sizes : s.toDocument.at? ["bulk"] = some s.bulk.toDocument := by
      simp only [toDocument, Document.ofEntries, List.foldl_cons, List.foldl_nil,
        Document.at?_single, Document.valueAt?_setEntry, String.reduceEq, if_true, if_false]
    rw [sizes] at here
    exact ⟨_, (Option.some.inj here).symm⟩
  setting k e here := by
    rw [Setting.at?_toDocument] at here
    exact ⟨k.of s, (Option.some.inj here).symm⟩

/-- **Settings come back** from every text of their document. -/
theorem load_toDocument (s : Settings) {text : String}
    (read : Document.ofText? text = some s.toDocument) : load .json text = .ok s := by
  obtain ⟨back, laid, source⟩ :=
    ofOverlay?_of_typed (Document.ordered_ofText? read) s.typed_toDocument
  have same : back = s := Setting.ext_of fun k => by
    have here := Setting.at?_toDocument s k
    rcases source k with stands | ⟨absent, -⟩
    · rw [stands, Option.some.injEq] at here
      exact k.write_injective here
    · rw [absent] at here
      cases here
  rw [same] at laid
  exact load_json read laid

/-- The document of settings can be read back from its text. -/
theorem restorable_toDocument (s : Settings) : s.toDocument.Restorable := by
  have number (n : UInt64) : (Document.ofUInt64 n).Legible ∧ (Document.ofUInt64 n).depth ≤ 1 :=
    ⟨Document.legible_whole _, Nat.zero_le _⟩
  have sizes : s.bulk.toDocument.Legible ∧ s.bulk.toDocument.depth ≤ 2 := by
    refine Document.legible_ofEntries ?_
    simp only [List.forall_mem_cons, number, and_self, List.not_mem_nil, IsEmpty.forall_iff,
      implies_true]
  have all : s.toDocument.Legible ∧ s.toDocument.depth ≤ 3 := by
    refine Document.legible_ofEntries ?_
    have deeper (n : UInt64) : (Document.ofUInt64 n).depth ≤ 2 := (number n).2.trans (by decide)
    simp only [List.forall_mem_cons, sizes, number, deeper, Document.legible_bool,
      Document.legible_text, Document.depth, Nat.zero_le, and_self, List.not_mem_nil,
      IsEmpty.forall_iff, implies_true]
  exact ⟨all.1, all.2.trans (by decide)⟩

end Settings

/-! ## The environment -/

/-- Keywords without the letter `k` are found by ASCII letter case alone. -/
theorem Text.lowered_eq_iff {v word : String}
    (plain : ∀ c ∈ word.toList, c.toLower = c ∧ c ≠ 'k' ∧ c ≠ '\u212A') :
    String.ofList (lowered v) = word ↔ sameLetters v word = true := by
  have letter {c d : Char} (other : d ≠ 'k' ∧ d ≠ '\u212A') : lower c = d ↔ c.toLower = d := by
    by_cases kelvin : c = '\u212A'
    · have lowered : lower '\u212A' = 'k' := by decide
      have kept : Char.toLower '\u212A' = '\u212A' := by decide
      rw [kelvin, lowered, kept]
      exact iff_of_false other.1.symm other.2.symm
    · rw [lower, if_neg (by simpa using kelvin)]
  have letters : ∀ cs ds : List Char, (∀ d ∈ ds, d.toLower = d ∧ d ≠ 'k' ∧ d ≠ '\u212A') →
      (cs.map lower = ds ↔ cs.map Char.toLower = ds.map Char.toLower) := by
    intro cs
    induction cs with
    | nil =>
      intro ds _
      cases ds <;> simp
    | cons c cs ih =>
      intro ds plain
      cases ds with
      | nil => simp
      | cons d ds =>
        obtain ⟨first, others⟩ := List.forall_mem_cons.1 plain
        rw [List.map_cons, List.map_cons, List.map_cons, List.cons.injEq, List.cons.injEq,
          letter first.2, ih ds others, first.1]
  rw [sameLetters, beq_iff_eq, ← letters _ _ plain, lowered, ← String.toList_inj,
    String.toList_ofList]

/-- Digits give the number that they denote, if it fits. -/
theorem Settings.wordOfDigits_eq_some {digits : List Char} {n : UInt64} :
    (if digits.isEmpty || !digits.all Char.isDigit then none
      else if Text.digitsValue digits < UInt64.size then
        some (UInt64.ofNat (Text.digitsValue digits))
      else none) = some n ↔
    digits ≠ [] ∧ (∀ c ∈ digits, c.isDigit = true) ∧ Text.digitsValue digits = n.toNat := by
  have fits : Text.digitsValue digits < UInt64.size ∧ UInt64.ofNat (Text.digitsValue digits) = n
      ↔ Text.digitsValue digits = n.toNat := by
    constructor
    · rintro ⟨small, rfl⟩
      exact (UInt64.toNat_ofNat_of_lt' small).symm
    · intro same
      rw [same]
      exact ⟨n.toNat_lt, UInt64.ofNat_toNat⟩
  rw [Option.ite_none_left_eq_some, Option.ite_none_right_eq_some, Option.some.injEq, fits]
  simp [List.isEmpty_iff, and_assoc]

/-- A number is read from exactly the texts that give it. -/
theorem Settings.wordOfText?_eq_some {v : String} {n : UInt64} :
    wordOfText? v = some n ↔ Text.Gives v n := by
  have sign {digits : List Char} (h : ∀ c ∈ digits, c.isDigit = true) (rest : List Char) :
      digits ≠ '+' :: rest := by
    rintro rfl
    cases h '+' List.mem_cons_self
  unfold wordOfText?
  dsimp only
  split
  · next rest text =>
    rw [wordOfDigits_eq_some]
    constructor
    · rintro ⟨some, all, number⟩
      exact ⟨rest, some, all, .inr text, number⟩
    · rintro ⟨digits, some, all, same | same, number⟩
      · exact absurd (same.symm.trans text) (sign all rest)
      · cases same.symm.trans text
        exact ⟨some, all, number⟩
  · next plain =>
    rw [wordOfDigits_eq_some]
    constructor
    · rintro ⟨some, all, number⟩
      exact ⟨v.toList, some, all, .inl rfl, number⟩
    · rintro ⟨digits, some, all, rfl | same, number⟩
      · exact ⟨some, all, number⟩
      · exact absurd same (plain digits)

namespace Setting

variable (lookup : String → Option String)

/-- What the environment gives, as it is looked up. -/
def given? : (k : Setting) → Option k.Value
  | debug => (lookup "TABULA_DEBUG").map fun v =>
      ["true", "1", "yes"].contains (String.ofList (Text.lowered v))
  | logLevel => lookup "TABULA_LOG_LEVEL"
  | excerptLength => (lookup "TABULA_SQL_EXCERPT_LEN").bind Settings.wordOfText?
  | maxParameters => (lookup "TABULA_MAX_BOUND_PARAMETERS").bind Settings.wordOfText?
  | createChunk | updateChunk | deleteChunk | upsertChunk | insertChunk => none

/-- **The environment replaces** what it gives, and nothing else. -/
theorem of_override (s : Settings) (k : Setting) :
    k.of (s.override lookup) = (k.given? lookup).getD (k.of s) := by
  cases k with
  | debug =>
    cases found : lookup "TABULA_DEBUG" <;> simp only [of, Settings.override, given?, found] <;> rfl
  | logLevel | excerptLength | maxParameters | createChunk | updateChunk | deleteChunk
  | upsertChunk | insertChunk => rfl

/-- The environment says yes by one of three words. -/
theorem affirms_iff (text : String) :
    ["true", "1", "yes"].contains (String.ofList (Text.lowered text)) = true
      ↔ ∃ word ∈ ["true", "1", "yes"], Text.sameLetters text word = true := by
  have plain : ∀ word ∈ ["true", "1", "yes"],
      ∀ c ∈ word.toList, c.toLower = c ∧ c ≠ 'k' ∧ c ≠ '\u212A' := by
    have all : (["true", "1", "yes"].all fun word => word.toList.all fun c =>
        decide (c.toLower = c ∧ c ≠ 'k' ∧ c ≠ '\u212A')) = true := by decide
    simpa only [List.all_eq_true, decide_eq_true_eq] using all
  rw [List.contains_iff_mem]
  constructor
  · intro mem
    exact ⟨_, mem, (Text.lowered_eq_iff (plain _ mem)).1 rfl⟩
  · rintro ⟨word, mem, same⟩
    rw [(Text.lowered_eq_iff (plain word mem)).2 same]
    exact mem

/-- It is looked up as it is given. -/
theorem given?_eq_some {k : Setting} {v : k.Value} :
    k.given? lookup = some v ↔ k.Given lookup v := by
  have truth {key : String} {b : Bool} : ((lookup key).map fun text =>
      ["true", "1", "yes"].contains (String.ofList (Text.lowered text))) = some b
        ↔ ∃ text, lookup key = some text ∧
          (b = true ↔ ∃ word ∈ ["true", "1", "yes"], Text.sameLetters text word = true) := by
    rw [Option.map_eq_some_iff]
    refine exists_congr fun text => and_congr_right fun _ => ?_
    rw [← affirms_iff, Bool.eq_iff_iff]
    exact Iff.comm
  have number {key : String} {n : UInt64} : (lookup key).bind Settings.wordOfText? = some n
      ↔ ∃ text, lookup key = some text ∧ Text.Gives text n := by
    rw [Option.bind_eq_some_iff]
    simp only [Settings.wordOfText?_eq_some]
  cases k with
  | debug => exact truth
  | logLevel => exact .rfl
  | excerptLength | maxParameters => exact number
  | createChunk | updateChunk | deleteChunk | upsertChunk | insertChunk =>
    exact iff_of_false nofun id

/-- A setting of what was loaded goes through the layers. -/
theorem layered_of_override {d : Document} {s : Settings} {k : Setting}
    (source : d.at? k.path = some (k.write (k.of s)) ∨ d.at? k.path = none ∧ k.of s = k.of {}) :
    k.Layered lookup d (k.of (s.override lookup)) := by
  rw [of_override]
  cases found : k.given? lookup with
  | some v => exact .environment ((given?_eq_some lookup).1 found)
  | none =>
    have free (v : k.Value) : ¬ k.Given lookup v := by
      intro given
      rw [← given?_eq_some, found] at given
      cases given
    rcases source with here | ⟨absent, same⟩
    · exact .document free here
    · rw [Option.getD_none, same]
      exact .default free absent

end Setting

/-- **Every setting goes through its layers**, and settings come back from their serialization. -/
theorem settings_are_layered :
    (∀ (text : String) (d : Document), Document.ofText? text = some d → Setting.Typed d →
      ∃ s, Settings.load .json text = .ok s ∧ ∀ (lookup : String → Option String) (k : Setting),
        k.Layered lookup d (k.of (s.override lookup))) ∧
    ∀ s : Settings, Settings.load .json s.toDocument.compact = .ok s ∧
      ∀ text : String, Document.ofText? text = some s.toDocument →
        Settings.load .json text = .ok s := by
  constructor
  · intro text d read typed
    obtain ⟨s, laid, source⟩ := Settings.ofOverlay?_of_typed (Document.ordered_ofText? read) typed
    exact ⟨s, Settings.load_json read laid, fun lookup k =>
      Setting.layered_of_override lookup (source k)⟩
  · intro s
    exact ⟨s.load_toDocument (Document.ofText?_compact s.restorable_toDocument),
      fun text read => s.load_toDocument read⟩

/-- An object that has one of the sizes, one other setting and a key of its own. -/
def Document.partialSettings : Document :=
  .object [("bulk", .object [("update_chunk_size", .ofUInt64 7)]), ("colour", .text "red"),
    ("log_level", .text "warn")]

theorem Setting.typed_partialSettings : Typed Document.partialSettings where
  object := ⟨_, rfl⟩
  bulk e here := ⟨_, (Option.some.inj here).symm⟩
  setting k e here := by
    cases k with
    | logLevel => exact ⟨"warn", (Option.some.inj here).symm⟩
    | updateChunk => exact ⟨(7 : UInt64), (Option.some.inj here).symm⟩
    | debug | excerptLength | maxParameters | createChunk | deleteChunk | upsertChunk
    | insertChunk => cases here

theorem partial_settings_are_layered :
    Document.ofText? Document.partialSettings.compact = some Document.partialSettings ∧
    Setting.Typed Document.partialSettings ∧
    ∃ s, Settings.load .json Document.partialSettings.compact = .ok s ∧
      ∀ (lookup : String → Option String) (k : Setting),
        k.Layered lookup Document.partialSettings (k.of (s.override lookup)) := by
  have read : Document.ofText? Document.partialSettings.compact
      = some Document.partialSettings := by decide +kernel
  exact ⟨read, Setting.typed_partialSettings,
    settings_are_layered.1 _ _ read Setting.typed_partialSettings⟩

end RecordMapper
