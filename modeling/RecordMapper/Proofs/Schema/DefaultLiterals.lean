import RecordMapper.Proofs.Text.Literals
import RecordMapper.Schema.Definition

/-!
# Literals of defaults

Where the literal of a default stands in the definition of its table, and what it is read as there.

* `Value.Quoted`: the values that are written as string literals, with the texts that these denote.
* `Field.columnSql_default`: the literal ends the declaration of its column.
* `Schema.createSql_column`: the declaration of a column stands in that of the table, and no quote
  follows it.
* `default_literals_denote_texts` puts them together: the literal of a default ends where it was
  ended, wherever it stands, and denotes the text of the default, which no other text does.
-/

namespace RecordMapper

/-! ## Quoted values -/

/-- The values that are written as string literals, with the texts that they are written as: a text,
the canonical text of an instant, and the text of a document. -/
inductive Value.Quoted : Value → String → Prop
  /-- A text as it is. -/
  | text (s : String) : Quoted (.text s) s
  /-- An instant. -/
  | instant (t : Instant) : Quoted (.instant t) t.canonical
  /-- A document. -/
  | document (d : Document) : Quoted (.document d) d.compact

theorem Value.Quoted.literalSql_eq {v : Value} {text : String} (h : v.Quoted text) :
    v.literalSql = Text.quoteSingle text := by
  cases h <;> rfl

/-! ## Declarations -/

/-- **A declaration with a literal default** is the one without it, and the literal after it. -/
theorem Field.columnSql_default {f : Field} {v : Value} (literal : f.default? = some (.literal v)) :
    f.columnSql
      = ({ f with default? := none } : Field).columnSql ++ " DEFAULT " ++ v.literalSql := by
  simp only [columnSql, defaultSql?, literal, String.append_assoc, String.append_empty]

/-- One of several joined texts is followed by nothing, or by a separator. -/
theorem Text.intercalate_of_mem (sep : String) {text : String} {texts : List String}
    (h : text ∈ texts) :
    ∃ before after, sep.intercalate texts = before ++ text ++ after ∧
      (after = "" ∨ ∃ rest, after = sep ++ rest) := by
  induction texts with
  | nil => cases h
  | cons first rest ih =>
    cases rest with
    | nil =>
      obtain rfl := List.mem_singleton.1 h
      exact ⟨"", "", by simp, .inl rfl⟩
    | cons second more =>
      rw [String.intercalate_cons_cons]
      rcases List.mem_cons.1 h with rfl | later
      · exact ⟨"", sep ++ sep.intercalate (second :: more), by simp [String.append_assoc],
          .inr ⟨_, rfl⟩⟩
      · obtain ⟨before, after, joined, ends⟩ := ih later
        exact ⟨first ++ sep ++ before, after, by simp [joined, String.append_assoc], ends⟩

/-- **The declaration of a column** stands in that of the table, and no quote follows it. -/
theorem Schema.createSql_column {s : Schema} {f : Field} (hf : f ∈ s.fields) :
    ∃ before after : String, s.createSql = before ++ f.columnSql ++ after ∧
      after.toList.head? ≠ some '\'' := by
  have column : f.columnSql ∈ s.fields.map Field.columnSql
      ++ s.fields.filterMap fun f => f.relation.map (foreignKeySql f) :=
    List.mem_append_left _ (List.mem_map_of_mem hf)
  obtain ⟨before, after, joined, ends⟩ := Text.intercalate_of_mem ", " column
  refine ⟨"CREATE TABLE " ++ s.table ++ " (" ++ before, after ++ ")", ?_, ?_⟩
  · -- By definition: the equation of `createSql` takes seconds to make.
    change "CREATE TABLE " ++ s.table ++ " (" ++ ", ".intercalate _ ++ ")" = _
    simp only [joined, String.append_assoc]
  · rcases ends with rfl | ⟨rest, rfl⟩
    · decide
    · rw [String.append_assoc, String.toList_append]
      have comma : (", ".toList ++ (rest ++ ")").toList).head? = some ',' := rfl
      rw [comma]
      decide

/-! ## Defaults -/

namespace Field

/-- The default of a field is written as a string literal, for this text. -/
def DefaultsTo (f : Field) (text : String) : Prop :=
  ∃ v : Value, f.default? = some (.literal v) ∧ v.Quoted text

/-- What is read of the literal that the default `text` of a field is written as. -/
structure WritesDefault (f : Field) (text literal : String) : Prop where
  /-- This literal is written. -/
  written : f.defaultSql? = some literal
  /-- It denotes the text up to its last character, and nothing else does. -/
  denotes : ∀ cs, Text.readLiteral? cs = some (text.toList, []) ↔ cs = literal.toList
  /-- It ends the declaration of the column. -/
  column : f.columnSql
    = ({ f with default? := none } : Field).columnSql ++ " DEFAULT " ++ literal
  /-- Within the declaration of any table that has the field, it denotes the text and ends where the
  declaration of the column ends. -/
  table : ∀ s : Schema, f ∈ s.fields → ∃ before after : String,
    s.createSql = before ++ f.columnSql ++ after ∧
      Text.readLiteral? (literal ++ after).toList = some (text.toList, after.toList)

theorem DefaultsTo.defaultSql? {f : Field} {text : String} (h : f.DefaultsTo text) :
    f.defaultSql? = some (Text.quoteSingle text) := by
  obtain ⟨v, literal, quoted⟩ := h
  rw [← quoted.literalSql_eq, Field.defaultSql?, literal]

/-- **The literal of a default** is read as its text, wherever it stands. -/
theorem DefaultsTo.writes {f : Field} {text : String} (h : f.DefaultsTo text) :
    f.WritesDefault text (Text.quoteSingle text) where
  written := h.defaultSql?
  denotes _ := Text.readLiteral?_eq_whole
  column := by
    obtain ⟨v, literal, quoted⟩ := h
    rw [columnSql_default literal, quoted.literalSql_eq]
  table s hf := by
    obtain ⟨before, after, whole, ends⟩ := Schema.createSql_column hf
    refine ⟨before, after, whole, ?_⟩
    rw [String.toList_append]
    exact Text.readLiteral?_quoteSingle text ends

end Field

/-- **A literal denotes its text.** Of all texts, a reader that starts after the opening quote,
takes two quotes for one and stops at the first one that is not doubled collects a given text and
stops at the very end exactly of the literal for that text. So a default that is a text, an instant
or a document is written as a literal that ends nowhere before its last character, neither by itself
nor in the declaration of its column or of a table with it; and two such defaults are written alike
exactly if their texts are the same. -/
theorem default_literals_denote_texts :
    (∀ (s : String) (cs : List Char),
      Text.readLiteral? cs = some (s.toList, []) ↔ cs = (Text.quoteSingle s).toList) ∧
    (∀ (f : Field) (text : String), f.DefaultsTo text →
      ∃ literal, f.WritesDefault text literal) ∧
    ∀ (f g : Field) (text other : String), f.DefaultsTo text → g.DefaultsTo other →
      (f.defaultSql? = g.defaultSql? ↔ text = other) := by
  refine ⟨fun _ _ => Text.readLiteral?_eq_whole, fun f text h => ⟨_, h.writes⟩,
    fun f g text other hf hg => ?_⟩
  rw [hf.defaultSql?, hg.defaultSql?, Option.some_inj, Text.quoteSingle_inj]

/-- A field whose default starts and ends with quotes. -/
def mottoText : Field where
  name := "motto"
  kind := .string
  default? := some (.literal (.text "'tis so''"))

/-- A field whose default is an instant. -/
def mottoDate : Field where
  name := "coined"
  kind := .date
  default? := some (.literal (.instant default))

/-- A motto with quotes at both ends is read back, and is not written like the date beside it. -/
theorem motto_is_read_back :
    mottoText.DefaultsTo "'tis so''" ∧ mottoDate.DefaultsTo "1970-01-01T00:00:00.000Z" ∧
      mottoText.WritesDefault "'tis so''" "'''tis so'''''" ∧
      mottoText.defaultSql? ≠ mottoDate.defaultSql? := by
  have text : mottoText.DefaultsTo "'tis so''" := ⟨_, rfl, .text _⟩
  have date : mottoDate.DefaultsTo "1970-01-01T00:00:00.000Z" := ⟨_, rfl, .instant default⟩
  obtain ⟨-, written, apart⟩ := default_literals_denote_texts
  refine ⟨text, date, ?_, fun same => ?_⟩
  · obtain ⟨literal, writes⟩ := written mottoText _ text
    have spelled : literal = "'''tis so'''''" := Option.some.inj (writes.written.symm.trans rfl)
    exact spelled ▸ writes
  · exact absurd ((apart _ _ _ _ text date).1 same) (by decide)

end RecordMapper
