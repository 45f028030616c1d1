import RecordMapper.Document.Reader
import RecordMapper.Failure.Basic
import RecordMapper.Settings.Basic
import RecordMapper.Toml.Tables

/-!
# Loading settings

Settings come from three places: the defaults, a TOML or JSON text that is laid over them, and the
environment, which has the last word.

* `Document.overlay` lays one document over another, object by object.
* `Settings.ofDocument?` reads settings from a document; what is missing takes its default.
* `Settings.load` and `Settings.override` are the two steps.
-/

namespace RecordMapper

/-! ## Laying documents over each other -/

namespace Document

mutual

/-- A document laid over another: where both are objects their entries are laid over each other, and
otherwise the upper one counts. -/
def overlay (base : Document) : Document → Document
  | .object entries =>
    match base with
    | .object below => .object (overlayEntries below entries)
    | _ => .object entries
  | d => d

/-- The entries of an object laid over those of another. -/
def overlayEntries (below : List (String × Document)) :
    List (String × Document) → List (String × Document)
  | [] => below
  | (key, value) :: rest =>
    let merged := match valueAt? key below with
      | some old => overlay old value
      | none => value
    overlayEntries (setEntry key merged below) rest

end

/-- The values that a document gives to a list of names: those of an object by name, those of an
array in order. None if the document is neither or the array is too long. -/
def parts? (names : List String) : Document → Option (List (Option Document))
  | .object entries => some (names.map fun name => valueAt? name entries)
  | .array items =>
    if items.length ≤ names.length then
      some (items.map some ++ List.replicate (names.length - items.length) none)
    else none
  | _ => none

/-- The unsigned word of a whole number. -/
def word? : Document → Option UInt64
  | .number (.whole n) => if 0 ≤ n.val then some (UInt64.ofNat n.val.toNat) else none
  | _ => none

/-- The truth value of a document. -/
def bool? : Document → Option Bool
  | .bool b => some b
  | _ => none

/-- The text of a document. -/
def text? : Document → Option String
  | .text s => some s
  | _ => none

/-- Reads a part that may be missing. -/
def part? {α : Type} (default : α) (read : Document → Option α) : Option Document → Option α
  | none => some default
  | some d => read d

end Document

/-! ## Reading settings -/

open Document in
/-- Reads the sizes of bulk operations. -/
def BulkSettings.ofDocument? (d : Document) : Option BulkSettings := do
  let standard : BulkSettings := {}
  match ← parts? ["create_chunk_size", "update_chunk_size", "delete_chunk_size",
      "upsert_chunk_size", "insert_chunk_size"] d with
  | [create, update, delete, upsert, insert] =>
    let create ← part? standard.createChunk word? create
    let update ← part? standard.updateChunk word? update
    let delete ← part? standard.deleteChunk word? delete
    let upsert ← part? standard.upsertChunk word? upsert
    let insert ← part? standard.insertChunk word? insert
    return ⟨create, update, delete, upsert, insert⟩
  | _ => none

namespace Settings

open Document in
/-- Reads settings. -/
def ofDocument? (d : Document) : Option Settings := do
  let standard : Settings := {}
  match ← parts? ["debug", "log_level", "sql_excerpt_len", "max_bound_parameters", "bulk"] d with
  | [debug, logLevel, excerptLength, maxParameters, bulk] =>
    let debug ← part? standard.debug bool? debug
    let logLevel ← part? standard.logLevel text? logLevel
    let excerptLength ← part? standard.excerptLength word? excerptLength
    let maxParameters ← part? standard.maxParameters word? maxParameters
    let bulk ← part? standard.bulk BulkSettings.ofDocument? bulk
    return ⟨debug, logLevel, excerptLength, maxParameters, bulk⟩
  | _ => none

/-- Reads a text of a format as a document. -/
def parse? : SettingsFormat → String → Option Document
  | .toml, text => Document.ofToml? text
  | .json, text => Document.ofText? text

/-- The settings of a document laid over the defaults. -/
def ofOverlay? (d : Document) : Option Settings :=
  ofDocument? (Document.overlay ({} : Settings).toDocument d)

/-- The settings of a text, laid over the defaults. -/
def load (format : SettingsFormat) (text : String) : Except Error Settings :=
  match parse? format text with
  | none => .error (.settings (.malformed format))
  | some d =>
    match ofOverlay? d with
    | some s => .ok s
    | none => .error (.settings (.mistyped format))

/-- The settings of a file's text, which is none if the file cannot be read. -/
def loadFile (format : SettingsFormat) : Option String → Except Error Settings
  | some text => load format text
  | none => .error (.settings (.unreadable format))

/-! ## The environment -/

/-- The unsigned word that decimal digits denote; a plus sign may lead them. -/
def wordOfText? (s : String) : Option UInt64 :=
  let digits := match s.toList with
    | '+' :: rest => rest
    | cs => cs
  if digits.isEmpty || !digits.all Char.isDigit then none
  else
    let n := Text.digitsValue digits
    if n < UInt64.size then some (UInt64.ofNat n) else none

/-- The settings with those that the environment gives. A number that is none is passed over. -/
def override (lookup : String → Option String) (s : Settings) : Settings where
  debug := match lookup "TABULA_DEBUG" with
    | some v => ["true", "1", "yes"].contains (String.ofList (Text.lowered v))
    | none => s.debug
  logLevel := (lookup "TABULA_LOG_LEVEL").getD s.logLevel
  excerptLength := ((lookup "TABULA_SQL_EXCERPT_LEN").bind wordOfText?).getD s.excerptLength
  maxParameters := ((lookup "TABULA_MAX_BOUND_PARAMETERS").bind wordOfText?).getD s.maxParameters
  bulk := s.bulk

end Settings

end RecordMapper
