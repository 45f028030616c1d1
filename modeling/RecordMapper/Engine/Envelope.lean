import RecordMapper.Document.Reader
import RecordMapper.Engine.Basic
import RecordMapper.Text.Quoted

/-!
# Envelopes

The JSON text in which a service wraps its answer: rows, whether the statement succeeded, what is
reported besides, and the message of a failure.

* A structure is an object, whose unknown keys are passed over and whose known keys occur once, or
  an array of its parts in order; a part that is missing keeps its default
  (`EnvelopeReader.ofParts`).
* Structures and lists are read piece by piece, so the first fault in the order of the text decides,
  whatever the text after it holds.
* `Envelope.answerOfText` is the wrapped answer. A text that is no envelope is a rejection, whose
  message says what is wrong.
-/

namespace RecordMapper

/-- Why a text is no envelope. -/
inductive EnvelopeFault where
  /-- It is no JSON, or holds a number or a text that cannot be read. -/
  | unreadable
  /-- A part is given twice. -/
  | repeated (name : String)
  /-- A text stands where something else is asked for. -/
  | unexpectedText (found : String)
  /-- Something else stands where something other is asked for. -/
  | mistyped
deriving DecidableEq, Repr

/-- The words of a fault. -/
def EnvelopeFault.message : EnvelopeFault → String
  | .unreadable => "Malformed response body"
  | .repeated name => "Malformed response body: duplicate field `" ++ name ++ "`"
  | .unexpectedText found =>
    "Malformed response body: invalid type: string " ++ Text.quoteDouble found
  | .mistyped => "Malformed response body: invalid type"

/-- What reading a part gives. -/
abbrev EnvelopeRead (α : Type) : Type := Except EnvelopeFault α

namespace RawDocument

variable {α σ : Type}

/-! ## Typed values -/

/-- What can be read, or the fault of a text or number that cannot. -/
def readable : Option α → EnvelopeRead α
  | some a => .ok a
  | none => .error .unreadable

/-- The fault of a document that is not what is asked for. -/
def unexpected (d : RawDocument) : EnvelopeRead α :=
  match d with
  | .text cs => do throw (.unexpectedText (← readable (RawChar.text? cs)))
  | _ => .error .mistyped

/-- Reads null as the absence of what `read` reads. -/
def toOption (read : RawDocument → EnvelopeRead α) : RawDocument → EnvelopeRead (Option α)
  | .null => .ok none
  | d => some <$> read d

/-- The truth value of a document. -/
def toBool : RawDocument → EnvelopeRead Bool
  | .bool b => .ok b
  | d => unexpected d

/-- The text of a document. -/
def toText : RawDocument → EnvelopeRead String
  | .text cs => readable (RawChar.text? cs)
  | d => unexpected d

/-- The unsigned word of a number that is written as one. -/
def toUnsigned (d : RawDocument) : EnvelopeRead UInt64 :=
  match d with
  | .number n =>
    match n.whole? with
    | some w => if 0 ≤ w.val then .ok (UInt64.ofNat w.val.toNat) else .error .mistyped
    | none => .error .mistyped
  | d => unexpected d

/-- The signed word of a number that is written as one. -/
def toSigned (d : RawDocument) : EnvelopeRead Int64 :=
  match d with
  | .number n =>
    match n.whole? with
    | some w => if w.val < 0x8000000000000000 then .ok (Int64.ofInt w.val) else .error .mistyped
    | none => .error .mistyped
  | d => unexpected d

/-- The float of any number. -/
def toFloat (d : RawDocument) : EnvelopeRead Binary64 :=
  match d with
  | .number n => do
    match ← readable n.read? with
    | .whole w => return .ofInt w.val
    | .float x => return .finite x
  | d => unexpected d

/-- The entries of an object in the order of their keys, the last one of each key; the values are
nested at most `levels` deep. -/
def toEntries (levels : Nat) : RawDocument → EnvelopeRead (List (String × Document))
  | .object entries => do
    let entries ← readable (Document.ofRawEntries? levels entries)
    return entries.foldl (fun sorted entry => Document.setEntry entry.1 entry.2 sorted) []
  | d => unexpected d

end RawDocument

/-! ## Reading piece by piece -/

/-- Reads what stands at the start of a text, and leaves the rest. -/
abbrev EnvelopeReader (α : Type) : Type := List Char → EnvelopeRead (α × List Char)

/-- A part of a structure: its name, other spellings of the name, and how its value is stored. -/
structure NamedPart (σ : Type) where
  /-- The name. -/
  name : String
  /-- The other spellings. -/
  spellings : List String := []
  /-- Reads the value of the part and stores it in a structure. -/
  store : σ → EnvelopeReader σ

namespace EnvelopeReader

open RawDocument

variable {α σ : Type}

/-- Reads a whole document, and from that what is asked for. -/
def whole (read : RawDocument → EnvelopeRead α) : EnvelopeReader α := fun cs => do
  let (d, rest) ← readable (RawDocument.read? cs.length cs)
  return (← read d, rest)

/-- Reads a value and stores it. -/
def storing (read : EnvelopeReader α) (set : σ → α → σ) (structured : σ) : EnvelopeReader σ :=
  fun cs => do
    let (value, rest) ← read cs
    return (set structured value, rest)

/-! ### Arrays -/

/-- Reads the items of an array after its opening bracket or a comma: at least one, each read by
`item`, which adds it to those before. -/
def items (item : σ → EnvelopeReader σ) : Nat → σ → EnvelopeReader σ
  | 0, _, _ => .error .unreadable
  | fuel + 1, gathered, cs => do
    let (gathered, cs) ← item gathered (skipBlanks cs)
    match skipBlanks cs with
    | ',' :: cs => items item fuel gathered cs
    | ']' :: cs => return (gathered, cs)
    | _ => .error .unreadable

/-- Reads an array after its opening bracket. -/
def array (item : σ → EnvelopeReader σ) (empty : σ) : EnvelopeReader σ := fun cs =>
  match skipBlanks cs with
  | ']' :: rest => .ok (empty, rest)
  | _ => items item (cs.length + 1) empty cs

/-- Reads a list, each item by `read`. -/
def list (read : EnvelopeReader α) : EnvelopeReader (List α)
  | '[' :: cs => do
    let (gathered, rest) ← array (storing read fun before item => item :: before) [] cs
    return (gathered.reverse, rest)
  | cs => whole unexpected cs

/-! ### Structures -/

/-- The part that a key names, if any. A part that was given before is a fault. -/
def partOf (parts : List (NamedPart σ)) (seen : List String) (key : String) :
    EnvelopeRead (Option (NamedPart σ)) :=
  match parts.find? fun part => part.name == key || part.spellings.contains key with
  | some part => if seen.contains part.name then .error (.repeated part.name) else .ok (some part)
  | none => .ok none

/-- Reads the value of a part and stores it; a value without a part is passed over. -/
def storeValue (part : Option (NamedPart σ)) (structured : σ) : EnvelopeReader σ :=
  match part with
  | some part => part.store structured
  | none => whole fun _ => .ok structured

/-- Reads the entries of an object after its opening brace or a comma, and stores those that are
parts; `seen` are the parts before. The key alone tells that a part is given twice. -/
def entries (parts : List (NamedPart σ)) : Nat → List String → σ → EnvelopeReader σ
  | 0, _, _, _ => .error .unreadable
  | fuel + 1, seen, structured, cs =>
    match skipBlanks cs with
    | '"' :: cs => do
      let (key, cs) ← readable (readText? cs)
      let part ← partOf parts seen (← readable (RawChar.text? key))
      match skipBlanks cs with
      | ':' :: cs =>
        let (structured, cs) ← storeValue part structured (skipBlanks cs)
        match skipBlanks cs with
        | ',' :: cs => entries parts fuel ((part.map (·.name)).toList ++ seen) structured cs
        | '\x7d' :: cs => return (structured, cs)
        | _ => .error .unreadable
      | _ => .error .unreadable
    | _ => .error .unreadable

/-- Reads the next of the parts that remain. -/
def nextPart : List (NamedPart σ) × σ → EnvelopeReader (List (NamedPart σ) × σ)
  | ([], _), _ => .error .mistyped
  | (part :: parts, structured), cs => do
    let (structured, rest) ← part.store structured cs
    return ((parts, structured), rest)

/-- Reads a structure of the given parts; those that are missing are as in `standard`. -/
def ofParts (parts : List (NamedPart σ)) (standard : σ) : EnvelopeReader σ
  | '\x7b' :: cs =>
    match skipBlanks cs with
    | '\x7d' :: rest => .ok (standard, rest)
    | _ => entries parts (cs.length + 1) [] standard cs
  | '[' :: cs => do
    let ((_, structured), rest) ← array nextPart (parts, standard) cs
    return (structured, rest)
  | cs => whole unexpected cs

end EnvelopeReader

/-! ## Envelopes -/

/-- A wrapped answer. -/
structure Envelope where
  /-- The rows, as the entries of objects. -/
  rows : List (List (String × Document)) := []
  /-- Whether the statement succeeded. -/
  success : Bool := false
  /-- What is reported besides. -/
  info : ReplyInfo := {}
  /-- The message of a failure. -/
  error : Option String := none

namespace Envelope

open RawDocument EnvelopeReader

/-- The parts of what is reported besides. -/
def infoParts : List (NamedPart ReplyInfo) :=
  [{ name := "changes"
     store := storing (whole toUnsigned) fun i n => { i with changes := n } },
   { name := "last_insert_id", spellings := ["lastInsertId", "last_row_id", "lastRowId"]
     store := storing (whole (toOption toSigned)) fun i n => { i with lastInsertId := n } },
   { name := "rows_read", spellings := ["rowsRead"]
     store := storing (whole (toOption toUnsigned)) fun i n => { i with rowsRead := n } },
   { name := "rows_written", spellings := ["rowsWritten"]
     store := storing (whole (toOption toUnsigned)) fun i n => { i with rowsWritten := n } },
   { name := "duration_ms", spellings := ["durationMs", "duration"]
     store := storing (whole (toOption toFloat)) fun i x => { i with durationMs := x } }]

/-- The parts of an envelope. A value of a row stands three levels deep. -/
def parts : List (NamedPart Envelope) :=
  [{ name := "rows", spellings := ["results"]
     store := storing (list (whole (toEntries (Document.maxDepth - 3))))
       fun e rows => { e with rows := rows } },
   { name := "success"
     store := storing (whole toBool) fun e b => { e with success := b } },
   { name := "meta"
     store := storing (ofParts infoParts {}) fun e i => { e with info := i } },
   { name := "error"
     store := storing (whole (toOption toText)) fun e message => { e with error := message } }]

/-- Reads an envelope, after which only blanks may stand. -/
def ofText (body : String) : EnvelopeRead Envelope := do
  let (e, rest) ← ofParts parts {} (skipBlanks body.toList)
  if (skipBlanks rest).isEmpty then return e else throw .unreadable

/-- The answer in an envelope. -/
def answer (e : Envelope) : Answer :=
  if e.success then .ok ⟨e.rows.map Record.ofObject, e.info⟩
  else .error ⟨e.error.getD "Remote execution failed without a message"⟩

/-- The answer in the text of an envelope. -/
def answerOfText (body : String) : Answer :=
  match ofText body with
  | .ok e => e.answer
  | .error fault => .error ⟨fault.message⟩

end Envelope

end RecordMapper
