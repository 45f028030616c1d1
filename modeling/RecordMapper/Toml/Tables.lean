import RecordMapper.Document.Basic
import RecordMapper.Toml.Grammar

/-!
# Tables of TOML

Building the tables of a TOML text from its expressions. A table can be defined once: by a header,
by the keys of a header below it, by keys with points, or inline; `Origin` says by which, and with
that what may still be added to it.

* `placeValue?`, `startTable?` and `startElement?` add what an expression says, making the tables on
  the way.
* A table keeps its keys in the order in which they were given, since the first one tells whether
  the table stands for a date (`dateKey`).
* `Document.ofToml?` is the whole text as a document; dates and times become text.
-/

namespace RecordMapper.Toml

/-- By what a table was defined. -/
inductive Origin where
  /-- By its own header. -/
  | header
  /-- By the header of a table below it; its own header may follow. -/
  | implied
  /-- By keys with points; only such keys may add to it. -/
  | pointed
  /-- By an inline table; nothing may be added to it. -/
  | inline
deriving DecidableEq, Repr

/-- A node of the tables in the making. -/
inductive Node where
  /-- A text, a number or a truth value. -/
  | leaf (value : Document)
  /-- A date or time. -/
  | datetime (d : Datetime)
  /-- An array of values. -/
  | array (items : List Node)
  /-- A table. -/
  | table (origin : Origin) (entries : List (String × Node))
  /-- An array of tables, the last one first. -/
  | tables (elements : List (List (String × Node)))
deriving Repr

/-- The entries of a table. -/
abbrev Entries : Type := List (String × Node)

/-- The node of a key. -/
def Entries.get? (entries : Entries) (key : String) : Option Node :=
  (entries.find? fun entry => entry.1 == key).map (·.2)

/-- Gives a key a node, in its place or else at the end. -/
def Entries.set (entries : Entries) (key : String) (node : Node) : Entries :=
  if (entries.get? key).isSome then
    entries.map fun entry => if entry.1 == key then (key, node) else entry
  else entries ++ [(key, node)]

/-- Gives a key a node, at the end. -/
def Entries.setLast (entries : Entries) (key : String) (node : Node) : Entries :=
  (entries.filter fun entry => entry.1 != key) ++ [(key, node)]

/-! ## Placing -/

/-- Changes the table at the end of a path, making tables on the way. With `pointed` the path is
within a key of a pair: the tables that it makes are so marked, and it does not enter a table that
has its own header. No path enters an inline table. -/
def descend? (pointed : Bool) (change : Origin → Entries → Option Entries) :
    List String → Origin → Entries → Option Entries
  | [], origin, entries => change origin entries
  | key :: path, _, entries =>
    match entries.get? key with
    | none =>
      let origin := if pointed then Origin.pointed else Origin.implied
      (descend? pointed change path origin []).map fun child =>
        entries.set key (.table origin child)
    | some (.tables []) => none
    | some (.tables (last :: earlier)) =>
      (descend? pointed change path .header last).map fun child =>
        entries.set key (.tables (child :: earlier))
    | some (.table origin child) =>
      if origin == .inline || pointed && origin == .header then none
      else
        (descend? pointed change path origin child).map fun child =>
          entries.set key (.table origin child)
    | some _ => none

/-- Puts a value at a key of the current table. A path of a key with points must end in a table made
by such keys. -/
def placeValue? (key : Key) (value : Node) (origin : Origin) (entries : Entries) :
    Option Entries :=
  match key.getLast? with
  | none => none
  | some last =>
    let path := key.dropLast
    let insert (origin : Origin) (entries : Entries) : Option Entries :=
      if !path.isEmpty && origin != .pointed then none
      else if (entries.get? last).isSome then none
      else some (entries.set last value)
    descend? true insert path origin entries

/-- Starts the table of a header. An implied table takes a new place, after all that its parent
holds. -/
def startTable? (key : Key) (entries : Entries) : Option Entries :=
  match key.getLast? with
  | none => none
  | some last =>
    let start (_ : Origin) (entries : Entries) : Option Entries :=
      match entries.get? last with
      | none => some (entries.set last (.table .header []))
      | some (.table .implied child) => some (entries.setLast last (.table .header child))
      | some _ => none
    descend? false start key.dropLast .header entries

/-- Starts one more table of an array. -/
def startElement? (key : Key) (entries : Entries) : Option Entries :=
  match key.getLast? with
  | none => none
  | some last =>
    let start (_ : Origin) (entries : Entries) : Option Entries :=
      match entries.get? last with
      | none => some (entries.set last (.tables [[]]))
      | some (.tables elements) => some (entries.set last (.tables ([] :: elements)))
      | some _ => none
    descend? false start key.dropLast .header entries

/-! ## Values -/

/-- The document of a number. -/
def numberDocument : Number → Document
  | .integer n => .ofInt64 n
  | .float x => .ofBinary64 x

mutual

/-- The node of a written value. The pairs of an inline table must fit together. -/
def Written.node? : Written → Option Node
  | .text s => some (.leaf (.text s))
  | .number n => some (.leaf (numberDocument n))
  | .bool b => some (.leaf (.bool b))
  | .datetime d => some (.datetime d)
  | .array items => (itemNodes? items).map .array
  | .inline pairs => (inlineEntries? [] pairs).map (.table .inline)

/-- The nodes of an array's items. -/
def itemNodes? : List Written → Option (List Node)
  | [] => some []
  | item :: rest =>
    match item.node?, itemNodes? rest with
    | some node, some nodes => some (node :: nodes)
    | _, _ => none

/-- The entries of an inline table with its pairs added one by one. -/
def inlineEntries? (entries : Entries) : List (Key × Written) → Option Entries
  | [] => some entries
  | (key, value) :: rest =>
    match value.node? with
    | some node =>
      (placeValue? key node .header entries).bind fun entries => inlineEntries? entries rest
    | none => none

end

/-! ## Documents -/

/-- The key by which a table stands for a date: where it is the first one, the table is the date or
time that its text writes, and the other keys do not count. -/
def dateKey : String := "$__toml_private_datetime"

/-- The document of a date or time that a text writes. -/
def writtenDate? : Node → Option Document
  | .leaf (.text s) => (Datetime.ofText? s).map fun d => .text d.text
  | _ => none

mutual

/-- The document of a node. -/
def Node.document? : Node → Option Document
  | .leaf value => some value
  | .datetime d => some (.text d.text)
  | .array items => (itemDocuments? items).map .array
  | .table _ entries => tableDocument? entries
  | .tables elements => (elementDocuments? elements).map fun ds => .array ds.reverse

/-- The document of a table. -/
def tableDocument? : List (String × Node) → Option Document
  | [] => some (.ofEntries [])
  | (key, node) :: rest =>
    if key == dateKey then writtenDate? node
    else
      match node.document?, entryDocuments? rest with
      | some d, some ds => some (.ofEntries ((key, d) :: ds))
      | _, _ => none

/-- The documents of a table's entries. -/
def entryDocuments? : List (String × Node) → Option (List (String × Document))
  | [] => some []
  | (key, node) :: rest =>
    match node.document?, entryDocuments? rest with
    | some d, some ds => some ((key, d) :: ds)
    | _, _ => none

/-- The documents of an array's items. -/
def itemDocuments? : List Node → Option (List Document)
  | [] => some []
  | node :: rest =>
    match node.document?, itemDocuments? rest with
    | some d, some ds => some (d :: ds)
    | _, _ => none

/-- The documents of an array's tables. -/
def elementDocuments? : List (List (String × Node)) → Option (List Document)
  | [] => some []
  | entries :: rest =>
    match tableDocument? entries, elementDocuments? rest with
    | some d, some ds => some (d :: ds)
    | _, _ => none

end

/-! ## Whole texts -/

/-- Adds the expressions to the tables, one by one; `current` is the key of the last header. -/
def build? (current : Key) (entries : Entries) : List Expression → Option Entries
  | [] => some entries
  | .pair key value :: rest => do
    let node ← value.node?
    let entries ← descend? false (placeValue? key node) current .header entries
    build? current entries rest
  | .table key :: rest => do
    let entries ← startTable? key entries
    build? key entries rest
  | .element key :: rest => do
    let entries ← startElement? key entries
    build? key entries rest

end RecordMapper.Toml

namespace RecordMapper

/-- Reads a TOML text as a document; infinities and NaN become null. -/
def Document.ofToml? (s : String) : Option Document := do
  let expressions ← Toml.expressions? s
  let entries ← Toml.build? [] [] expressions
  Toml.tableDocument? entries

end RecordMapper
