import RecordMapper.Record.Basic
import RecordMapper.Sql.Template

/-!
# Engines

What answers statements: an engine gives a reply or rejects the statement with a message, and moves
to its next state. An engine is whatever has this shape, be it a script, a table or a remote
service.
-/

namespace RecordMapper

/-- What an engine reports about a statement that it ran. -/
structure ReplyInfo where
  /-- The number of rows that were changed. -/
  changes : UInt64 := 0
  /-- The identifier that the engine gave to an inserted row. -/
  lastInsertId : Option Int64 := none
  /-- The number of rows that were read. -/
  rowsRead : Option UInt64 := none
  /-- The number of rows that were written. -/
  rowsWritten : Option UInt64 := none
  /-- The time that the statement took. -/
  durationMs : Option Binary64 := none
deriving DecidableEq, Repr, Inhabited

/-- Whether no row was changed. -/
def ReplyInfo.changedNothing (info : ReplyInfo) : Bool :=
  info.changes == 0

/-- The outcome of a statement that ran. -/
structure Reply where
  /-- The rows. -/
  rows : List Record := []
  /-- What is reported besides. -/
  info : ReplyInfo := {}
deriving DecidableEq, Repr, Inhabited

/-- The first row. -/
def Reply.first? (reply : Reply) : Option Record :=
  reply.rows.head?

/-- The message with which a statement is rejected. -/
structure Rejection where
  /-- The message. -/
  message : String
deriving DecidableEq, Repr, Inhabited

/-- What an engine answers. -/
abbrev Answer : Type := Except Rejection Reply

/-- An engine with states `σ`. -/
abbrev Engine (σ : Type) : Type := Statement → σ → Answer × σ

/-- The engine that answers every statement with an empty reply. -/
def Engine.silent {σ : Type} : Engine σ := fun _ state => (.ok {}, state)

end RecordMapper
