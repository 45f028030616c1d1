import RecordMapper.Document.Basic

/-!
# Settings

The settings that operations read, each with a default, and their document.
-/

namespace RecordMapper

/-- How many items the bulk operations take at a time. -/
structure BulkSettings where
  /-- Items of a bulk creation. -/
  createChunk : UInt64 := 100
  /-- Items of a bulk update. -/
  updateChunk : UInt64 := 100
  /-- Keys of one DELETE statement. -/
  deleteChunk : UInt64 := 500
  /-- Items of a bulk upsert. -/
  upsertChunk : UInt64 := 50
  /-- Rows of one INSERT statement, before the limit on parameters. -/
  insertChunk : UInt64 := 100
deriving DecidableEq, Repr, Inhabited

/-- The settings. -/
structure Settings where
  /-- Whether logs are for people. -/
  debug : Bool := true
  /-- Which messages are logged. -/
  logLevel : String := "info"
  /-- The number of characters of a statement that a message shows. -/
  excerptLength : UInt64 := 200
  /-- The number of parameters that the engine accepts in one statement. -/
  maxParameters : UInt64 := 100
  /-- The sizes of bulk operations. -/
  bulk : BulkSettings := {}
deriving DecidableEq, Repr, Inhabited

/-- The document of the sizes. -/
def BulkSettings.toDocument (b : BulkSettings) : Document :=
  .ofEntries
    [("create_chunk_size", .ofUInt64 b.createChunk), ("update_chunk_size", .ofUInt64 b.updateChunk),
     ("delete_chunk_size", .ofUInt64 b.deleteChunk), ("upsert_chunk_size", .ofUInt64 b.upsertChunk),
     ("insert_chunk_size", .ofUInt64 b.insertChunk)]

/-- The document of the settings. -/
def Settings.toDocument (s : Settings) : Document :=
  .ofEntries
    [("debug", .bool s.debug), ("log_level", .text s.logLevel),
     ("sql_excerpt_len", .ofUInt64 s.excerptLength),
     ("max_bound_parameters", .ofUInt64 s.maxParameters), ("bulk", s.bulk.toDocument)]

end RecordMapper
