import RecordMapper.Instant.Reader
import RecordMapper.Value.Basic

/-!
# Values as instants

A value is an instant if it is one or if it is a text that spells one.
-/

namespace RecordMapper.Value

/-- The instant that a value is or spells. -/
def asInstant? : Value → Option Instant
  | .instant t => some t
  | .text s => Instant.ofText? s
  | _ => none

/-- The value that marks the time `now` in a record: the canonical text. -/
def stamp (now : Instant) : Value :=
  .text now.canonical

end RecordMapper.Value
