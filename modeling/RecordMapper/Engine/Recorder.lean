import RecordMapper.Engine.Basic

/-!
# Recorders

An engine that records every statement it receives and answers from a script. When the script has
run out it asks another engine, if it wraps one, and else gives an empty reply.
-/

namespace RecordMapper

/-- The state of a recorder around an engine with states `σ`. -/
structure Recorder (σ : Type) where
  /-- The statements received since the record was last cleared. -/
  statements : List Statement := []
  /-- The answers that are still to be given. -/
  script : List Answer := []
  /-- The state of the wrapped engine. -/
  inner : σ

namespace Recorder

variable {σ : Type}

/-- Adds an answer at the end of the script. -/
def push (r : Recorder σ) (answer : Answer) : Recorder σ :=
  { r with script := r.script ++ [answer] }

/-- Forgets the recorded statements. -/
def clear (r : Recorder σ) : Recorder σ :=
  { r with statements := [] }

/-- The texts of the recorded statements. -/
def log (r : Recorder σ) : List String :=
  r.statements.map (·.sql)

/-- The recorder as an engine, around `wrapped`. -/
def engine (wrapped : Engine σ) : Engine (Recorder σ) := fun statement r =>
  let statements := r.statements ++ [statement]
  match r.script with
  | answer :: script => (answer, { r with statements, script })
  | [] =>
    let (answer, inner) := wrapped statement r.inner
    (answer, { r with statements, inner })

end Recorder

end RecordMapper
