import RecordMapper.Model.Basic
import RecordMapper.Schema.Definition

/-!
# Creating and dropping the table

Running the statements of a model's migration against its engine; the first rejection ends it.
-/

namespace RecordMapper.Model

variable {σ : Type}

/-- Runs statements without parameters, in order. -/
def runAll (m : Model σ) (statements : List String) : Call σ Unit :=
  statements.forM fun sql => do let _ ← m.execute ⟨sql, []⟩

/-- Creates the table and its indexes. -/
def createTable (m : Model σ) : Call σ Unit := do
  m.runAll (Migration.createTable m.schema (← Call.now)).up

/-- Drops the indexes and the table. -/
def dropTable (m : Model σ) : Call σ Unit := do
  m.runAll (Migration.createTable m.schema (← Call.now)).down

end RecordMapper.Model
