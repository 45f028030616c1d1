import RecordMapper.Model.Call

/-!
# Calls that are started together

Calls that put their statements to the engine without waiting for each other. The engine may answer
a statement at once or later, and the later answers may come in any order. The first failure that
comes in ends all of them: a call that was not started yet is never started, and the answers that
are still to come are not looked at.

* `Schedule` says which calls have to wait for an answer, and when it comes in.
* `Call.together` starts calls and gives their results.
-/

namespace RecordMapper

/-- The failure that a call ended with. -/
def Call.failure? {α : Type} : Except Error α → Option Error
  | .ok _ => none
  | .error e => some e

/-- When the answers come in to calls that are started together. -/
structure Schedule where
  /-- Whether the answer to the call at a place comes in later, after all calls were started. -/
  waits : Nat → Bool := fun _ => false
  /-- The places of the calls that wait, in the order in which their answers come in; the places
  that are left out come after these, in turn. -/
  arrivals : List Nat := []

namespace Schedule

variable {α : Type}

/-- Every answer is there at once. -/
def prompt : Schedule := {}

/-- The failure that comes in first, among the results of calls that were all started. -/
def firstFailure? (schedule : Schedule) (results : List (Except Error α)) : Option Error :=
  (schedule.arrivals ++ List.range results.length).findSome? fun place =>
    results[place]?.bind Call.failure?

end Schedule

namespace Call

variable {σ α : Type}

/-- Starts a call. Where it waits for an answer, it does not matter yet how it ends; a call that
leaves nothing in the trace has nothing to wait for. -/
def start (waits : Bool) (c : Call σ α) : Call σ (Except Error α) := do
  let before ← get
  let result ← attempt c
  let after ← get
  if waits && before.trace.length < after.trace.length then return result
  else return .ok (← lift result)

/-- Starts calls one after another, the first of them at a place. -/
def startAll (schedule : Schedule) (place : Nat) :
    List (Call σ α) → Call σ (List (Except Error α))
  | [] => return []
  | c :: rest => do
    let result ← start (schedule.waits place) c
    let results ← startAll schedule (place + 1) rest
    return result :: results

/-- The results of calls that are started together, or the first failure. -/
def together (schedule : Schedule) (calls : List (Call σ α)) : Call σ (List α) := do
  let results ← startAll schedule 0 calls
  match schedule.firstFailure? results with
  | some e => throw e
  | none => lift (results.mapM id)

end Call

end RecordMapper
