import ComputePlanner.Artifact.Error

/-! # Reading an artifact step by step
A **`Reading`** is a step that takes something off the front of an artifact's bytes. Steps are run
one after another, each where the one before it stopped, and the first fault ends the reading. -/

namespace ComputePlanner

/-- A step that reads from the front of what is left. -/
abbrev Reading (α : Type) := StateT Cursor (Except FormatError) α

/-- A plain read: missing bytes are a fault of the artifact that is read. -/
def Artifact.read (artifact : Artifact) {α : Type} (step : Cursor → Except ShortRead (α × Cursor)) :
    Reading α :=
  fun c => (step c).mapError (.short artifact)

/-- The same step `count` times, with all that it read. -/
def Reading.times {α : Type} (step : Reading α) : Nat → Reading (List α)
  | 0 => return []
  | count + 1 => do
    let x ← step
    let xs ← times step count
    return x :: xs

/-- Reads a whole buffer from its start. -/
def Reading.run {α : Type} (step : Reading α) (buf : Bytes) : Except FormatError α :=
  (step (Cursor.start buf)).map (·.1)

end ComputePlanner
