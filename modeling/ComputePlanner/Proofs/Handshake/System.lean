import Mathlib.Logic.Function.Basic
import ComputePlanner.Hardware.Core
import ComputePlanner.Metadata.Basic

/-! # Host and cores at work
A **batch** is what host and cores do with one set of inputs. Each port carries out its transfers
one after the other, and the cores signal, each once for inputs and once for outputs, when they are
done with a buffer. Nothing else orders the two ports and the signals: a **`Step`** is taken by any
of them that is not blocked. When all is done, the next batch begins with the semaphores as they
are.

The steps are those of the hardware: they carry out what the transfers say, whether it is sensible
or not. Semaphores are integers here, so that one that drops below zero is seen.

Main definitions: **`Batch`**, **`Batch.Step`** and **`Batch.Reachable`**. -/

namespace ComputePlanner

/-! ## Semaphores -/

/-- The values of the semaphores by their numbers. -/
abbrev Semaphores := UInt16 → Int

namespace SemaphoreOp

/-- The operation is not blocked by a semaphore of this value. -/
def Passes (op : SemaphoreOp) (value : Int) : Prop :=
  match op.action with
  | .waitEq => value = op.value.toNat
  | .waitGe => (op.value.toNat : Int) ≤ value
  | .waitDec => value ≠ 0
  | .nop | .init | .inc | .dec => True

instance (op : SemaphoreOp) (value : Int) : Decidable (op.Passes value) := by
  unfold Passes
  cases op.action <;> infer_instance

/-- What the operation makes of a semaphore of this value. -/
def result (op : SemaphoreOp) (value : Int) : Int :=
  match op.action with
  | .init => op.value.toNat
  | .inc => value + op.value.toNat
  | .dec => value - op.value.toNat
  | .waitDec => value - 1
  | .nop | .waitEq | .waitGe => value

/-- Carries out the operation, if it is not blocked. -/
def perform (op : SemaphoreOp) (s : Semaphores) : Option Semaphores :=
  if op.Passes (s op.semaphore) then
    some (Function.update s op.semaphore (op.result (s op.semaphore)))
  else none

/-- Carries out operations in order, if none is blocked. -/
def performAll (ops : List SemaphoreOp) (s : Semaphores) : Option Semaphores :=
  ops.foldlM (fun s op => op.perform s) s

end SemaphoreOp

/-- The operations of a transfer that are carried out before it, or after it. -/
def Transfer.opsAt (t : Transfer) (point : SyncPoint) : List SemaphoreOp :=
  t.semaphores.filter (·.point = point)

/-! ## Batches -/

namespace Direction

/-- The semaphore that guards the transfers of a direction. -/
def semaphore : Direction → UInt16
  | .inward => inputSemaphore
  | .outward => outputSemaphore

/-- What a core that signals adds to the semaphore: it counts up for inputs and down for outputs. -/
def signal : Direction → Int
  | .inward => 1
  | .outward => -1

end Direction

/-- What takes part in every batch. -/
structure Batch where
  /-- The first values of the semaphores. -/
  initial : Semaphores
  /-- The cores that signal for a direction. -/
  cores : Direction → List Nat
  /-- The transfers of a direction, in their sequence. -/
  transfers : Direction → List Transfer

/-- What is left to do in one direction. -/
structure Lane where
  /-- The cores that have not signalled. -/
  silent : List Nat
  /-- The transfer that has begun and not ended. -/
  running : Option Transfer
  /-- The transfers that have not begun. -/
  waiting : List Transfer

/-- Nothing is left to do. -/
def Lane.Done (l : Lane) : Prop := l.silent = [] ∧ l.running = none ∧ l.waiting = []

namespace Batch

/-- How far a batch has come. -/
structure State where
  semaphores : Semaphores
  lanes : Direction → Lane

/-- A lane at the begin of a batch. -/
def lane (batch : Batch) (d : Direction) : Lane := ⟨batch.cores d, none, batch.transfers d⟩

/-- The begin of the first batch. -/
def start (batch : Batch) : State := ⟨batch.initial, batch.lane⟩

/-- The begin of the next batch: only the semaphores are left of the last one. -/
def again (batch : Batch) (s : State) : State := { s with lanes := batch.lane }

/-- The state with another lane and other semaphores. -/
def State.put (s : State) (d : Direction) (l : Lane) (semaphores : Semaphores) : State :=
  ⟨semaphores, Function.update s.lanes d l⟩

@[simp] theorem State.semaphores_put (s : State) (d : Direction) (l : Lane)
    (semaphores : Semaphores) : (s.put d l semaphores).semaphores = semaphores := rfl

@[simp] theorem State.lanes_put_self (s : State) (d : Direction) (l : Lane)
    (semaphores : Semaphores) : (s.put d l semaphores).lanes d = l := Function.update_self ..

/-- The other lane is left alone. -/
theorem State.lanes_put_of_ne (s : State) {d d' : Direction} (h : d' ≠ d) (l : Lane)
    (semaphores : Semaphores) : (s.put d l semaphores).lanes d' = s.lanes d' :=
  Function.update_of_ne h ..

/-- A step within a batch. -/
inductive Step (s : State) : State → Prop
  /-- A core signals that it is done with its buffers of a direction. -/
  | signal (d : Direction) {core : Nat} (silent : core ∈ (s.lanes d).silent) :
    Step s (s.put d { s.lanes d with silent := (s.lanes d).silent.erase core }
      (Function.update s.semaphores d.semaphore (s.semaphores d.semaphore + d.signal)))
  /-- The next transfer of a port begins, if what comes before it is not blocked. -/
  | begin (d : Direction) {t : Transfer} {rest : List Transfer} {semaphores : Semaphores}
    (free : (s.lanes d).running = none) (next : (s.lanes d).waiting = t :: rest)
    (passed : SemaphoreOp.performAll (t.opsAt .pre) s.semaphores = some semaphores) :
    Step s (s.put d { s.lanes d with
      running := some t
      waiting := rest } semaphores)
  /-- A transfer ends, if what comes after it is not blocked. -/
  | finish (d : Direction) {t : Transfer} {semaphores : Semaphores}
    (running : (s.lanes d).running = some t)
    (passed : SemaphoreOp.performAll (t.opsAt .post) s.semaphores = some semaphores) :
    Step s (s.put d { s.lanes d with running := none } semaphores)

/-- What can be reached in any number of batches. -/
inductive Reachable (batch : Batch) : State → Prop
  | start : Reachable batch batch.start
  | step {s s' : State} (before : Reachable batch s) (step : Step s s') : Reachable batch s'
  | again {s : State} (before : Reachable batch s) (done : ∀ d, (s.lanes d).Done) :
    Reachable batch (batch.again s)

end Batch

/-! ## Steps that are left -/

/-- Steps left in a lane: one for each signal, two for each transfer. -/
def Lane.left (l : Lane) : Nat :=
  l.silent.length + l.running.toList.length + 2 * l.waiting.length

namespace Batch

/-- Steps left in a batch. -/
def State.left (s : State) : Nat := (s.lanes .inward).left + (s.lanes .outward).left

/-- A step in one lane is a step of the batch. -/
theorem State.left_put {s : State} {d : Direction} {l : Lane} (less : l.left + 1 = (s.lanes d).left)
    (semaphores : Semaphores) : (s.put d l semaphores).left + 1 = s.left := by
  rw [left, left]
  cases d with
  | inward =>
    have other : Direction.outward ≠ .inward := nofun
    rw [s.lanes_put_self, s.lanes_put_of_ne other, ← less]
    omega
  | outward =>
    have other : Direction.inward ≠ .outward := nofun
    rw [s.lanes_put_self, s.lanes_put_of_ne other, ← less]
    omega

/-- Every step leaves one less, so that no batch goes on forever. -/
theorem Step.left_eq {s s' : State} (step : Step s s') : s'.left + 1 = s.left := by
  cases step with
  | signal d silent =>
    have erased := List.length_erase_of_mem silent
    have some := List.length_pos_of_mem silent
    refine State.left_put ?_ _
    rw [Lane.left, Lane.left]
    dsimp only
    omega
  | begin d free next passed =>
    refine State.left_put ?_ _
    rw [Lane.left, Lane.left, free, next, List.length_cons]
    dsimp only [Option.toList_some, Option.toList_none, List.length_cons, List.length_nil]
    omega
  | finish d running passed =>
    refine State.left_put ?_ _
    rw [Lane.left, Lane.left, running]
    dsimp only [Option.toList_some, Option.toList_none, List.length_cons, List.length_nil]
    omega

end Batch

end ComputePlanner
