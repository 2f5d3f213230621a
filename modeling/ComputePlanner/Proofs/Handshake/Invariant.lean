import Mathlib.Logic.Relation
import ComputePlanner.Proofs.Handshake.System

/-! # Why the handshake works
In each direction a semaphore starts at an armed value, is moved by each core that signals, and has
reached its target once all of them have. Every transfer waits for the target, and the last one arms
the semaphore again (**`Scheduled`**). So the semaphore tells how many cores are silent, up to the
end of the last transfer (**`Lane.Kept`**), and this is left alone by whatever happens in the other
direction.

Main statement: **`Batch.Timed.safe`**. -/

namespace ComputePlanner

/-- What the transfers of a direction wait for and what the last of them leaves behind. -/
structure Timing where
  /-- The value of the semaphore once all cores have signalled. -/
  target : Direction → UInt16
  /-- Its value before any of them has. -/
  armed : Direction → UInt16

/-- What the operation does, to which semaphore and with which value. -/
def SemaphoreOp.Does (op : SemaphoreOp) (action : SemaphoreAction) (semaphore value : UInt16) :
    Prop :=
  op.action = action ∧ op.semaphore = semaphore ∧ op.value = value

/-- Every transfer waits for the target, and exactly the last one arms the semaphore again. -/
def Scheduled (timing : Timing) (d : Direction) : List Transfer → Prop
  | [] => True
  | t :: rest =>
    (∃ op, t.opsAt .pre = [op] ∧ op.Does .waitEq d.semaphore (timing.target d)) ∧
    (rest = [] → ∃ op, t.opsAt .post = [op] ∧ op.Does .init d.semaphore (timing.armed d)) ∧
    (rest ≠ [] → t.opsAt .post = []) ∧ Scheduled timing d rest

/-- The batch is such that its transfers wait for all cores. -/
structure Batch.Timed (batch : Batch) (timing : Timing) : Prop where
  initial : ∀ d, batch.initial d.semaphore = (timing.armed d).toNat
  /-- The signals of all cores lead from the armed value to the target. -/
  reached : ∀ d, ((timing.target d).toNat : Int)
    = (timing.armed d).toNat + d.signal * (batch.cores d).length
  scheduled : ∀ d, Scheduled timing d (batch.transfers d)
  /-- Cores signal only where something is transferred. -/
  moved : ∀ d, batch.cores d ≠ [] → batch.transfers d ≠ []

/-- The state is what the handshake promises. -/
structure Batch.Safe (batch : Batch) (s : Batch.State) : Prop where
  /-- As long as a core is silent, no transfer of the direction has begun. -/
  guarded : ∀ d, (s.lanes d).silent ≠ [] →
    (s.lanes d).running = none ∧ (s.lanes d).waiting = batch.transfers d
  /-- No semaphore drops below zero. -/
  nonneg : ∀ d : Direction, 0 ≤ s.semaphores d.semaphore
  /-- Something can be done until all is done. -/
  progress : (∃ d, ¬(s.lanes d).Done) → ∃ s', Batch.Step s s'
  /-- However far the batch has come, it can be brought to its end. -/
  ends : ∃ s', Relation.ReflTransGen Batch.Step s s' ∧ ∀ d, (s'.lanes d).Done
  /-- When all is done, the semaphores are as they were at first. -/
  restored : (∀ d, (s.lanes d).Done) → s.semaphores = batch.initial
  /-- The next batch begins like the first. -/
  again : (∀ d, (s.lanes d).Done) → batch.again s = batch.start

/-! ## Operations -/

/-- Different directions have different semaphores. -/
theorem Direction.semaphore_ne {d d' : Direction} (h : d ≠ d') : d.semaphore ≠ d'.semaphore := by
  cases d with
  | inward =>
    cases d' with
    | inward => exact absurd rfl h
    | outward => decide
  | outward =>
    cases d' with
    | inward => decide
    | outward => exact absurd rfl h

namespace SemaphoreOp

/-- Nothing blocks no operations. -/
@[simp] theorem performAll_nil (s : Semaphores) : performAll [] s = some s := rfl

theorem performAll_singleton (op : SemaphoreOp) (s : Semaphores) :
    performAll [op] s = op.perform s := by
  rw [performAll, List.foldlM_cons]
  cases op.perform s <;> rfl

/-- Waiting for a value changes nothing and is passed exactly at that value. -/
theorem performAll_waitEq {op : SemaphoreOp} {semaphore value : UInt16}
    (does : op.Does .waitEq semaphore value) (s s' : Semaphores) :
    performAll [op] s = some s' ↔ s semaphore = value.toNat ∧ s' = s := by
  obtain ⟨action, rfl, rfl⟩ := does
  have passes : op.Passes (s op.semaphore) ↔ s op.semaphore = op.value.toNat := by
    rw [Passes, action]
  have result : op.result (s op.semaphore) = s op.semaphore := by rw [result, action]
  rw [performAll_singleton, perform, result, Function.update_eq_self]
  by_cases reached : s op.semaphore = op.value.toNat
  · rw [if_pos (passes.mpr reached), Option.some.injEq, eq_comm]
    exact (and_iff_right reached).symm
  · rw [if_neg fun passed => reached (passes.mp passed)]
    exact iff_of_false nofun fun all => reached all.1

/-- Setting a semaphore is never blocked. -/
theorem performAll_init {op : SemaphoreOp} {semaphore value : UInt16}
    (does : op.Does .init semaphore value) (s : Semaphores) :
    performAll [op] s = some (Function.update s semaphore value.toNat) := by
  obtain ⟨action, rfl, rfl⟩ := does
  have passes : op.Passes (s op.semaphore) := by
    rw [Passes, action]
    trivial
  have result : op.result (s op.semaphore) = op.value.toNat := by rw [result, action]
  rw [performAll_singleton, perform, if_pos passes, result]

end SemaphoreOp

/-! ## Schedules -/

namespace Scheduled

variable {timing : Timing} {d : Direction} {ts : List Transfer}

/-- Every scheduled transfer waits for the target. -/
theorem wait_of_mem (h : Scheduled timing d ts) {t : Transfer} (mem : t ∈ ts) :
    ∃ op, t.opsAt .pre = [op] ∧ op.Does .waitEq d.semaphore (timing.target d) := by
  induction ts with
  | nil => exact absurd mem List.not_mem_nil
  | cons t' rest ih =>
    rcases List.mem_cons.mp mem with rfl | mem
    · exact h.1
    · exact ih h.2.2.2 mem

/-- The last scheduled transfer arms the semaphore. -/
theorem arm_of_getLast? (h : Scheduled timing d ts) {t : Transfer} (last : ts.getLast? = some t) :
    ∃ op, t.opsAt .post = [op] ∧ op.Does .init d.semaphore (timing.armed d) := by
  induction ts with
  | nil => cases last
  | cons t' rest ih =>
    obtain ⟨-, arms, -, later⟩ := h
    cases rest with
    | nil =>
      cases last
      exact arms rfl
    | cons t'' rest => exact ih later (by rwa [List.getLast?_cons_cons] at last)

end Scheduled

/-! ## What every step keeps -/

/-- A lane and the value of its semaphore. The value counts the cores that are silent, up to the end
of the last transfer, which arms the semaphore. -/
structure Lane.Kept (l : Lane) (batch : Batch) (timing : Timing) (d : Direction) (value : Int) :
    Prop where
  /-- Transfers are left: the semaphore is as many signals away from its target. -/
  counted : l.running ≠ none ∨ l.waiting ≠ [] →
    value + d.signal * l.silent.length = (timing.target d).toNat
  /-- No transfer is left: the semaphore is armed. -/
  armed : l.running = none → l.waiting = [] → value = (timing.armed d).toNat
  /-- As long as a core is silent, no transfer has begun, and there is one to begin. -/
  fresh : l.silent ≠ [] →
    l.running = none ∧ l.waiting = batch.transfers d ∧ batch.transfers d ≠ []
  few : l.silent.length ≤ (batch.cores d).length
  scheduled : Scheduled timing d (l.running.toList ++ l.waiting)

namespace Batch

/-- Both lanes are kept, and no other semaphore is touched. -/
structure Invariant (batch : Batch) (timing : Timing) (s : State) : Prop where
  lane : ∀ d, (s.lanes d).Kept batch timing d (s.semaphores d.semaphore)
  others : ∀ n, (∀ d : Direction, n ≠ d.semaphore) → s.semaphores n = batch.initial n

variable {batch : Batch} {timing : Timing} {s s' : State}

/-- What happens in one lane, to the semaphore of that lane, leaves the other lane kept. -/
theorem Invariant.put (inv : batch.Invariant timing s) (d : Direction) {l : Lane} {value : Int}
    (kept : l.Kept batch timing d value) :
    batch.Invariant timing (s.put d l (Function.update s.semaphores d.semaphore value)) where
  lane d' := by
    -- the other direction has another lane and another semaphore
    by_cases same : d' = d
    · subst same
      rw [s.lanes_put_self, s.semaphores_put, Function.update_self]
      exact kept
    · rw [s.lanes_put_of_ne same, s.semaphores_put,
        Function.update_of_ne (Direction.semaphore_ne same)]
      exact inv.lane d'
  others n other := by
    rw [s.semaphores_put, Function.update_of_ne (other d)]
    exact inv.others n other

/-- What happens in one lane and to no semaphore leaves the other lane kept. -/
theorem Invariant.putLane (inv : batch.Invariant timing s) (d : Direction) {l : Lane}
    (kept : l.Kept batch timing d (s.semaphores d.semaphore)) :
    batch.Invariant timing (s.put d l s.semaphores) := by
  have changed := inv.put d kept
  rwa [Function.update_eq_self] at changed

namespace Timed

/-- A batch begins with kept lanes, whenever the semaphores are as they were at first. -/
theorem invariant_lanes (timed : batch.Timed timing) (initial : s.semaphores = batch.initial) :
    batch.Invariant timing (batch.again s) where
  lane d :=
    { counted := fun left => by
        show s.semaphores d.semaphore + d.signal * (batch.cores d).length = (timing.target d).toNat
        rw [initial, timed.initial, timed.reached]
      armed := fun _ _ => by
        show s.semaphores d.semaphore = (timing.armed d).toNat
        rw [initial, timed.initial]
      fresh := fun silent => ⟨rfl, rfl, timed.moved d silent⟩
      few := Nat.le_refl _
      scheduled := timed.scheduled d }
  others n _ := by
    show s.semaphores n = batch.initial n
    rw [initial]

/-- A core that signals brings its semaphore one nearer to the target. -/
theorem invariant_signal (inv : batch.Invariant timing s) (d : Direction) {core : Nat}
    (silent : core ∈ (s.lanes d).silent) :
    batch.Invariant timing
      (s.put d { s.lanes d with silent := (s.lanes d).silent.erase core }
        (Function.update s.semaphores d.semaphore (s.semaphores d.semaphore + d.signal))) := by
  have kept := inv.lane d
  obtain ⟨free, untouched, left⟩ := kept.fresh (List.ne_nil_of_mem silent)
  -- one core fewer is silent, which makes up for what the signal adds
  have one : ((s.lanes d).silent.length : Int) = ((s.lanes d).silent.erase core).length + 1 := by
    have erased := List.length_erase_of_mem silent
    have := List.length_pos_of_mem silent
    omega
  refine inv.put d
    { counted := fun _ => ?_
      armed := fun _ none => absurd (untouched.symm.trans none) left
      fresh := fun _ => ⟨free, untouched, left⟩
      few := ?_
      scheduled := kept.scheduled }
  · have counted := kept.counted (.inr (untouched ▸ left))
    rw [one, Int.mul_add, Int.mul_one] at counted
    dsimp only
    omega
  · have := kept.few
    dsimp only
    omega

/-- A transfer that begins finds its semaphore at the target, so that no core is silent. -/
theorem invariant_begin (inv : batch.Invariant timing s) (d : Direction) {t : Transfer}
    {rest : List Transfer} {semaphores : Semaphores} (free : (s.lanes d).running = none)
    (next : (s.lanes d).waiting = t :: rest)
    (passed : SemaphoreOp.performAll (t.opsAt .pre) s.semaphores = some semaphores) :
    batch.Invariant timing
      (s.put d { s.lanes d with
        running := some t
        waiting := rest } semaphores) := by
  have kept := inv.lane d
  have scheduled := kept.scheduled
  rw [free, next] at scheduled
  obtain ⟨op, pre, does⟩ := scheduled.1
  rw [pre, SemaphoreOp.performAll_waitEq does] at passed
  obtain ⟨reached, rfl⟩ := passed
  have counted := kept.counted (.inr (next ▸ List.cons_ne_nil t rest))
  -- the semaphore is at the target only if no signal is missing
  have heard : (s.lanes d).silent = [] := by
    rw [reached] at counted
    cases d with
    | inward => exact List.length_eq_zero_iff.mp (by rw [Direction.signal] at counted; omega)
    | outward => exact List.length_eq_zero_iff.mp (by rw [Direction.signal] at counted; omega)
  exact inv.putLane d
    { counted := fun _ => counted
      armed := nofun
      fresh := fun silent => absurd heard silent
      few := kept.few
      scheduled := scheduled }

/-- The last transfer that ends arms its semaphore; the others leave it alone. -/
theorem invariant_finish (inv : batch.Invariant timing s) (d : Direction) {t : Transfer}
    {semaphores : Semaphores} (running : (s.lanes d).running = some t)
    (passed : SemaphoreOp.performAll (t.opsAt .post) s.semaphores = some semaphores) :
    batch.Invariant timing (s.put d { s.lanes d with running := none } semaphores) := by
  have kept := inv.lane d
  have scheduled := kept.scheduled
  rw [running] at scheduled
  obtain ⟨-, last, front, rest⟩ := scheduled
  -- a transfer has begun, so all cores have signalled
  have heard : (s.lanes d).silent = [] := by
    by_contra silent
    rw [(kept.fresh silent).1] at running
    cases running
  -- with and without transfers behind it
  by_cases none : (s.lanes d).waiting = []
  · obtain ⟨op, post, does⟩ := last none
    rw [post, SemaphoreOp.performAll_init does, Option.some.injEq] at passed
    subst passed
    exact inv.put d
      { counted := fun left => left.elim (absurd rfl) (absurd none)
        armed := fun _ _ => rfl
        fresh := fun silent => absurd heard silent
        few := kept.few
        scheduled := rest }
  · rw [front none, SemaphoreOp.performAll_nil, Option.some.injEq] at passed
    subst passed
    exact inv.putLane d
      { counted := fun _ => kept.counted (.inr none)
        armed := fun _ done => absurd done none
        fresh := fun silent => absurd heard silent
        few := kept.few
        scheduled := rest }

/-- **Every step keeps the invariant.** -/
theorem invariant_step (inv : batch.Invariant timing s) (step : Step s s') :
    batch.Invariant timing s' := by
  cases step with
  | signal d silent => exact invariant_signal inv d silent
  | begin d free next passed => exact invariant_begin inv d free next passed
  | finish d running passed => exact invariant_finish inv d running passed

end Timed

/-! ## What follows in every state -/

/-- The semaphores are as they were at first when all is done. -/
theorem Invariant.restored (inv : batch.Invariant timing s) (timed : batch.Timed timing)
    (done : ∀ d, (s.lanes d).Done) : s.semaphores = batch.initial := by
  -- a semaphore is armed at the end of its lane, or was never touched
  funext n
  by_cases other : ∀ d : Direction, n ≠ d.semaphore
  · exact inv.others n other
  · obtain ⟨d, guards⟩ := not_forall.mp other
    obtain rfl := not_not.mp guards
    rw [(inv.lane d).armed (done d).2.1 (done d).2.2, timed.initial]

/-- A lane in which something is left to do can do it. -/
theorem Invariant.progress (inv : batch.Invariant timing s) {d : Direction}
    (left : ¬(s.lanes d).Done) : ∃ s', Step s s' := by
  have kept := inv.lane d
  have scheduled := kept.scheduled
  -- in the order of a batch: a signal, the end of a transfer, the begin of the next
  cases silent : (s.lanes d).silent with
  | cons core rest => exact ⟨_, .signal d (silent ▸ List.mem_cons_self)⟩
  | nil =>
    cases running : (s.lanes d).running with
    | some t =>
      rw [running] at scheduled
      obtain ⟨-, last, front, -⟩ := scheduled
      by_cases none : (s.lanes d).waiting = []
      · obtain ⟨op, post, does⟩ := last none
        exact ⟨_, .finish d running (post ▸ SemaphoreOp.performAll_init does _)⟩
      · exact ⟨_, .finish d running (front none ▸ SemaphoreOp.performAll_nil _)⟩
    | none =>
      cases waiting : (s.lanes d).waiting with
      | nil => exact absurd ⟨silent, running, waiting⟩ left
      | cons t rest =>
        -- all cores have signalled, so the transfer is not blocked
        rw [running, waiting] at scheduled
        obtain ⟨op, pre, does⟩ := scheduled.1
        have counted := kept.counted (.inr (waiting ▸ List.cons_ne_nil t rest))
        rw [silent, List.length_nil, Int.natCast_zero, Int.mul_zero, Int.add_zero] at counted
        exact ⟨_, .begin d running waiting
          (pre ▸ (SemaphoreOp.performAll_waitEq does _ _).mpr ⟨counted, rfl⟩)⟩

/-- No semaphore drops below zero: upwards it starts at the armed value, downwards it ends at the
target. -/
theorem Invariant.nonneg (inv : batch.Invariant timing s) (timed : batch.Timed timing)
    (d : Direction) : 0 ≤ s.semaphores d.semaphore := by
  have kept := inv.lane d
  have reached := timed.reached d
  have few := kept.few
  by_cases done : (s.lanes d).running = none ∧ (s.lanes d).waiting = []
  · rw [kept.armed done.1 done.2]
    omega
  · have counted := kept.counted (not_and_or.mp done)
    cases d with
    | inward =>
      rw [Direction.signal] at counted reached
      omega
    | outward =>
      rw [Direction.signal] at counted
      omega

/-- Every state that can be reached has the invariant. -/
theorem Timed.invariant (timed : batch.Timed timing) (reachable : batch.Reachable s) :
    batch.Invariant timing s := by
  induction reachable with
  | start => exact timed.invariant_lanes (s := batch.start) rfl
  | step _ step ih => exact Timed.invariant_step ih step
  | again _ done ih => exact timed.invariant_lanes (ih.restored timed done)

/-- Every batch can be brought to its end, from wherever it has come to. -/
theorem Timed.exists_done (timed : batch.Timed timing) (reachable : batch.Reachable s) :
    ∃ s', Relation.ReflTransGen Step s s' ∧ ∀ d, (s'.lanes d).Done := by
  -- on the steps that are left, of which there is one as long as something is to be done
  induction left : s.left generalizing s with
  | zero =>
    refine ⟨s, .refl, ?_⟩
    by_contra some
    obtain ⟨d, some⟩ := not_forall.mp some
    obtain ⟨s', step⟩ := (timed.invariant reachable).progress some
    have := step.left_eq
    omega
  | succ n ih =>
    by_cases done : ∀ d, (s.lanes d).Done
    · exact ⟨s, .refl, done⟩
    · obtain ⟨d, some⟩ := not_forall.mp done
      obtain ⟨s', step⟩ := (timed.invariant reachable).progress some
      have less := step.left_eq
      obtain ⟨s'', run, done⟩ := ih (reachable.step step) (by omega)
      exact ⟨s'', .head step run, done⟩

/-- **The handshake keeps its promise in every state that can be reached**, over any number of
batches. -/
theorem Timed.safe (timed : batch.Timed timing) (reachable : batch.Reachable s) :
    batch.Safe s := by
  have inv := timed.invariant reachable
  exact
    { guarded := fun d silent =>
        ⟨((inv.lane d).fresh silent).1, ((inv.lane d).fresh silent).2.1⟩
      nonneg := inv.nonneg timed
      progress := fun ⟨_, left⟩ => inv.progress left
      ends := timed.exists_done reachable
      restored := inv.restored timed
      again := fun done => by rw [again, inv.restored timed done, start] }

end Batch

end ComputePlanner
