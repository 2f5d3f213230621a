import ComputePlanner.Artifact.Reading
import ComputePlanner.Proofs.Bytes.Cursor
import Mathlib.Data.List.Forall2

/-! # What the steps of a reading take
The loader's artifacts are read step by step: plain words, checks of what was read, and the same step
a number of times. Each lemma here says when a step succeeds, with which result, and which bytes it
takes off the front (`Cursor.Took`), so that a reading as a whole is an equivalence that is put
together from those of its steps. -/

namespace ComputePlanner

variable {α β : Type} {c c' : Cursor}

/-! ## Words -/

namespace Cursor

/-- A read of a 64-bit word takes its eight bytes. -/
theorem u64_eq_ok_iff {v : UInt64} : c.u64 = .ok (v, c') ↔ c.Took (word64 v) c' := by
  rw [u64, bind_eq_ok]
  constructor
  · rintro ⟨⟨n, rest⟩, read, last⟩
    cases last
    obtain ⟨below, took⟩ := number_eq_ok_iff.mp read
    rwa [word64, UInt64.toNat_ofNat_of_lt' below]
  · intro took
    refine ⟨(v.toNat, c'), number_eq_ok_iff.mpr ⟨v.toNat_lt, took⟩, ?_⟩
    show Except.ok (UInt64.ofNat v.toNat, c') = _
    rw [UInt64.ofNat_toNat]

end Cursor

namespace Artifact

/-- A plain read of an artifact succeeds when the read does. -/
theorem read_eq_ok_iff {artifact : Artifact} {step : Cursor → Except ShortRead (α × Cursor)} {a : α} :
    artifact.read step c = .ok (a, c') ↔ step c = .ok (a, c') := mapError_eq_ok

/-- A byte. -/
theorem read_byte_eq_ok_iff {artifact : Artifact} {b : UInt8} :
    artifact.read Cursor.byte c = .ok (b, c') ↔ c.Took [b] c' :=
  read_eq_ok_iff.trans Cursor.byte_eq_ok_iff

/-- A 16-bit word. -/
theorem read_u16_eq_ok_iff {artifact : Artifact} {v : UInt16} :
    artifact.read Cursor.u16 c = .ok (v, c') ↔ c.Took (word16 v) c' :=
  read_eq_ok_iff.trans Cursor.u16_eq_ok_iff

/-- A 32-bit word. -/
theorem read_u32_eq_ok_iff {artifact : Artifact} {v : UInt32} :
    artifact.read Cursor.u32 c = .ok (v, c') ↔ c.Took (word32 v) c' :=
  read_eq_ok_iff.trans Cursor.u32_eq_ok_iff

/-- A 64-bit word. -/
theorem read_u64_eq_ok_iff {artifact : Artifact} {v : UInt64} :
    artifact.read Cursor.u64 c = .ok (v, c') ↔ c.Took (word64 v) c' :=
  read_eq_ok_iff.trans Cursor.u64_eq_ok_iff

/-- So many bytes. -/
theorem read_take_eq_ok_iff {artifact : Artifact} {n : Nat} {front : Bytes} :
    artifact.read (fun c => c.take n) c = .ok (front, c') ↔ front.length = n ∧ c.Took front c' :=
  read_eq_ok_iff.trans Cursor.take_eq_ok_iff

end Artifact

/-! ## Steps -/

namespace Reading

/-- Two steps, the second with the result of the first and where that stopped. -/
theorem bind_eq_ok_iff {step : Reading α} {next : α → Reading β} {b : β} :
    (step >>= next) c = .ok (b, c') ↔
      ∃ a mid, step c = .ok (a, mid) ∧ next a mid = .ok (b, c') := by
  show (step c >>= fun x => next x.1 x.2) = .ok (b, c') ↔ _
  rw [bind_eq_ok]
  constructor
  · rintro ⟨⟨a, mid⟩, first, rest⟩
    exact ⟨a, mid, first, rest⟩
  · rintro ⟨a, mid, first, rest⟩
    exact ⟨(a, mid), first, rest⟩

/-- Behind a step that succeeds, the reading goes on with its result and where it stopped. -/
theorem bind_of_ok {step : Reading α} {next : α → Reading β} {a : α} (first : step c = .ok (a, c')) :
    (step >>= next) c = next a c' := by
  show (step c >>= fun x => next x.1 x.2) = next a c'
  rw [first, ok_bind]

/-- A result that is known takes nothing. -/
theorem pure_eq_ok_iff {a b : α} : (pure a : Reading α) c = .ok (b, c') ↔ a = b ∧ c = c' := by
  show Except.ok (a, c) = .ok (b, c') ↔ _
  rw [Except.ok.injEq, Prod.mk.injEq]

/-- A check takes nothing, and what follows it is only run if the check passes. -/
theorem check_eq_ok_iff {wrong : Prop} [Decidable wrong] {fault : FormatError}
    {next : PUnit → Reading β} {b : β} :
    (if wrong then (do let ignored ← (throw fault : Reading PUnit); next ignored) else next ⟨⟩) c
        = .ok (b, c') ↔ ¬wrong ∧ next ⟨⟩ c = .ok (b, c') := by
  by_cases is : wrong
  · rw [if_pos is]
    exact iff_of_false nofun fun passed => passed.1 is
  · rw [if_neg is]
    exact (and_iff_right is).symm

/-- A last check. -/
theorem guard_eq_ok_iff {right : Prop} [Decidable right] {fault : FormatError} {a b : α} :
    (if right then pure a else throw fault : Reading α) c = .ok (b, c') ↔
      right ∧ a = b ∧ c = c' := by
  by_cases is : right
  · rw [if_pos is, pure_eq_ok_iff, and_iff_right is]
  · rw [if_neg is]
    exact iff_of_false nofun fun passed => is passed.1

/-- A result of another kind takes nothing. -/
theorem lift_eq_ok_iff {x : Except FormatError α} {a : α} :
    (liftM x : Reading α) c = .ok (a, c') ↔ x = .ok a ∧ c = c' := by
  show (x >>= fun a => Except.ok (a, c)) = .ok (a, c') ↔ _
  rw [bind_eq_ok]
  constructor
  · rintro ⟨a', known, ⟨⟩⟩
    exact ⟨known, rfl⟩
  · rintro ⟨known, rfl⟩
    exact ⟨a, known, rfl⟩

/-- What is left is looked at without taking it. -/
theorem get_eq_ok_iff {rest : Cursor} :
    (get : Reading Cursor) c = .ok (rest, c') ↔ c = rest ∧ c = c' := by
  show Except.ok (c, c) = .ok (rest, c') ↔ _
  rw [Except.ok.injEq, Prod.mk.injEq]

/-- The same step a number of times takes a form of each of its results, one behind the other. -/
theorem times_eq_ok_iff {step : Reading α} {Form : α → Bytes → Prop}
    (steps : ∀ c a c', step c = .ok (a, c') ↔ ∃ form, Form a form ∧ c.Took form c') {n : Nat}
    {as : List α} :
    step.times n c = .ok (as, c') ↔
      as.length = n ∧ ∃ forms, List.Forall₂ Form as forms ∧ c.Took forms.flatten c' := by
  induction n generalizing c as with
  | zero =>
    rw [times, pure_eq_ok_iff]
    constructor
    · rintro ⟨rfl, rfl⟩
      exact ⟨rfl, [], .nil, Cursor.took_nil.mpr rfl⟩
    · rintro ⟨length, forms, each, took⟩
      obtain rfl := List.eq_nil_of_length_eq_zero length
      cases each
      exact ⟨rfl, (Cursor.took_nil.mp took).symm⟩
  | succ n ih =>
    rw [times, bind_eq_ok_iff]
    constructor
    · rintro ⟨a, mid, first, rest⟩
      obtain ⟨form, has, front⟩ := (steps ..).mp first
      obtain ⟨as', mid', others, last⟩ := bind_eq_ok_iff.mp rest
      obtain ⟨rfl, rfl⟩ := pure_eq_ok_iff.mp last
      obtain ⟨length, forms, each, behind⟩ := ih.mp others
      refine ⟨congrArg (· + 1) length, form :: forms, .cons has each, ?_⟩
      rw [List.flatten_cons, Cursor.took_append]
      exact ⟨mid, front, behind⟩
    · rintro ⟨length, forms, each, took⟩
      cases each with
      | nil => cases length
      | @cons a form as forms has each =>
        rw [List.flatten_cons, Cursor.took_append] at took
        obtain ⟨mid, front, behind⟩ := took
        have others := ih.mpr ⟨Nat.succ.inj length, forms, each, behind⟩
        exact ⟨a, mid, (steps ..).mpr ⟨form, has, front⟩,
          bind_eq_ok_iff.mpr ⟨as, c', others, pure_eq_ok_iff.mpr ⟨rfl, rfl⟩⟩⟩

/-- A buffer as a whole is read from its start; what is behind is left. -/
theorem run_eq_ok_iff {step : Reading α} {buf : Bytes} {a : α} :
    step.run buf = .ok a ↔ ∃ c', step (Cursor.start buf) = .ok (a, c') := by
  rw [run]
  cases step (Cursor.start buf) with
  | ok result =>
    obtain ⟨a', c'⟩ := result
    show Except.ok a' = .ok a ↔ _
    simp
  | error fault => exact iff_of_false nofun nofun

end Reading

/-- From the start of a buffer, its front can be taken. -/
theorem Cursor.took_start_iff {buf front : Bytes} :
    (∃ c', (Cursor.start buf).Took front c') ↔ ∃ behind, buf = front ++ behind := by
  constructor
  · rintro ⟨c', took⟩
    exact ⟨c'.rest, took.bytes⟩
  · rintro ⟨behind, rfl⟩
    exact ⟨⟨front.length, behind⟩, rfl, (Nat.zero_add _).symm⟩

end ComputePlanner
