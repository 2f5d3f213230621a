/-! # Steps that can fail
Reading, checking and planning are written as steps in `Except`. The lemmas here take such a run of
steps apart: what is left of it behind a step whose result is known, and what each step gave if the
run as a whole succeeded. -/

namespace ComputePlanner

variable {α β ε ε' : Type}

/-- Behind a step that succeeds, the run goes on with its result. -/
@[simp] theorem ok_bind (a : α) (f : α → Except ε β) : (Except.ok a >>= f) = f a := rfl

/-- Behind a step that fails, nothing is run. -/
@[simp] theorem error_bind (e : ε) (f : α → Except ε β) :
    (Except.error e >>= f) = .error e := rfl

/-- A run succeeds exactly when its first step does and then the rest. -/
theorem bind_eq_ok {x : Except ε α} {f : α → Except ε β} {b : β} :
    (x >>= f) = .ok b ↔ ∃ a, x = .ok a ∧ f a = .ok b := by
  cases x with
  | ok a => simp
  | error e => simp

/-- A run fails exactly when its first step does, or the rest behind it. -/
theorem bind_eq_error {x : Except ε α} {f : α → Except ε β} {e : ε} :
    (x >>= f) = .error e ↔ x = .error e ∨ ∃ a, x = .ok a ∧ f a = .error e := by
  cases x with
  | ok a => simp
  | error e' => simp

/-- Behind a step that is known to succeed, the run goes on with its result. -/
theorem bind_of_ok {x : Except ε α} {a : α} (h : x = .ok a) (f : α → Except ε β) :
    (x >>= f) = f a := by
  rw [h, ok_bind]

/-- What holds of every result of the rest, given what the first step gave, holds of every
result. -/
theorem of_bind_eq_ok {x : Except ε α} {f : α → Except ε β} {p : β → Prop}
    (h : ∀ a, x = .ok a → ∀ b, f a = .ok b → p b) : ∀ b, (x >>= f) = .ok b → p b := by
  intro b run
  obtain ⟨a, first, rest⟩ := bind_eq_ok.mp run
  exact h a first b rest

/-- Renaming faults keeps a result. -/
@[simp] theorem mapError_ok (a : α) (f : ε → ε') :
    (Except.ok a : Except ε α).mapError f = .ok a := rfl

/-- Renaming faults makes no result. -/
@[simp] theorem mapError_eq_ok {x : Except ε α} {f : ε → ε'} {a : α} :
    x.mapError f = .ok a ↔ x = .ok a := by
  cases x with
  | ok b => simp
  | error e => exact iff_of_false nofun nofun

/-- A run that is known to succeed has its result. -/
theorem ok_eq_ok_iff {a b : α} : (Except.ok a : Except ε α) = .ok b ↔ b = a := by
  rw [Except.ok.injEq, eq_comm]

/-- Behind a check that has to hold, the run goes on if it does. -/
theorem ite_eq_ok_iff {p : Prop} [Decidable p] {x : Except ε α} {e : ε} {b : α} :
    (if p then x else .error e) = .ok b ↔ p ∧ x = .ok b := by
  by_cases holds : p
  · rw [if_pos holds, and_iff_right holds]
  · rw [if_neg holds]
    exact iff_of_false nofun fun both => holds both.1

/-- Behind a check that must not hold, the run goes on if it does not. -/
theorem ite_error_eq_ok_iff {p : Prop} [Decidable p] {x : Except ε α} {e : ε} {b : α} :
    (if p then .error e else x) = .ok b ↔ ¬p ∧ x = .ok b := by
  rw [← ite_not, ite_eq_ok_iff]

/-- A check that must find nothing succeeds with the result behind it. -/
theorem eq_ok_iff_of_find? {γ : Type} {p : γ → Bool} {cs : List γ} {x : Except ε α} {a b : α}
    (hit : ∀ c, cs.find? p = some c → ∃ e, x = .error e) (miss : cs.find? p = none → x = .ok a) :
    x = .ok b ↔ (∀ c ∈ cs, p c = false) ∧ b = a := by
  cases found : cs.find? p with
  | some c =>
    obtain ⟨e, failed⟩ := hit c found
    rw [failed]
    refine iff_of_false nofun fun both => ?_
    have missed := both.1 c (List.mem_of_find?_eq_some found)
    rw [List.find?_some found] at missed
    cases missed
  | none =>
    have none : ∀ c ∈ cs, p c = false := by simpa using List.find?_eq_none.mp found
    rw [miss found, ok_eq_ok_iff, and_iff_right none]

/-- What is said to be a result is one. -/
theorem exists_of_isOk {x : Except ε α} (ready : x.isOk = true) : ∃ a, x = .ok a := by
  cases x with
  | ok a => exact ⟨a, rfl⟩
  | error e => cases ready

/-- Reading a list of written values gives the values, if reading each one does. -/
theorem mapM_map_ok {read : β → Except ε α} {write : α → β} (h : ∀ a, read (write a) = .ok a)
    (as : List α) : (as.map write).mapM read = .ok as := by
  induction as with
  | nil => rfl
  | cons a as ih => rw [List.map_cons, List.mapM_cons, h, ok_bind, ih, ok_bind]; rfl

end ComputePlanner
