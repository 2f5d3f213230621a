import ComputePlanner.Proofs.Except
import Mathlib.Data.List.Induction

/-! # Calls one after the other
Numbers and slots are handed out call by call, and a caller may go on after a call that failed. **`Calls`**
is what calls have come to: the state, and the calls that succeeded with their answers. A call is a program
that changes the state in place, so that one that fails could leave half of its work behind
(**`Calls.run`**); a function that answers with a new state or a fault is such a program, too
(**`keeping`**). What every call keeps up holds of every run (**`Calls.foldl_induction`**). From there come
the two lemmas by which what is handed out is described: programs on another form of the state come to the
same (**`Calls.foldl_form`**), and the calls that succeed are the first ones that can
(**`Calls.map_fst_done`**). -/

namespace ComputePlanner

variable {σ τ α β ε : Type}

/-- A call that answers with the new state, as a program. When it fails, the state stays. -/
def keeping (call : σ → Except ε (β × σ)) : EStateM ε σ β := fun s =>
  match call s with
  | .ok (b, s') => .ok b s'
  | .error e => .error e s

/-- What calls have come to. -/
structure Calls (σ α β : Type) where
  state : σ
  /-- The calls that succeeded, in order, with their answers. -/
  done : List (α × β)

namespace Calls

/-- One more call. What it leaves is the state, whether it fails or not. -/
def after (perform : α → EStateM ε σ β) (c : Calls σ α β) (a : α) : Calls σ α β :=
  match (perform a).run c.state with
  | .ok b s => ⟨s, c.done ++ [(a, b)]⟩
  | .error _ s => ⟨s, c.done⟩

/-- Calls one after the other. -/
def run (perform : α → EStateM ε σ β) (s : σ) (as : List α) : Calls σ α β :=
  as.foldl (after perform) ⟨s, []⟩

/-- What a call comes to in another form of the state. A call that fails leaves what was there. -/
def outcome (form : σ → τ) (s : σ) : Except ε (β × σ) → EStateM.Result ε τ β
  | .ok (b, s') => .ok b (form s')
  | .error e => .error e (form s)

variable {perform : α → EStateM ε σ β} {call : α → σ → Except ε (β × σ)} {c : Calls σ α β} {a : α}
  {P : Calls σ α β → Prop}

@[simp] theorem run_nil (perform : α → EStateM ε σ β) (s : σ) : run perform s [] = ⟨s, []⟩ := rfl

/-- More calls go on from where the others got to. -/
theorem run_append (perform : α → EStateM ε σ β) (s : σ) (as as' : List α) :
    run perform s (as ++ as') = as'.foldl (after perform) (run perform s as) := List.foldl_append

/-- So does one more. -/
theorem run_concat (perform : α → EStateM ε σ β) (s : σ) (as : List α) (a : α) :
    run perform s (as ++ [a]) = (run perform s as).after perform a := run_append perform s as [a]

/-- A call that succeeds is noted with its answer. -/
theorem after_of_ok {b : β} {s : σ} (succeeds : call a c.state = .ok (b, s)) :
    after (fun a => keeping (call a)) c a = ⟨s, c.done ++ [(a, b)]⟩ := by
  simp only [after, EStateM.run, keeping, succeeds]

/-- A call that fails changes nothing. -/
theorem after_of_error {e : ε} (fails : call a c.state = .error e) :
    after (fun a => keeping (call a)) c a = c := by
  simp only [after, EStateM.run, keeping, fails]

/-- **What every call keeps up holds behind every run of calls.** -/
theorem foldl_induction (start : P c) (step : ∀ c a, P c → P (after perform c a)) (as : List α) :
    P (as.foldl (after perform) c) := by
  induction as generalizing c with
  | nil => exact start
  | cons a as ih => exact ih (step c a start)

/-- So it does from the start on. -/
theorem run_induction {s : σ} (start : P ⟨s, []⟩) (step : ∀ c a, P c → P (after perform c a))
    (as : List α) : P (run perform s as) := foldl_induction start step as

/-- Programs that do the same to another form of the state come to the same. -/
theorem foldl_form {form : σ → τ} {perform : α → EStateM ε τ β} (start : P c)
    (step : ∀ c a, P c → P (after (fun a => keeping (call a)) c a))
    (same : ∀ c a, P c → (perform a).run (form c.state) = outcome form c.state (call a c.state))
    (as : List α) :
    as.foldl (after perform) ⟨form c.state, c.done⟩
      = ⟨form (as.foldl (after fun a => keeping (call a)) c).state,
        (as.foldl (after fun a => keeping (call a)) c).done⟩ := by
  induction as generalizing c with
  | nil => rfl
  | cons a as ih =>
    -- one call leaves two forms of the same state, whether it fails or not
    have one : after perform ⟨form c.state, c.done⟩ a
        = ⟨form (after (fun a => keeping (call a)) c a).state,
          (after (fun a => keeping (call a)) c a).done⟩ := by
      rw [after, same c a start]
      cases called : call a c.state with
      | ok answer => rw [after_of_ok called, outcome]
      | error e => rw [after_of_error called, outcome]
    rw [List.foldl_cons, List.foldl_cons, one]
    exact ih (step c a start)

/-- Where only some calls can succeed, and only so many of them, those are the first ones that can. -/
theorem map_fst_done {s : σ} {takes : α → Bool} {limit : Nat} (start : P ⟨s, []⟩)
    (step : ∀ c a, P c → P (after (fun a => keeping (call a)) c a))
    (fails_iff : ∀ c a, P c →
      ((∃ e, call a c.state = .error e) ↔ takes a = false ∨ limit ≤ c.done.length)) (as : List α) :
    (run (fun a => keeping (call a)) s as).done.map (·.1) = (as.filter takes).take limit := by
  -- from behind: whether the last call succeeds depends on how many did before it
  induction as using List.reverseRecOn with
  | nil => simp
  | append_singleton as a ih =>
    have fails := fails_iff _ a (run_induction start step as)
    have length := congrArg List.length ih
    rw [List.length_map, List.length_take] at length
    rw [run_concat, List.filter_append]
    cases called : call a (run (fun a => keeping (call a)) s as).state with
    | ok answer =>
      obtain ⟨refused, free⟩ := not_or.mp (fails.not.mp (by rw [called]; exact nofun))
      have few : (as.filter takes).length + 1 ≤ limit := by omega
      have all : (as.filter takes ++ [a]).length ≤ limit := by
        rw [List.length_append]
        exact few
      rw [after_of_ok called, List.map_append, ih, List.filter_cons_of_pos (by simpa using refused),
        List.take_of_length_le (Nat.le_of_succ_le few)]
      exact (List.take_of_length_le all).symm
    | error e =>
      rw [after_of_error called, ih]
      rcases fails.mp ⟨e, called⟩ with refused | full
      · rw [List.filter_cons_of_neg (by rw [refused]; exact nofun), List.filter_nil, List.append_nil]
      · rw [List.take_append_of_le_length (by omega)]

end Calls

end ComputePlanner
