import Mathlib

/-!
# Runs of a partial step in which a failure is skipped

A list of jobs is executed one after the other against a state. A job
either succeeds, producing a result and a new state, or fails, in which case
the state is restored and the job gives up its position: the next job is
executed at the position the failed one would have had. Block producers
number the transactions of a block this way, so that a rejected transaction
leaves no gap in the indices of the ones that follow.

The one fact this file exists for is `run_kept`: executing only the jobs
that succeeded reproduces the run exactly (the same results at the same
positions, and the same final state). A re-executing validator that receives
only the surviving jobs therefore recomputes what the producer computed,
however the failures were interleaved with the successes.

Nothing here names a particular machine: the state, the jobs, the results
and the errors are arbitrary types.
-/

namespace GoTen.Verified.SkipRun

variable {σ α ρ ε : Type}

/-- Execute `xs` from position `pos`. Every job is paired with its outcome;
a failed job keeps the state and the position for the next one. -/
def run (step : σ → α → Nat → Except ε (ρ × σ)) :
    Nat → σ → List α → List (α × Except ε ρ) × σ
  | _, s, [] => ([], s)
  | pos, s, x :: xs =>
      match step s x pos with
      | .error e =>
          let rest := run step pos s xs
          ((x, .error e) :: rest.1, rest.2)
      | .ok (r, s') =>
          let rest := run step (pos + 1) s' xs
          ((x, .ok r) :: rest.1, rest.2)

/-- The jobs whose outcome is a success, in order. -/
def kept (outcomes : List (α × Except ε ρ)) : List α :=
  outcomes.filterMap fun o => o.2.toOption.map fun _ => o.1

/-- The successful jobs paired with their results, in order. -/
def results (outcomes : List (α × Except ε ρ)) : List (α × ρ) :=
  outcomes.filterMap fun o => o.2.toOption.map fun r => (o.1, r)

variable (step : σ → α → Nat → Except ε (ρ × σ))

@[simp] theorem run_nil (pos : Nat) (s : σ) : run step pos s [] = ([], s) := rfl

theorem run_cons_error {pos : Nat} {s : σ} {x : α} {xs : List α} {e : ε}
    (h : step s x pos = .error e) :
    run step pos s (x :: xs) =
      ((x, .error e) :: (run step pos s xs).1, (run step pos s xs).2) := by
  simp [run, h]

theorem run_cons_ok {pos : Nat} {s s' : σ} {x : α} {xs : List α} {r : ρ}
    (h : step s x pos = .ok (r, s')) :
    run step pos s (x :: xs) =
      ((x, .ok r) :: (run step (pos + 1) s' xs).1, (run step (pos + 1) s' xs).2) := by
  simp [run, h]

@[simp] theorem kept_nil : kept ([] : List (α × Except ε ρ)) = [] := rfl

@[simp] theorem kept_cons_error (x : α) (e : ε) (os : List (α × Except ε ρ)) :
    kept ((x, .error e) :: os) = kept os := by
  simp [kept, Except.toOption]

@[simp] theorem kept_cons_ok (x : α) (r : ρ) (os : List (α × Except ε ρ)) :
    kept ((x, .ok r) :: os) = x :: kept os := by
  simp [kept, Except.toOption]

@[simp] theorem results_nil : results ([] : List (α × Except ε ρ)) = [] := rfl

@[simp] theorem results_cons_error (x : α) (e : ε) (os : List (α × Except ε ρ)) :
    results ((x, .error e) :: os) = results os := by
  simp [results, Except.toOption]

@[simp] theorem results_cons_ok (x : α) (r : ρ) (os : List (α × Except ε ρ)) :
    results ((x, .ok r) :: os) = (x, r) :: results os := by
  simp [results, Except.toOption]

/-- A run pairs every job with its outcome, in order. -/
theorem run_map_fst (pos : Nat) (s : σ) (xs : List α) :
    (run step pos s xs).1.map Prod.fst = xs := by
  induction xs generalizing pos s with
  | nil => rfl
  | cons x xs ih =>
      cases hstep : step s x pos with
      | error e => rw [run_cons_error step hstep, List.map_cons, ih]
      | ok p => rw [run_cons_ok step hstep, List.map_cons, ih]

/-- The successful jobs are the first components of the results. -/
theorem kept_eq_map_results (os : List (α × Except ε ρ)) :
    kept os = (results os).map Prod.fst := by
  induction os with
  | nil => rfl
  | cons o os ih =>
      obtain ⟨x, e | r⟩ := o
      · simp [ih]
      · simp [ih]

/-- The kept jobs form a sublist of the jobs that were run. -/
theorem kept_run_sublist (pos : Nat) (s : σ) (xs : List α) :
    (kept (run step pos s xs).1).Sublist xs := by
  induction xs generalizing pos s with
  | nil => simp
  | cons x xs ih =>
      cases hstep : step s x pos with
      | error e =>
          rw [run_cons_error step hstep, kept_cons_error]
          exact (ih pos s).cons x
      | ok p =>
          obtain ⟨r, s'⟩ := p
          rw [run_cons_ok step hstep, kept_cons_ok]
          exact (ih (pos + 1) s').cons_cons x

/-- **Replaying the survivors.** Running only the jobs that succeeded gives
every one of them the same result at the same position, and ends in the same
state: a failed job was a no-op on both the state and the position. -/
theorem run_kept (pos : Nat) (s : σ) (xs : List α) :
    run step pos s (kept (run step pos s xs).1) =
      ((results (run step pos s xs).1).map (fun p => (p.1, .ok p.2)),
        (run step pos s xs).2) := by
  induction xs generalizing pos s with
  | nil => rfl
  | cons x xs ih =>
      cases hstep : step s x pos with
      | error e =>
          -- the failed job disappears from both sides; the rest started at `pos, s`
          rw [run_cons_error step hstep, kept_cons_error, results_cons_error]
          exact ih pos s
      | ok p =>
          obtain ⟨r, s'⟩ := p
          rw [run_cons_ok step hstep, kept_cons_ok, results_cons_ok,
            run_cons_ok step hstep, ih (pos + 1) s']
          rfl

/-- Results that are all successes read back as themselves. -/
theorem results_map_ok (ps : List (α × ρ)) :
    results (ps.map fun p => ((p.1, .ok p.2) : α × Except ε ρ)) = ps := by
  induction ps with
  | nil => rfl
  | cons p ps ih => simp [ih]

end GoTen.Verified.SkipRun
