import Mathlib

/-!
# Reading a successful `Except` computation backwards

A model written in the `Except` monad succeeds only if each of its steps
succeeds. The lemmas here turn a hypothesis `x >>= f = .ok b` into the value
`x` produced and the rest of the computation, so that a proof about a long
`do` block can peel it apart one `obtain` at a time instead of unfolding it. A failed
step, read forwards, fails the whole computation with its error
(`error_bind`).
-/

namespace GoTen.Verified.Result

variable {ε α β : Type}

theorem bind_eq_ok {x : Except ε α} {f : α → Except ε β} {b : β} :
    x >>= f = .ok b ↔ ∃ a, x = .ok a ∧ f a = .ok b := by
  cases x <;> simp [bind, Except.bind]

theorem bind_of_eq_ok {x : Except ε α} {f : α → Except ε β} {a : α} (h : x = .ok a) :
    x >>= f = f a := by
  simp [h, bind, Except.bind]

theorem mapError_eq_ok {ε' : Type} {x : Except ε α} {g : ε → ε'} {a : α} :
    x.mapError g = .ok a ↔ x = .ok a := by
  cases x <;> simp [Except.mapError]

/-- A failed step fails the whole computation with its error. -/
@[simp] theorem error_bind (e : ε) (f : α → Except ε β) : (Except.error e >>= f) = .error e := rfl

@[simp] theorem ok_bind (a : α) (f : α → Except ε β) : (Except.ok a >>= f) = f a := rfl

@[simp] theorem throw_eq_error (e : ε) : (throw e : Except ε α) = .error e := rfl

theorem pure_eq_ok {a b : α} : (pure a : Except ε α) = .ok b ↔ a = b := by
  simp [pure, Except.pure]

/-- `if cond { return err }`: a guard that fails with `err` when `cond` holds. -/
def check (cond : Bool) (err : ε) : Except ε Unit :=
  if cond then .error err else .ok ()

@[simp] theorem check_false (err : ε) : check false err = .ok () := rfl

theorem check_eq_ok {cond : Bool} {err : ε} {u : Unit} : check cond err = .ok u ↔ cond = false := by
  cases cond <;> simp [check]

/-- A map that a decoder undoes element by element is undone by `mapM`. -/
theorem mapM_map_eq_ok {f : β → Except ε α} {g : α → β} (h : ∀ a, f (g a) = .ok a) :
    ∀ l : List α, (l.map g).mapM f = .ok l
  | [] => rfl
  | a :: l => by
      simp only [List.map_cons, List.mapM_cons, h a, ok_bind, mapM_map_eq_ok h l]
      rfl

end GoTen.Verified.Result
