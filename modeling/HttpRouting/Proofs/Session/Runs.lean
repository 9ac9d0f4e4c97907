/-
  Runs of a session, call by call.

  A registration is the only call that changes a router, and it changes it as `Router.register` does;
  so a call leaves a reachable router reachable (`Reachable.step`), and everything known of reachable
  routers holds before and after it.  A run is cut at any call by `run_append`: the calls behind the
  cut are a run of their own, on the router that the calls before it leave.
-/
import HttpRouting.Proofs.Router.Reachable
import HttpRouting.Session

namespace HttpRouting.Router

universe u

variable {H : Type u} {r : Router H}

/-! ## One call -/

/-- A call leaves the router as it is, or is a registration. -/
theorem fst_step_eq (r : Router H) (call : Call H) :
    (r.step call).1 = r ∨
      ∃ spec handler, call = .register spec handler ∧
        (r.step call).1 = (r.register spec handler).1 := by
  cases call with
  | register spec handler => exact Or.inr ⟨spec, handler, rfl, rfl⟩
  | answer request =>
    rw [step]
    cases request.query <;> exact Or.inl rfl
  | lookup q => exact Or.inl rfl
  | size => exact Or.inl rfl
  | isEmpty => exact Or.inl rfl
  | patterns => exact Or.inl rfl
  | hasMethod method => exact Or.inl rfl
  | config => exact Or.inl rfl

theorem Reachable.step (h : r.Reachable) (call : Call H) : (r.step call).1.Reachable := by
  rcases r.fst_step_eq call with hsame | ⟨spec, handler, -, hregister⟩
  · rwa [hsame]
  · rw [hregister]
    exact h.register spec handler

/-! ## Runs -/

theorem run_cons (r : Router H) (call : Call H) (rest : List (Call H)) :
    r.run (call :: rest) =
      (((r.step call).1.run rest).1, (r.step call).2 :: ((r.step call).1.run rest).2) := rfl

/-- The calls behind a cut are a run on the router that the calls before it leave. -/
theorem run_append (r : Router H) (front back : List (Call H)) :
    r.run (front ++ back) =
      (((r.run front).1.run back).1, (r.run front).2 ++ ((r.run front).1.run back).2) := by
  induction front generalizing r with
  | nil => rfl
  | cons call rest ih => rw [List.cons_append, run_cons, run_cons, ih, List.cons_append]

end HttpRouting.Router
