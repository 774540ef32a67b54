import PragmaAssist.Failure

/-! How computations that may fail run on a state, one lemma for each way to build one. -/
namespace PragmaAssist
namespace Fallible
variable {σ α β : Type}

@[simp] theorem pure_apply (a : α) (s : σ) : (pure a : Fallible σ α) s = (.ok a, s) := rfl

@[simp] theorem get_apply (s : σ) : (get : Fallible σ σ) s = (.ok s, s) := rfl

@[simp] theorem lift_apply (r : Except Failure α) (s : σ) :
    (liftM r : Fallible σ α) s = (r, s) := by
  cases r <;> rfl

theorem bind_apply (x : Fallible σ α) (f : α → Fallible σ β) (s : σ) :
    (x >>= f) s =
      match x s with
      | (.ok a, s') => f a s'
      | (.error e, s') => (.error e, s') := by
  change (match x s with | (r, s') => ExceptT.bindCont f r s') = _
  obtain ⟨r, s'⟩ := x s
  cases r <;> rfl

end Fallible
end PragmaAssist
