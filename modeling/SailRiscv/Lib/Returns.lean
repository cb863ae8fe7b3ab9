/-
# What a computation can return

`Returns P m` says that every completed run of `m` returns a value with the property `P`.  The
class is closed under the constructs of a program, so that a fact about what a program returns
follows from its last steps by instance resolution.
-/
import SailRiscv.Lib.Exec

namespace Exec

variable {σ ε α β : Type}

/-- Every completed run of `m` returns a value with the property `P`. -/
class Returns (P : α → Prop) (m : Exec σ ε α) : Prop where
  holds : ∀ {s a s'}, m.run s = .ok (a, s') → P a

theorem returns_pure {P : α → Prop} {a : α} (h : P a) : Returns P (pure a : Exec σ ε α) where
  holds hrun := by
    cases hrun
    exact h

instance returns_abort (P : α → Prop) (e : ε) : Returns P (abort e : Exec σ ε α) where
  holds hrun := by cases hrun

instance returns_bind (P : β → Prop) (m : Exec σ ε α) (f : α → Exec σ ε β)
    [h : ∀ a, Returns P (f a)] : Returns P (m >>= f) where
  holds hrun := by
    obtain ⟨a, s₁, -, hf⟩ := run_bind_ok.mp hrun
    exact (h a).holds hf

instance returns_ite (P : α → Prop) (c : Prop) [Decidable c] (m n : Exec σ ε α) [Returns P m]
    [Returns P n] : Returns P (if c then m else n) := by
  split <;> infer_instance

/-- A part with a known property, and the rest of a sequence for values with it. -/
theorem returns_bind_of {P : β → Prop} {Q : α → Prop} {m : Exec σ ε α} {f : α → Exec σ ε β}
    (hm : Returns Q m) (hf : ∀ a, Q a → Returns P (f a)) : Returns P (m >>= f) where
  holds hrun := by
    obtain ⟨a, s₁, ha, hrest⟩ := run_bind_ok.mp hrun
    exact (hf a (hm.holds ha)).holds hrest

/-- A loop that is left early in no iteration. -/
theorem returns_foreachTry (start n : ℕ) (acc : α) {body : ℕ → α → Exec σ ε (Option α)}
    (h : ∀ i a, Returns (· ≠ none) (body i a)) :
    Returns (· ≠ none) (foreachTry start n acc body) := by
  induction n generalizing start acc with
  | zero =>
      rw [foreachTry]
      exact returns_pure (Option.some_ne_none acc)
  | succ n ih =>
      rw [foreachTry]
      refine returns_bind_of (h start acc) ?_
      intro r hr
      cases r with
      | none => exact absurd rfl hr
      | some acc' => exact ih (start + 1) acc'

end Exec
