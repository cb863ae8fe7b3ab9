/-
# Computations that only read the state

`ReadOnly E m` says that every run of `m` completes without a change of the state, or aborts with
an error in `E`.  The class is closed under the constructs of a program, so that the reading part
of a program is recognised by instance resolution; what it returns is then a function of the
state (`ReadOnly.run_cases`).
-/
import SailRiscv.Lib.Exec

namespace Exec

variable {σ ε α β : Type} {E : ε → Prop}

/-- Every run of `m` leaves the state alone or aborts with an error in `E`. -/
class ReadOnly (E : ε → Prop) (m : Exec σ ε α) : Prop where
  run_cases : ∀ s, (∃ a, m.run s = .ok (a, s)) ∨ ∃ e, E e ∧ m.run s = .error e

/-- A completed run is in the same state. -/
theorem ReadOnly.state_eq {m : Exec σ ε α} (h : ReadOnly E m) {s s' : σ} {a : α}
    (hm : m.run s = .ok (a, s')) : s' = s := by
  rcases h.run_cases s with ⟨b, hb⟩ | ⟨e, -, he⟩
  · rw [hb] at hm
    cases hm
    rfl
  · rw [he] at hm
    cases hm

instance readOnly_pure (a : α) : ReadOnly E (pure a : Exec σ ε α) where
  run_cases _ := Or.inl ⟨a, rfl⟩

instance readOnly_reads (f : σ → α) : ReadOnly E (reads f : Exec σ ε α) where
  run_cases s := Or.inl ⟨f s, rfl⟩

theorem readOnly_checks {f : σ → Except ε α} (h : ∀ s e, f s = .error e → E e) :
    ReadOnly E (checks f) where
  run_cases s := by
    rw [run_checks]
    cases hf : f s with
    | error e => exact Or.inr ⟨e, h s e hf, rfl⟩
    | ok a => exact Or.inl ⟨a, rfl⟩

instance readOnly_bind (m : Exec σ ε α) (f : α → Exec σ ε β) [hm : ReadOnly E m]
    [hf : ∀ a, ReadOnly E (f a)] : ReadOnly E (m >>= f) where
  run_cases s := by
    rcases hm.run_cases s with ⟨a, ha⟩ | ⟨e, he, hm⟩
    · rw [run_bind_of_ok ha]
      exact (hf a).run_cases s
    · exact Or.inr ⟨e, he, run_bind_of_error hm⟩

instance readOnly_ite (c : Prop) [Decidable c] (m n : Exec σ ε α) [ReadOnly E m]
    [ReadOnly E n] : ReadOnly E (if c then m else n) := by
  split <;> infer_instance

instance readOnly_foreach (start n : ℕ) (acc : α) (body : ℕ → α → Exec σ ε α)
    [h : ∀ i a, ReadOnly E (body i a)] : ReadOnly E (foreach start n acc body) := by
  induction n generalizing start acc with
  | zero =>
      rw [foreach]
      infer_instance
  | succ n ih =>
      rw [foreach]
      have := fun a => ih (start + 1) a
      infer_instance

/-- A sequence that completes, after a part that only reads. -/
theorem run_bind_readOnly {m : Exec σ ε α} {f : α → Exec σ ε β} (h : ReadOnly E m) {s s' : σ}
    {b : β} (hrun : (m >>= f).run s = .ok (b, s')) :
    ∃ a, m.run s = .ok (a, s) ∧ (f a).run s = .ok (b, s') := by
  obtain ⟨a, s₁, hm, hf⟩ := run_bind_ok.mp hrun
  have hs := h.state_eq hm
  subst hs
  exact ⟨a, hm, hf⟩

end Exec
