/-
# Computations that always complete

`Completes m` says that `m` never aborts.  The class is closed under the constructs of a
program, so that the completion of a program without assertions follows by instance
resolution.
-/
import SailRiscv.Lib.Exec

namespace Exec

variable {σ ε α β : Type}

/-- Every run of `m` completes. -/
class Completes (m : Exec σ ε α) : Prop where
  run_ok : ∀ s, ∃ a s', m.run s = .ok (a, s')

instance completes_pure (a : α) : Completes (pure a : Exec σ ε α) where
  run_ok s := ⟨a, s, rfl⟩

instance completes_reads (f : σ → α) : Completes (reads f : Exec σ ε α) where
  run_ok s := ⟨f s, s, rfl⟩

instance completes_update (f : σ → σ) : Completes (update f : Exec σ ε Unit) where
  run_ok s := ⟨(), f s, rfl⟩

instance completes_bind (m : Exec σ ε α) (f : α → Exec σ ε β) [hm : Completes m]
    [hf : ∀ a, Completes (f a)] : Completes (m >>= f) where
  run_ok s := by
    obtain ⟨a, s', ha⟩ := hm.run_ok s
    rw [run_bind_of_ok ha]
    exact (hf a).run_ok s'

/-- A conditional, each branch of which may use its condition. -/
theorem completes_of_ite {c : Prop} [Decidable c] {m n : Exec σ ε α}
    (hm : c → Completes m) (hn : ¬ c → Completes n) : Completes (if c then m else n) := by
  by_cases hc : c
  · rw [if_pos hc]
    exact hm hc
  · rw [if_neg hc]
    exact hn hc

instance completes_ite (c : Prop) [Decidable c] (m n : Exec σ ε α) [Completes m]
    [Completes n] : Completes (if c then m else n) := by
  split <;> infer_instance

/-- What completes does not abort. -/
theorem Completes.run_ne_error {m : Exec σ ε α} (h : Completes m) (s : σ) (e : ε) :
    m.run s ≠ .error e := by
  obtain ⟨a, s', ha⟩ := h.run_ok s
  intro he
  rw [ha] at he
  cases he

end Exec
