/-
# Computations that fail with one last step

`Settles R T fail m` says that every completed run of `m` either does not fail and goes from a
state to an `R`-related one, or fails and does so after an `R`-step and one last `T`-step.  The
class is closed under the constructs of a program, where `m >>= f` takes the part before the
failure from `Keeps R m`.
-/
import SailRiscv.Lib.Exec

namespace Exec

variable {σ ε α β : Type}

/-- A completed run of `m` is an `R`-step, or fails and is an `R`-step and a `T`-step. -/
class Settles (R T : σ → σ → Prop) (fail : α → Prop) (m : Exec σ ε α) : Prop where
  out : ∀ {s a s'}, m.run s = .ok (a, s') →
    (¬ fail a ∧ R s s') ∨ (fail a ∧ ∃ s₁, R s s₁ ∧ T s₁ s')

/-- The exits of a loop body that fail. -/
def Exits (fail : α → Prop) (r : Option α) : Prop := ∃ a, r = some a ∧ fail a

/-- Run `body i` for `i = start, …, start + n - 1`, and `k` unless an iteration returns a
value. -/
def foreachThen (start n : ℕ) (body : ℕ → Exec σ ε (Option α)) (k : Exec σ ε α) : Exec σ ε α :=
  foreachUntil start n body >>= fun r => r.elim k pure

section

variable {R T : σ → σ → Prop} {fail : α → Prop}

/-- The outcome for a stronger pair of relations. -/
theorem Settles.mono {R' T' : σ → σ → Prop} {m : Exec σ ε α} (hR : ∀ {s s'}, R s s' → R' s s')
    (hT : ∀ {s s'}, T s s' → T' s s') (hm : Settles R T fail m) : Settles R' T' fail m where
  out h := by
    rcases hm.out h with ⟨hf, hr⟩ | ⟨hf, s₁, hr, ht⟩
    · exact Or.inl ⟨hf, hR hr⟩
    · exact Or.inr ⟨hf, s₁, hR hr, hT ht⟩

/-- A step before a computation that settles. -/
theorem settles_of_step [IsTrans σ R] {m : Exec σ ε α} (h : Settles R T fail m) {s s₁ s' : σ}
    {a : α} (hr : R s s₁) (hm : m.run s₁ = .ok (a, s')) :
    (¬ fail a ∧ R s s') ∨ (fail a ∧ ∃ s₁, R s s₁ ∧ T s₁ s') := by
  rcases h.out hm with ⟨hf, hr'⟩ | ⟨hf, s₂, hr', ht⟩
  · exact Or.inl ⟨hf, IsTrans.trans _ _ _ hr hr'⟩
  · exact Or.inr ⟨hf, s₂, IsTrans.trans _ _ _ hr hr', ht⟩

instance settles_bind [IsTrans σ R] (m : Exec σ ε β) (f : β → Exec σ ε α) [Keeps R m]
    [h : ∀ b, Settles R T fail (f b)] : Settles R T fail (m >>= f) where
  out hr := by
    obtain ⟨b, s₁, hm, hf⟩ := run_bind_ok.mp hr
    exact settles_of_step (h b) (Keeps.rel hm) hf

instance settles_ite (c : Prop) [Decidable c] (m n : Exec σ ε α) [Settles R T fail m]
    [Settles R T fail n] : Settles R T fail (if c then m else n) := by
  split <;> infer_instance

instance settles_abort (e : ε) : Settles R T fail (abort e : Exec σ ε α) where
  out h := by cases h

instance settles_none [Std.Refl R] : Settles R T (Exits fail) (pure none : Exec σ ε (Option α)) where
  out h := by
    cases h
    refine Or.inl ⟨?_, Std.Refl.refl _⟩
    rintro ⟨a, ha, -⟩
    cases ha

/-- A loop body that leaves the loop with the failure of `m`. -/
instance settles_some (m : Exec σ ε α) [h : Settles R T fail m] :
    Settles R T (Exits fail) (m >>= fun a => pure (some a)) where
  out hr := by
    obtain ⟨a, s₁, hm, hs⟩ := run_bind_ok.mp hr
    cases hs
    rcases h.out hm with ⟨hf, hr⟩ | ⟨hf, ht⟩
    · refine Or.inl ⟨?_, hr⟩
      rintro ⟨b, hb, hfail⟩
      cases hb
      exact hf hfail
    · exact Or.inr ⟨⟨a, rfl, hf⟩, ht⟩

instance settles_foreachUntil [Std.Refl R] [IsTrans σ R] (start n : ℕ)
    (body : ℕ → Exec σ ε (Option α)) [h : ∀ i, Settles R T (Exits fail) (body i)] :
    Settles R T (Exits fail) (foreachUntil start n body) := by
  induction n generalizing start with
  | zero => rw [foreachUntil]; infer_instance
  | succ n ih =>
      refine ⟨fun hr => ?_⟩
      rw [foreachUntil] at hr
      obtain ⟨r, s₁, hm, hrest⟩ := run_bind_ok.mp hr
      cases r with
      | some a =>
          cases hrest
          exact (h start).out hm
      | none =>
          rcases (h start).out hm with ⟨-, hs⟩ | ⟨⟨a, ha, -⟩, -⟩
          · exact settles_of_step (ih (start + 1)) hs hrest
          · cases ha

instance settles_foreachThen [Std.Refl R] [IsTrans σ R] (start n : ℕ)
    (body : ℕ → Exec σ ε (Option α)) (k : Exec σ ε α)
    [h : ∀ i, Settles R T (Exits fail) (body i)] [hk : Settles R T fail k] :
    Settles R T fail (foreachThen start n body k) where
  out hr := by
    obtain ⟨r, s₁, hm, hrest⟩ := run_bind_ok.mp hr
    have hloop : Settles R T (Exits fail) (foreachUntil start n body) := inferInstance
    have hout := hloop.out hm
    cases r with
    | none =>
        rcases hout with ⟨-, hs⟩ | ⟨⟨a, ha, -⟩, -⟩
        · exact settles_of_step hk hs hrest
        · cases ha
    | some a =>
        cases hrest
        rcases hout with ⟨hf, hs⟩ | ⟨⟨b, hb, hf⟩, ht⟩
        · exact Or.inl ⟨fun hfail => hf ⟨_, rfl, hfail⟩, hs⟩
        · cases hb
          exact Or.inr ⟨hf, ht⟩

end

end Exec
