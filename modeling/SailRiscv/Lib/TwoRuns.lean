/-
# Two runs side by side

`Alike R m s m' s'` says that the run of `m` from `s` and that of `m'` from `s'` both complete,
with `R`-related results and states, or abort with the same error.  `Public R m` says that `m` only
reads what `R`-related states have in common.
-/
import SailRiscv.Lib.Exec

namespace Exec

variable {σ ε α α' β β' : Type}

/-- Both runs complete with related results and states, or abort with the same error. -/
def Alike (R : α → σ → α' → σ → Prop) (m : Exec σ ε α) (s : σ) (m' : Exec σ ε α') (s' : σ) :
    Prop :=
  (∃ e, m.run s = .error e ∧ m'.run s' = .error e)
    ∨ ∃ a t a' t', m.run s = .ok (a, t) ∧ m'.run s' = .ok (a', t') ∧ R a t a' t'

/-- Results and states that the runs can end with. -/
theorem Alike.mono {R Q : α → σ → α' → σ → Prop} {m : Exec σ ε α} {m' : Exec σ ε α'} {s s' : σ}
    (h : Alike R m s m' s') (himp : ∀ a t a' t', R a t a' t' → Q a t a' t') :
    Alike Q m s m' s' := by
  rcases h with ⟨e, he, he'⟩ | ⟨a, t, a', t', hm, hm', hr⟩
  · exact Or.inl ⟨e, he, he'⟩
  · exact Or.inr ⟨a, t, a', t', hm, hm', himp a t a' t' hr⟩

/-- Two runs of the same computation from the same state. -/
theorem alike_self {R : α → σ → α → σ → Prop} (m : Exec σ ε α) (s : σ) (h : ∀ a t, R a t a t) :
    Alike R m s m s := by
  cases hm : m.run s with
  | error e => exact Or.inl ⟨e, hm, hm⟩
  | ok p => exact Or.inr ⟨p.1, p.2, p.1, p.2, hm, hm, h p.1 p.2⟩

theorem alike_pure {R : α → σ → α' → σ → Prop} {a : α} {a' : α'} {s s' : σ} (h : R a s a' s') :
    Alike R (pure a : Exec σ ε α) s (pure a') s' :=
  Or.inr ⟨a, s, a', s', rfl, rfl, h⟩

theorem alike_update {R : Unit → σ → Unit → σ → Prop} {f f' : σ → σ} {s s' : σ}
    (h : R () (f s) () (f' s')) :
    Alike R (update f : Exec σ ε Unit) s (update f') s' :=
  Or.inr ⟨(), f s, (), f' s', rfl, rfl, h⟩

/-- Sequences with parts that are alike. -/
theorem alike_bind {R : α → σ → α' → σ → Prop} {Q : β → σ → β' → σ → Prop} {m : Exec σ ε α}
    {m' : Exec σ ε α'} {f : α → Exec σ ε β} {f' : α' → Exec σ ε β'} {s s' : σ}
    (h : Alike R m s m' s')
    (hf : ∀ a t a' t', m.run s = .ok (a, t) → m'.run s' = .ok (a', t') → R a t a' t' →
      Alike Q (f a) t (f' a') t') : Alike Q (m >>= f) s (m' >>= f') s' := by
  rcases h with ⟨e, he, he'⟩ | ⟨a, t, a', t', hm, hm', hr⟩
  · exact Or.inl ⟨e, run_bind_of_error he, run_bind_of_error he'⟩
  · have hnext := hf a t a' t' hm hm' hr
    unfold Alike
    rw [run_bind_of_ok hm, run_bind_of_ok hm']
    exact hnext

/-- Sequences with the same first part, from the same state. -/
theorem alike_bind_same {Q : β → σ → β' → σ → Prop} {m : Exec σ ε α} {f : α → Exec σ ε β}
    {f' : α → Exec σ ε β'} {s : σ}
    (hf : ∀ a t, m.run s = .ok (a, t) → Alike Q (f a) t (f' a) t) :
    Alike Q (m >>= f) s (m >>= f') s := by
  refine alike_bind (R := fun a t a' t' => a = a' ∧ t = t') (alike_self m s fun _ _ => ⟨rfl, rfl⟩) ?_
  rintro a t _ _ hm - ⟨rfl, rfl⟩
  exact hf a t hm

/-- Loops with bodies that are alike. -/
theorem alike_foreach {R : α → σ → α' → σ → Prop} (start n : ℕ) {acc : α} {acc' : α'}
    {body : ℕ → α → Exec σ ε α} {body' : ℕ → α' → Exec σ ε α'} {s s' : σ} (h : R acc s acc' s')
    (hbody : ∀ i a t a' t', R a t a' t' → Alike R (body i a) t (body' i a') t') :
    Alike R (foreach start n acc body) s (foreach start n acc' body') s' := by
  induction n generalizing start acc acc' s s' with
  | zero =>
      rw [foreach, foreach]
      exact alike_pure h
  | succ n ih =>
      rw [foreach, foreach]
      exact alike_bind (hbody start acc s acc' s' h) fun a t a' t' _ _ hr => ih (start + 1) hr

/-! ## The part that states have in common -/

section Public

variable {R : σ → σ → Prop}

/-- In `R`-related states `m` returns the same value or aborts with the same error, without a
change of the state. -/
class Public (R : σ → σ → Prop) (m : Exec σ ε α) : Prop where
  run_cases : ∀ {s s'}, R s s' → (∃ a, m.run s = .ok (a, s) ∧ m.run s' = .ok (a, s'))
    ∨ ∃ e, m.run s = .error e ∧ m.run s' = .error e

instance public_pure (a : α) : Public R (pure a : Exec σ ε α) where
  run_cases _ := Or.inl ⟨a, rfl, rfl⟩

instance public_abort (e : ε) : Public R (abort e : Exec σ ε α) where
  run_cases _ := Or.inr ⟨e, rfl, rfl⟩

theorem public_reads {f : σ → α} (h : ∀ {s s'}, R s s' → f s' = f s) :
    Public R (reads f : Exec σ ε α) where
  run_cases {s s'} hr := by
    refine Or.inl ⟨f s, rfl, ?_⟩
    rw [run_reads, h hr]

theorem public_checks {f : σ → Except ε α} (h : ∀ {s s'}, R s s' → f s' = f s) :
    Public R (checks f) where
  run_cases {s s'} hr := by
    rw [run_checks, run_checks, h hr]
    cases f s with
    | error e => exact Or.inr ⟨e, rfl, rfl⟩
    | ok a => exact Or.inl ⟨a, rfl, rfl⟩

instance public_bind (m : Exec σ ε α) (f : α → Exec σ ε β) [hm : Public R m]
    [hf : ∀ a, Public R (f a)] : Public R (m >>= f) where
  run_cases hr := by
    rcases hm.run_cases hr with ⟨a, ha, ha'⟩ | ⟨e, he, he'⟩
    · rw [run_bind_of_ok ha, run_bind_of_ok ha']
      exact (hf a).run_cases hr
    · exact Or.inr ⟨e, run_bind_of_error he, run_bind_of_error he'⟩

instance public_ite (c : Prop) [Decidable c] (m n : Exec σ ε α) [Public R m] [Public R n] :
    Public R (if c then m else n) := by
  split <;> infer_instance

end Public

end Exec
