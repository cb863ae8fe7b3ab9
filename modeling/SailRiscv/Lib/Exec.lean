/-
# Stateful computations that may abort

`Exec σ ε α` is a computation over a state `σ` that returns a value or aborts with
an error `ε`; an abort has no final state.  Two kinds of rules are developed for it.

* Evaluation: how a completed run of a sequence splits into completed runs of its
  parts (`run_bind_ok`), and what a sequence does once its first part is known.
* Preservation: `Keeps R m` says that every completed run of `m` goes from a state
  to an `R`-related one.  For a reflexive and transitive `R` the class is closed
  under the constructs of a program, so that a fact about a whole program follows
  from facts about its primitive operations by instance resolution.
-/
import Mathlib

/-- Computations over a state `σ` that return a value or abort with an error. -/
abbrev Exec (σ ε α : Type) := StateT σ (Except ε) α

namespace Exec

variable {σ ε α β : Type}

/-- Read a value off the state. -/
def reads (f : σ → α) : Exec σ ε α := fun s => .ok (f s, s)

/-- Run a check that reads the state and may abort, but cannot change the state. -/
def checks (f : σ → Except ε α) : Exec σ ε α := fun s => (f s).map (fun a => (a, s))

/-- Change the state. -/
def update (f : σ → σ) : Exec σ ε Unit := fun s => .ok ((), f s)

/-- Abort. -/
def abort (e : ε) : Exec σ ε α := fun _ => .error e

/-- Run `body i` for `i = start, …, start + n - 1`, threading an accumulator. -/
def foreach (start n : ℕ) (acc : α) (body : ℕ → α → Exec σ ε α) : Exec σ ε α :=
  match n with
  | 0 => pure acc
  | n + 1 => body start acc >>= fun acc' => foreach (start + 1) n acc' body

/-- Run `body i` for `i = start, …, start + n - 1`, leaving the loop as soon as one
iteration returns a value. -/
def foreachUntil (start n : ℕ) (body : ℕ → Exec σ ε (Option α)) : Exec σ ε (Option α) :=
  match n with
  | 0 => pure none
  | n + 1 => body start >>= fun r =>
      match r with
      | some a => pure (some a)
      | none => foreachUntil (start + 1) n body

/-- Run `body i` for `i = start, …, start + n - 1`, threading an accumulator, and leave the
loop at the first iteration without a value. -/
def foreachTry (start n : ℕ) (acc : α) (body : ℕ → α → Exec σ ε (Option α)) :
    Exec σ ε (Option α) :=
  match n with
  | 0 => pure (some acc)
  | n + 1 => body start acc >>= fun r =>
      match r with
      | some acc' => foreachTry (start + 1) n acc' body
      | none => pure none

/-! ## Evaluation -/

@[simp] theorem run_pure (a : α) (s : σ) :
    (pure a : Exec σ ε α).run s = .ok (a, s) := rfl

@[simp] theorem run_reads (f : σ → α) (s : σ) :
    (reads f : Exec σ ε α).run s = .ok (f s, s) := rfl

@[simp] theorem run_update (f : σ → σ) (s : σ) :
    (update f : Exec σ ε Unit).run s = .ok ((), f s) := rfl

@[simp] theorem run_abort (e : ε) (s : σ) :
    (abort e : Exec σ ε α).run s = .error e := rfl

@[simp] theorem run_checks (f : σ → Except ε α) (s : σ) :
    (checks f).run s = (f s).map (fun a => (a, s)) := rfl

/-- Once the first part of a sequence is known to complete, the sequence is the rest. -/
theorem run_bind_of_ok {m : Exec σ ε α} {f : α → Exec σ ε β} {s s' : σ} {a : α}
    (h : m.run s = .ok (a, s')) : (m >>= f).run s = (f a).run s' := by
  rw [StateT.run_bind, h]
  rfl

/-- Once the first part of a sequence is known to abort, the sequence aborts. -/
theorem run_bind_of_error {m : Exec σ ε α} {f : α → Exec σ ε β} {s : σ} {e : ε}
    (h : m.run s = .error e) : (m >>= f).run s = .error e := by
  rw [StateT.run_bind, h]
  rfl

/-- A sequence completes exactly when its parts do, one after the other. -/
theorem run_bind_ok {m : Exec σ ε α} {f : α → Exec σ ε β} {s s'' : σ} {b : β} :
    (m >>= f).run s = .ok (b, s'')
      ↔ ∃ a s', m.run s = .ok (a, s') ∧ (f a).run s' = .ok (b, s'') := by
  constructor
  · intro h
    cases hm : m.run s with
    | error e => rw [run_bind_of_error hm] at h; cases h
    | ok p =>
        rw [run_bind_of_ok hm] at h
        exact ⟨p.1, p.2, rfl, h⟩
  · rintro ⟨a, s', hm, hf⟩
    rw [run_bind_of_ok hm, hf]

/-- The run completes, with a value and a state that pass the test. -/
def passes (m : Exec σ ε α) (s : σ) (test : α → σ → Bool) : Bool :=
  match m.run s with
  | .ok (a, s') => test a s'
  | .error _ => false

theorem passes_iff {m : Exec σ ε α} {s : σ} {test : α → σ → Bool} :
    m.passes s test = true ↔ ∃ a s', m.run s = .ok (a, s') ∧ test a s' = true := by
  unfold passes
  split
  · next a s' h =>
      constructor
      · intro htest
        exact ⟨a, s', h, htest⟩
      · rintro ⟨a₁, s₁, h₁, htest⟩
        rw [h] at h₁
        cases h₁
        exact htest
  · next e h =>
      constructor
      · intro hfalse
        cases hfalse
      · rintro ⟨a₁, s₁, h₁, -⟩
        rw [h] at h₁
        cases h₁

/-- A check completes exactly when its function does, in the same state. -/
theorem run_checks_ok {f : σ → Except ε α} {s s' : σ} {a : α} :
    (checks f).run s = .ok (a, s') ↔ f s = .ok a ∧ s' = s := by
  rw [run_checks]
  cases f s with
  | error e => simp [Except.map]
  | ok b => simp [Except.map, eq_comm]

/-! ## Preservation of a relation between states -/

/-- Every completed run of `m` goes from a state to an `R`-related state. -/
class Keeps (R : σ → σ → Prop) (m : Exec σ ε α) : Prop where
  rel : ∀ {s a s'}, m.run s = .ok (a, s') → R s s'

section Keeps

variable {R : σ → σ → Prop}

/-- What keeps a relation keeps a weaker one. -/
theorem Keeps.mono {R' : σ → σ → Prop} {m : Exec σ ε α} (h : ∀ {s s'}, R s s' → R' s s')
    (hm : Keeps R m) : Keeps R' m where
  rel hr := h (hm.rel hr)

instance keeps_pure [Std.Refl R] (a : α) : Keeps R (pure a : Exec σ ε α) where
  rel h := by
    cases h
    exact Std.Refl.refl _

instance keeps_reads [Std.Refl R] (f : σ → α) : Keeps R (reads f : Exec σ ε α) where
  rel h := by
    cases h
    exact Std.Refl.refl _

instance keeps_checks [Std.Refl R] (f : σ → Except ε α) : Keeps R (checks f) where
  rel {s a s'} h := by
    rw [run_checks] at h
    cases hf : f s with
    | error e => rw [hf] at h; cases h
    | ok b =>
        rw [hf] at h
        cases h
        exact Std.Refl.refl _

instance keeps_abort (e : ε) : Keeps R (abort e : Exec σ ε α) where
  rel h := by cases h

instance keeps_bind [IsTrans σ R] (m : Exec σ ε α) (f : α → Exec σ ε β) [Keeps R m]
    [∀ a, Keeps R (f a)] : Keeps R (m >>= f) where
  rel h := by
    obtain ⟨a, s', hm, hf⟩ := run_bind_ok.mp h
    exact IsTrans.trans _ _ _ (Keeps.rel hm) (Keeps.rel hf)

instance keeps_ite (c : Prop) [Decidable c] (m n : Exec σ ε α) [Keeps R m] [Keeps R n] :
    Keeps R (if c then m else n) := by
  split <;> infer_instance

/-- A conditional, each branch of which may use its condition. -/
theorem keeps_of_ite {c : Prop} [Decidable c] {m n : Exec σ ε α} (hm : c → Keeps R m)
    (hn : ¬ c → Keeps R n) : Keeps R (if c then m else n) := by
  by_cases hc : c
  · rw [if_pos hc]
    exact hm hc
  · rw [if_neg hc]
    exact hn hc

/-- An update keeps `R` when it moves every state to an `R`-related one. -/
theorem keeps_update {f : σ → σ} (h : ∀ s, R s (f s)) :
    Keeps R (update f : Exec σ ε Unit) where
  rel hr := by
    cases hr
    exact h _

instance keeps_foreach [Std.Refl R] [IsTrans σ R] (start n : ℕ) (acc : α)
    (body : ℕ → α → Exec σ ε α) [h : ∀ i a, Keeps R (body i a)] :
    Keeps R (foreach start n acc body) := by
  induction n generalizing start acc with
  | zero => rw [foreach]; infer_instance
  | succ n ih =>
      rw [foreach]
      have := fun a => ih (start + 1) a
      infer_instance

instance keeps_foreachUntil [Std.Refl R] [IsTrans σ R] (start n : ℕ)
    (body : ℕ → Exec σ ε (Option α)) [h : ∀ i, Keeps R (body i)] :
    Keeps R (foreachUntil start n body) := by
  induction n generalizing start with
  | zero => rw [foreachUntil]; infer_instance
  | succ n ih =>
      rw [foreachUntil]
      have hrest := ih (start + 1)
      have : ∀ r : Option α, Keeps R (match r with
          | some a => (pure (some a) : Exec σ ε (Option α))
          | none => foreachUntil (start + 1) n body) := by
        intro r
        cases r <;> infer_instance
      infer_instance

instance keeps_foreachTry [Std.Refl R] [IsTrans σ R] (start n : ℕ) (acc : α)
    (body : ℕ → α → Exec σ ε (Option α)) [h : ∀ i a, Keeps R (body i a)] :
    Keeps R (foreachTry start n acc body) := by
  induction n generalizing start acc with
  | zero => rw [foreachTry]; infer_instance
  | succ n ih =>
      rw [foreachTry]
      have : ∀ r : Option α, Keeps R (match r with
          | some acc' => foreachTry (start + 1) n acc' body
          | none => (pure none : Exec σ ε (Option α))) := by
        intro r
        cases r with
        | none => infer_instance
        | some acc' => exact ih (start + 1) acc'
      infer_instance

end Keeps

end Exec
