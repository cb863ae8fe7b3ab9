/-
# Loops over elements

A loop over elements does `access k` for one index `k` after the other and carries the next index;
an access without a value ends it.  `elements access a b` is the loop from `a` to `b`.  It can be
cut at any index (`run_elements_split`), it ends early at one access only (`run_elements_cases`),
and a loop over rows of elements is a loop over the elements (`run_rows`).
-/
import SailRiscv.Lib.Exec

namespace Exec

variable {σ ε : Type}

/-- An access goes on with the next index, or it ends the loop. -/
def Counts (access : ℕ → Exec σ ε (Option ℕ)) : Prop :=
  ∀ {k s r s'}, (access k).run s = .ok (r, s') → r = none ∨ r = some (k + 1)

/-- The accesses from `a` on, before `b`. -/
def elements (access : ℕ → Exec σ ε (Option ℕ)) (a b : ℕ) : Exec σ ε (Option ℕ) :=
  foreachTry a (b - a) a fun k _ => access k

variable {access : ℕ → Exec σ ε (Option ℕ)} {a b m : ℕ} {s s' t : σ} {r : Option ℕ}

theorem elements_self (access : ℕ → Exec σ ε (Option ℕ)) (a : ℕ) :
    elements access a a = pure (some a) := by
  unfold elements
  rw [Nat.sub_self, foreachTry]

/-- The first access. -/
theorem elements_of_lt (h : a < b) :
    elements access a b = access a >>= fun r =>
      match r with
      | some k => foreachTry (a + 1) (b - (a + 1)) k fun k _ => access k
      | none => pure none := by
  unfold elements
  rw [show b - a = b - (a + 1) + 1 by omega, foreachTry]
  refine bind_congr (fun r => ?_)
  cases r <;> rfl

/-- The loop goes on after the first access. -/
theorem run_elements_of_some (h : a < b) (ha : (access a).run s = .ok (some (a + 1), t)) :
    (elements access a b).run s = (elements access (a + 1) b).run t := by
  rw [elements_of_lt h, run_bind_of_ok ha]
  rfl

/-- The loop ends with the first access. -/
theorem run_elements_of_none (h : a < b) (ha : (access a).run s = .ok (none, t)) :
    (elements access a b).run s = .ok (none, t) := by
  rw [elements_of_lt h, run_bind_of_ok ha]
  rfl

/-- The first access aborts. -/
theorem run_elements_of_error {e : ε} (h : a < b) (ha : (access a).run s = .error e) :
    (elements access a b).run s = .error e := by
  rw [elements_of_lt h, run_bind_of_error ha]

section Counting

variable (hc : Counts access)
include hc

/-- **The loop can be cut**: the accesses up to `m` and then the others. -/
theorem run_elements_split (ham : a ≤ m) (hmb : m ≤ b) :
    (elements access a b).run s
      = (elements access a m >>= fun r =>
          match r with
          | some _ => elements access m b
          | none => pure none).run s := by
  -- by induction on the number of accesses before the cut
  obtain ⟨n, rfl⟩ := Nat.exists_eq_add_of_le ham
  induction n generalizing a s with
  | zero =>
      rw [Nat.add_zero, elements_self, pure_bind]
  | succ n ih =>
      have hlt : a < a + (n + 1) := by omega
      have hlt' : a < b := by omega
      have hnext : a + (n + 1) = a + 1 + n := by omega
      cases ha : (access a).run s with
      | error e =>
          rw [run_elements_of_error hlt' ha, run_bind_of_error (run_elements_of_error hlt ha)]
      | ok p =>
          obtain ⟨r, s₁⟩ := p
          rcases hc ha with rfl | rfl
          · rw [run_elements_of_none hlt' ha, run_bind_of_ok (run_elements_of_none hlt ha)]
            rfl
          · rw [run_elements_of_some hlt' ha, StateT.run_bind, run_elements_of_some hlt ha,
              hnext, ih (by omega) (by omega), StateT.run_bind]

/-- The loop after its first part. -/
theorem run_elements_append (ham : a ≤ m) (hmb : m ≤ b)
    (h : (elements access a m).run s = .ok (some m, t)) :
    (elements access a b).run s = (elements access m b).run t := by
  rw [run_elements_split hc ham hmb, run_bind_of_ok h]

/-- **A loop that ends early ends at one access**, after all accesses before it. -/
theorem run_elements_cases (hab : a ≤ b) (h : (elements access a b).run s = .ok (r, s')) :
    r = some b
      ∨ r = none ∧ ∃ k t, a ≤ k ∧ k < b ∧ (elements access a k).run s = .ok (some k, t)
        ∧ (access k).run t = .ok (none, s') := by
  obtain ⟨n, rfl⟩ := Nat.exists_eq_add_of_le hab
  induction n generalizing a s with
  | zero =>
      rw [Nat.add_zero, elements_self] at h
      cases h
      exact Or.inl rfl
  | succ n ih =>
      have hlt : a < a + (n + 1) := by omega
      cases ha : (access a).run s with
      | error e =>
          rw [run_elements_of_error hlt ha] at h
          cases h
      | ok p =>
          obtain ⟨r₁, s₁⟩ := p
          rcases hc ha with rfl | rfl
          · -- the first access ends the loop, with no access before it
            rw [run_elements_of_none hlt ha] at h
            cases h
            refine Or.inr ⟨rfl, a, s, le_refl a, hlt, ?_, ha⟩
            rw [elements_self]
            rfl
          · have hnext : a + (n + 1) = a + 1 + n := by omega
            rw [run_elements_of_some hlt ha, hnext] at h
            rw [hnext]
            rcases ih (by omega) h with hr | ⟨hr, k, t, hak, hkb, hrun, hk⟩
            · exact Or.inl hr
            · refine Or.inr ⟨hr, k, t, by omega, hkb, ?_, hk⟩
              rw [run_elements_of_some (show a < k by omega) ha]
              exact hrun

/-- A loop that completes does so with other accesses, if these do where the accesses complete. -/
theorem run_elements_of_completes {access' : ℕ → Exec σ ε (Option ℕ)}
    (hsame : ∀ {k s c t}, (access k).run s = .ok (some c, t) → (access' k).run s = .ok (some c, t))
    (hab : a ≤ b) (h : (elements access a b).run s = .ok (some b, t)) :
    (elements access' a b).run s = .ok (some b, t) := by
  obtain ⟨n, rfl⟩ := Nat.exists_eq_add_of_le hab
  induction n generalizing a s with
  | zero =>
      rw [Nat.add_zero, elements_self] at h ⊢
      exact h
  | succ n ih =>
      have hlt : a < a + (n + 1) := by omega
      cases ha : (access a).run s with
      | error e =>
          rw [run_elements_of_error hlt ha] at h
          cases h
      | ok p =>
          obtain ⟨r, s₁⟩ := p
          rcases hc ha with rfl | rfl
          · rw [run_elements_of_none hlt ha] at h
            cases h
          · rw [run_elements_of_some hlt ha] at h
            rw [run_elements_of_some hlt (hsame ha)]
            have hnext : a + (n + 1) = a + 1 + n := by omega
            rw [hnext] at h ⊢
            exact ih (by omega) h

/-- A loop over the elements of a row, of which the accesses may rely on an invariant. -/
theorem run_row {body : ℕ → ℕ → Exec σ ε (Option ℕ)} {I : σ → Prop} {base p : ℕ}
    (hbody : ∀ {i s}, i < p → I s → (body i (base + i)).run s = (access (base + i)).run s)
    (hkeep : ∀ {k s r s'}, I s → (access k).run s = .ok (r, s') → I s') {i n : ℕ} (hi : i + n ≤ p)
    (hs : I s) :
    (foreachTry i n (base + i) body).run s
      = (elements access (base + i) (base + i + n)).run s := by
  induction n generalizing i s with
  | zero => rw [Nat.add_zero, elements_self, foreachTry]
  | succ n ih =>
      have hlt : base + i < base + i + (n + 1) := by omega
      have hfirst := hbody (show i < p by omega) hs
      rw [foreachTry]
      cases ha : (access (base + i)).run s with
      | error e => rw [run_bind_of_error (hfirst.trans ha), run_elements_of_error hlt ha]
      | ok q =>
          obtain ⟨r, s₁⟩ := q
          rw [run_bind_of_ok (hfirst.trans ha)]
          rcases hc ha with rfl | rfl
          · rw [run_elements_of_none hlt ha]
            rfl
          · rw [run_elements_of_some hlt ha, show base + i + (n + 1) = base + (i + 1) + n by omega]
            exact ih (by omega) (hkeep hs ha)

/-- **A loop over rows of `p` elements is a loop over the elements.** -/
theorem run_rows {row : ℕ → ℕ → Exec σ ε (Option ℕ)} {p N : ℕ}
    (hrow : ∀ {j s}, j < N → (row j (j * p)).run s = (elements access (j * p) ((j + 1) * p)).run s)
    {j n : ℕ} (hj : j + n ≤ N) :
    (foreachTry j n (j * p) row).run s = (elements access (j * p) ((j + n) * p)).run s := by
  induction n generalizing j s with
  | zero => rw [Nat.add_zero, elements_self, foreachTry]
  | succ n ih =>
      have hle : j * p ≤ (j + 1) * p := Nat.mul_le_mul_right p (by omega)
      have hle' : (j + 1) * p ≤ (j + (n + 1)) * p := Nat.mul_le_mul_right p (by omega)
      rw [foreachTry, run_elements_split hc hle hle', StateT.run_bind, StateT.run_bind,
        hrow (by omega)]
      cases ha : (elements access (j * p) ((j + 1) * p)).run s with
      | error e => rfl
      | ok q =>
          obtain ⟨r, s₁⟩ := q
          rcases run_elements_cases hc hle ha with rfl | ⟨rfl, -⟩
          · have hsum : j + (n + 1) = j + 1 + n := by omega
            rw [hsum]
            exact ih (by omega)
          · rfl

end Counting

end Exec
