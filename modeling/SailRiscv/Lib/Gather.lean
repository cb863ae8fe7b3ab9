/-
# Bit vectors whose bits are gathered from another

`Gathers f v w` says that the bit `i` of `w` is the bit `f i` of `v`. Such steps compose as the
maps of the indices do, so what a sequence of rotations, reversals or shuffles does is a fact about
natural numbers.
-/
import Mathlib

namespace Bits

variable {n : ℕ}

/-- The bit `i` of `w` is the bit `f i` of `v`. -/
def Gathers (f : ℕ → ℕ) (v w : BitVec n) : Prop := ∀ i < n, w.getLsbD i = v.getLsbD (f i)

/-- The map sends the indices of a vector of `n` bits to such indices. -/
def Maps (n : ℕ) (f : ℕ → ℕ) : Prop := ∀ i < n, f i < n

namespace Gathers

variable {f g : ℕ → ℕ} {v w u : BitVec n}

/-- The index map and the source determine the vector. -/
theorem unique (hw : Gathers f v w) (hu : Gathers g v u) (h : ∀ i < n, f i = g i) : w = u := by
  apply BitVec.eq_of_getLsbD_eq
  intro i hi
  rw [hw i hi, hu i hi, h i hi]

/-- Two steps, the second from the result of the first. -/
theorem trans (hw : Gathers f v w) (hu : Gathers g w u) (hg : Maps n g) :
    Gathers (f ∘ g) v u := by
  intro i hi
  rw [hu i hi, hw (g i) (hg i hi)]
  rfl

/-- A vector is gathered from itself. -/
theorem refl (v : BitVec n) : Gathers id v v := fun _ _ => rfl

/-- **A step that undoes the one before.** -/
theorem cancel (hw : Gathers f v w) (hu : Gathers g w u) (hg : Maps n g)
    (h : ∀ i < n, f (g i) = i) : u = v :=
  (hw.trans hu hg).unique (refl v) h

end Gathers

/-! ## Rotations of the indices -/

/-- The indices moved by `k`, around the end. -/
def turn (n k i : ℕ) : ℕ := (i + k) % n

/-- Turned indices stay below the width. -/
theorem maps_turn (n k : ℕ) : Maps n (turn n k) :=
  fun _ hi => Nat.mod_lt _ (Nat.zero_lt_of_lt hi)

/-- Two turns make one. -/
theorem turn_turn (n j k i : ℕ) : turn n j (turn n k i) = turn n (k + j) i := by
  unfold turn
  rw [Nat.mod_add_mod, Nat.add_assoc]

/-- The amount counts modulo the width. -/
theorem turn_mod (n k i : ℕ) : turn n (k % n) i = turn n k i := by
  unfold turn
  rw [Nat.add_mod_mod]

/-- A full turn moves nothing. -/
theorem turn_self {i : ℕ} (h : i < n) : turn n n i = i := by
  unfold turn
  rw [Nat.add_mod_right, Nat.mod_eq_of_lt h]

/-- A turn of less than the width, without a remainder. -/
theorem turn_eq {k i : ℕ} (hk : k ≤ n) (hi : i < n) :
    turn n k i = if k + i < n then k + i else k + i - n := by
  unfold turn
  rw [Nat.add_comm i k]
  by_cases h : k + i < n
  · rw [if_pos h, Nat.mod_eq_of_lt h]
  · rw [if_neg h, Nat.mod_eq_sub_mod (by omega), Nat.mod_eq_of_lt (by omega)]

end Bits
