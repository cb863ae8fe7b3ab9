/-
# Rounding to an integer

The four modes in which a rational number is rounded to an integer, as relations that determine
the integer, and the rounding of a quotient by a power of two: the quotient rounded down, and an
increment that is read off the bits of the numerator.
-/
import Mathlib

namespace Rounding

/-- The modes: to nearest with ties up, to nearest with ties to even, down, to odd. -/
inductive Mode where
  | rnu | rne | rdn | rod
  deriving DecidableEq, Repr

/-- The integer `k` is `x` rounded in the mode. -/
def Rounds : Mode → ℚ → ℤ → Prop
  | .rnu, x, k => k ≤ x + 1 / 2 ∧ x + 1 / 2 < k + 1
  | .rne, x, k => |x - k| ≤ 1 / 2 ∧ (|x - k| = 1 / 2 → Even k)
  | .rdn, x, k => k ≤ x ∧ x < k + 1
  | .rod, x, k => |x - k| < 1 ∧ (x ≠ k → Odd k)

/-- Two integers, each less than one above a common number, and not above it. -/
theorem eq_of_floor {x : ℚ} {k k' : ℤ} (h : k ≤ x ∧ x < k + 1) (h' : k' ≤ x ∧ x < k' + 1) :
    k = k' := by
  have hlt : (k : ℚ) < k' + 1 := by linarith
  have hgt : (k' : ℚ) < k + 1 := by linarith
  have hlt' : k < k' + 1 := by exact_mod_cast hlt
  have hgt' : k' < k + 1 := by exact_mod_cast hgt
  omega

/-- The mode and the number determine the integer. -/
theorem Rounds.unique {μ : Mode} {x : ℚ} {k k' : ℤ} (h : Rounds μ x k) (h' : Rounds μ x k') :
    k = k' := by
  cases μ with
  | rnu => exact eq_of_floor h h'
  | rdn => exact eq_of_floor h h'
  | rne =>
      obtain ⟨hk, hev⟩ := h
      obtain ⟨hk', hev'⟩ := h'
      by_contra hne
      obtain ⟨hl, hu⟩ := abs_le.mp hk
      obtain ⟨hl', hu'⟩ := abs_le.mp hk'
      -- two integers at a distance of at most a half are neighbours, and both ties
      have hle : (k : ℚ) ≤ k' + 1 := by linarith
      have hge : (k' : ℚ) ≤ k + 1 := by linarith
      have hle' : k ≤ k' + 1 := by exact_mod_cast hle
      have hge' : k' ≤ k + 1 := by exact_mod_cast hge
      rcases (by omega : k = k' + 1 ∨ k' = k + 1) with rfl | rfl
      · push_cast at hl hu hev
        have hx : x = k' + 1 / 2 := by linarith
        have hev₁ := hev (by rw [hx]; norm_num [abs_of_neg])
        have hev₂ := hev' (by rw [hx]; norm_num [abs_of_pos])
        rw [Int.even_add_one] at hev₁
        exact hev₁ hev₂
      · push_cast at hl' hu' hev'
        have hx : x = k + 1 / 2 := by linarith
        have hev₁ := hev' (by rw [hx]; norm_num [abs_of_neg])
        have hev₂ := hev (by rw [hx]; norm_num [abs_of_pos])
        rw [Int.even_add_one] at hev₁
        exact hev₁ hev₂
  | rod =>
      obtain ⟨hk, hodd⟩ := h
      obtain ⟨hk', hodd'⟩ := h'
      obtain ⟨hl, hu⟩ := abs_lt.mp hk
      obtain ⟨hl', hu'⟩ := abs_lt.mp hk'
      have hle : (k : ℚ) < k' + 2 := by linarith
      have hge : (k' : ℚ) < k + 2 := by linarith
      have hle' : k < k' + 2 := by exact_mod_cast hle
      have hge' : k' < k + 2 := by exact_mod_cast hge
      by_cases hx : x = k
      · by_contra hne
        rcases (by omega : k = k' + 1 ∨ k' = k + 1) with rfl | rfl
        · rw [hx] at hu'
          push_cast at hu'
          linarith
        · rw [hx] at hl'
          push_cast at hl'
          linarith
      by_cases hx' : x = k'
      · by_contra hne
        rcases (by omega : k = k' + 1 ∨ k' = k + 1) with rfl | rfl
        · rw [hx'] at hl
          push_cast at hl
          linarith
        · rw [hx'] at hu
          push_cast at hu
          linarith
      obtain ⟨a, ha⟩ := hodd hx
      obtain ⟨b, hb⟩ := hodd' hx'
      omega

/-! ## Between two integers -/

section

variable {q : ℤ} {f : ℚ}

/-- When a number in `[q, q + 1)` is rounded to `q`. -/
theorem rounds_floor {μ : Mode} (h₀ : 0 ≤ f) (h₁ : f < 1) (hnu : μ = .rnu → f < 1 / 2)
    (hne : μ = .rne → f ≤ 1 / 2 ∧ (f = 1 / 2 → Even q)) (hod : μ = .rod → f ≠ 0 → Odd q) :
    Rounds μ (q + f) q := by
  have habs : |(q : ℚ) + f - q| = f := by rw [add_sub_cancel_left, abs_of_nonneg h₀]
  cases μ with
  | rnu =>
      have hlt := hnu rfl
      constructor <;> linarith
  | rne =>
      show |(q : ℚ) + f - q| ≤ 1 / 2 ∧ (|(q : ℚ) + f - q| = 1 / 2 → Even q)
      rw [habs]
      exact hne rfl
  | rdn => constructor <;> linarith
  | rod =>
      show |(q : ℚ) + f - q| < 1 ∧ ((q : ℚ) + f ≠ q → Odd q)
      rw [habs]
      refine ⟨h₁, fun hx => hod rfl ?_⟩
      rintro rfl
      exact hx (add_zero _)

/-- When a number in `[q, q + 1)` is rounded to `q + 1`. -/
theorem rounds_ceil {μ : Mode} (h₁ : f < 1) (hnu : μ = .rnu → 1 / 2 ≤ f)
    (hne : μ = .rne → 1 / 2 ≤ f ∧ (f = 1 / 2 → Odd q)) (hdn : μ ≠ .rdn)
    (hod : μ = .rod → 0 < f ∧ Even q) : Rounds μ (q + f) (q + 1 : ℤ) := by
  have habs : |(q : ℚ) + f - (q + 1 : ℤ)| = 1 - f := by
    push_cast
    rw [add_sub_add_left_eq_sub, abs_of_neg (by linarith), neg_sub]
  cases μ with
  | rnu =>
      have hle := hnu rfl
      show ((q + 1 : ℤ) : ℚ) ≤ q + f + 1 / 2 ∧ (q : ℚ) + f + 1 / 2 < (q + 1 : ℤ) + 1
      push_cast
      constructor <;> linarith
  | rne =>
      obtain ⟨hle, hodd⟩ := hne rfl
      show |(q : ℚ) + f - (q + 1 : ℤ)| ≤ 1 / 2
        ∧ (|(q : ℚ) + f - (q + 1 : ℤ)| = 1 / 2 → Even (q + 1))
      rw [habs]
      refine ⟨by linarith, fun htie => ?_⟩
      exact (hodd (by linarith)).add_one
  | rdn => exact absurd rfl hdn
  | rod =>
      obtain ⟨hpos, heven⟩ := hod rfl
      show |(q : ℚ) + f - (q + 1 : ℤ)| < 1 ∧ ((q : ℚ) + f ≠ (q + 1 : ℤ) → Odd (q + 1))
      rw [habs]
      exact ⟨by linarith, fun _ => heven.add_one⟩

end

/-! ## Quotients by powers of two -/

/-- What is added to the quotient `v / 2 ^ s` rounded down. -/
def increment (μ : Mode) (v : ℤ) (s : ℕ) : ℤ :=
  if s = 0 then 0
  else match μ with
    | .rnu => v / 2 ^ (s - 1) % 2
    | .rne => if v / 2 ^ (s - 1) % 2 = 1 ∧ (v % 2 ^ (s - 1) ≠ 0 ∨ v / 2 ^ s % 2 = 1) then 1 else 0
    | .rdn => 0
    | .rod => if v / 2 ^ s % 2 = 0 ∧ v % 2 ^ s ≠ 0 then 1 else 0

/-- The increment is zero or one. -/
theorem increment_bounds (μ : Mode) (v : ℤ) (s : ℕ) :
    0 ≤ increment μ v s ∧ increment μ v s ≤ 1 := by
  unfold increment
  split
  · omega
  cases μ with
  | rnu => dsimp only; omega
  | rne => dsimp only; split <;> omega
  | rdn => dsimp only; omega
  | rod => dsimp only; split <;> omega

/-- The quotient rounded down and half of its remainder. -/
theorem split_half (v : ℤ) (n : ℕ) :
    ∃ q r h : ℤ, h = 2 ^ n ∧ 0 < h ∧ 0 ≤ r ∧ r < 2 * h ∧ v = 2 * h * q + r
      ∧ v / 2 ^ (n + 1) = q ∧ v % 2 ^ (n + 1) = r
      ∧ (r < h → v / 2 ^ n = 2 * q ∧ v % 2 ^ n = r)
      ∧ (h ≤ r → v / 2 ^ n = 2 * q + 1 ∧ v % 2 ^ n = r - h) := by
  have hpos : (0 : ℤ) < 2 ^ n := by positivity
  have hD : (2 : ℤ) ^ (n + 1) = 2 * 2 ^ n := by ring
  have hr₀ := Int.emod_nonneg v (show (2 : ℤ) * 2 ^ n ≠ 0 by omega)
  have hr₁ := Int.emod_lt_of_pos v (show (0 : ℤ) < 2 * 2 ^ n by omega)
  have hv := Int.mul_ediv_add_emod v (2 * 2 ^ n)
  refine ⟨v / (2 * 2 ^ n), v % (2 * 2 ^ n), 2 ^ n, rfl, hpos, hr₀, hr₁, hv.symm, by rw [hD],
    by rw [hD], ?_, ?_⟩
  · intro hlt
    refine (Int.ediv_emod_unique hpos).mpr ⟨?_, hr₀, hlt⟩
    linarith
  · intro hge
    refine (Int.ediv_emod_unique hpos).mpr ⟨?_, by omega, by omega⟩
    linarith

/-- The quotient `v / 2 ^ s`, rounded. -/
def rounded (μ : Mode) (v : ℤ) (s : ℕ) : ℤ := v / 2 ^ s + increment μ v s

/-- Nothing is rounded without a shift. -/
@[simp] theorem rounded_zero (μ : Mode) (v : ℤ) : rounded μ v 0 = v := by
  unfold rounded increment
  rw [if_pos rfl, pow_zero, Int.ediv_one, add_zero]

/-- **The quotient and the increment round the exact quotient.** -/
theorem rounds_rounded (μ : Mode) (v : ℤ) (s : ℕ) : Rounds μ (v / 2 ^ s) (rounded μ v s) := by
  unfold rounded
  unfold increment
  rcases s with _ | n
  · rw [if_pos rfl]
    cases μ <;> norm_num [Rounds]
  rw [if_neg (Nat.succ_ne_zero n), Nat.succ_sub_one]
  obtain ⟨q, r, h, hh, hpos, hr₀, hr₁, hv, hq, hr, hlow, hhigh⟩ := split_half v n
  rw [hq, hr]
  -- the exact quotient lies `f` above the integer `q`
  obtain ⟨f, hf, hf₀, hf₁, hhalf, hnil, htie⟩ : ∃ f : ℚ, ((v : ℚ) / 2 ^ (n + 1)) = q + f
      ∧ 0 ≤ f ∧ f < 1 ∧ (f < 1 / 2 ↔ r < h) ∧ (f = 0 ↔ r = 0) ∧ (f = 1 / 2 ↔ r = h) := by
    have hhq : (0 : ℚ) < h := by exact_mod_cast hpos
    have hpow : (2 : ℚ) ^ (n + 1) = 2 * h := by
      rw [hh]
      push_cast
      ring
    refine ⟨r / (2 * h), ?_, ?_, ?_, ?_, ?_, ?_⟩
    · rw [hpow, hv]
      push_cast
      field_simp
    · positivity
    · rw [div_lt_one (by positivity)]
      exact_mod_cast hr₁
    · rw [div_lt_div_iff₀ (by positivity) (by norm_num)]
      constructor
      · intro hlt
        have hlt' : (r : ℚ) < h := by linarith
        exact_mod_cast hlt'
      · intro hlt
        have hlt' : (r : ℚ) < h := by exact_mod_cast hlt
        linarith
    · rw [div_eq_zero_iff]
      constructor
      · rintro (h0 | h0)
        · exact_mod_cast h0
        · exact absurd h0 (by positivity)
      · intro h0
        exact Or.inl (by exact_mod_cast h0)
    · rw [div_eq_div_iff (by positivity) (by norm_num)]
      constructor
      · intro heq
        have heq' : (r : ℚ) = h := by linarith
        exact_mod_cast heq'
      · intro heq
        rw [heq]
        ring
  rw [hf]
  rcases lt_or_ge r h with hlt | hge
  · obtain ⟨hquot, hrem⟩ := hlow hlt
    have hflt := hhalf.mpr hlt
    rw [hquot, hrem, Int.mul_emod_right]
    have hdown (hodd : μ = .rod → f ≠ 0 → Odd q) : Rounds μ (q + f) q :=
      rounds_floor hf₀ hf₁ (fun _ => hflt) (fun _ => ⟨hflt.le, fun h => absurd h hflt.ne⟩) hodd
    cases μ with
    | rnu =>
        rw [add_zero]
        exact hdown nofun
    | rne =>
        dsimp only
        rw [if_neg (by omega), add_zero]
        exact hdown nofun
    | rdn =>
        rw [add_zero]
        exact hdown nofun
    | rod =>
        dsimp only
        by_cases hup : q % 2 = 0 ∧ r ≠ 0
        · rw [if_pos hup]
          have hfpos : 0 < f := lt_of_le_of_ne hf₀ (fun h => hup.2 (hnil.mp h.symm))
          exact rounds_ceil hf₁ nofun nofun nofun (fun _ => ⟨hfpos, Int.even_iff.mpr hup.1⟩)
        · rw [if_neg hup, add_zero]
          refine hdown (fun _ hne => Int.odd_iff.mpr ?_)
          have hr0 : r ≠ 0 := fun h => hne (hnil.mpr h)
          omega
  · obtain ⟨hquot, hrem⟩ := hhigh hge
    have hfge : 1 / 2 ≤ f := not_lt.mp (fun h => absurd (hhalf.mp h) (not_lt.mpr hge))
    have hbit : (2 * q + 1) % 2 = 1 := by omega
    rw [hquot, hrem, hbit]
    cases μ with
    | rnu => exact rounds_ceil hf₁ (fun _ => hfge) nofun nofun nofun
    | rne =>
        dsimp only
        by_cases hup : r - h ≠ 0 ∨ q % 2 = 1
        · rw [if_pos ⟨rfl, hup⟩]
          refine rounds_ceil hf₁ nofun (fun _ => ⟨hfge, fun h => ?_⟩) nofun nofun
          have hrh := htie.mp h
          exact Int.odd_iff.mpr (by omega)
        · rw [if_neg (fun h => hup h.2), add_zero]
          have hfe : f = 1 / 2 := htie.mpr (by omega)
          exact rounds_floor hf₀ hf₁ nofun
            (fun _ => ⟨hfe.le, fun _ => Int.even_iff.mpr (by omega)⟩) nofun
    | rdn =>
        rw [add_zero]
        exact rounds_floor hf₀ hf₁ nofun nofun nofun
    | rod =>
        dsimp only
        have hr0 : r ≠ 0 := by omega
        by_cases hup : q % 2 = 0 ∧ r ≠ 0
        · rw [if_pos hup]
          exact rounds_ceil hf₁ nofun nofun nofun
            (fun _ => ⟨by linarith, Int.even_iff.mpr hup.1⟩)
        · rw [if_neg hup, add_zero]
          exact rounds_floor hf₀ hf₁ nofun nofun (fun _ _ => Int.odd_iff.mpr (by omega))

end Rounding
