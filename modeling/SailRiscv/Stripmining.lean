/-
# Stripmining

The loop of a program that asks `vsetvli` for as many elements as there are left, and goes on with
the rest: it ends, its steps cover the elements exactly, and they do not grow.
-/
import SailRiscv.Insts.VextVset

namespace SailRiscv

open Platform

variable [Platform] {vlmax : ℕ}

/-! ## One step -/

/-- `calculate_new_vl` before `to_bits`. -/
def exactNewVl (avl vlmax : ℕ) : ℕ :=
  if avl ≤ vlmax then avl else if avl < 2 * vlmax then (avl + 1) / 2 else vlmax

omit [Platform] in
theorem exactNewVl_le (avl vlmax : ℕ) : exactNewVl avl vlmax ≤ avl := by
  unfold exactNewVl
  split
  · exact le_rfl
  · split <;> omega

omit [Platform] in
theorem exactNewVl_le_vlmax (avl vlmax : ℕ) : exactNewVl avl vlmax ≤ vlmax := by
  unfold exactNewVl
  split
  · assumption
  · split <;> omega

omit [Platform] in
/-- A step takes some of the elements, if there are any. -/
theorem exactNewVl_pos {avl : ℕ} (hmax : 1 ≤ vlmax) (h : 0 < avl) : 0 < exactNewVl avl vlmax := by
  unfold exactNewVl
  split
  · exact h
  · split <;> omega

omit [Platform] in
/-- The next step takes no more elements than this one. -/
theorem exactNewVl_rest_le (avl vlmax : ℕ) :
    exactNewVl (avl - exactNewVl avl vlmax) vlmax ≤ exactNewVl avl vlmax := by
  by_cases hall : avl ≤ vlmax
  · have hvl : exactNewVl avl vlmax = avl := if_pos hall
    rw [hvl, Nat.sub_self]
    exact le_trans (exactNewVl_le 0 vlmax) (Nat.zero_le _)
  by_cases hhalf : avl < 2 * vlmax
  · have hvl : exactNewVl avl vlmax = (avl + 1) / 2 := by
      unfold exactNewVl
      rw [if_neg hall, if_pos hhalf]
    have hrest := exactNewVl_le (avl - exactNewVl avl vlmax) vlmax
    omega
  · have hvl : exactNewVl avl vlmax = vlmax := by
      unfold exactNewVl
      rw [if_neg hall, if_neg hhalf]
    rw [hvl]
    exact exactNewVl_le_vlmax _ _

/-- `to_bits` does not truncate the length that a register asks for. -/
theorem calculateNewVl_toNat (avl : Xlenbits) (vlmax : ℕ) :
    (calculateNewVl avl.toNat vlmax).toNat = exactNewVl avl.toNat vlmax := by
  have hbits : calculateNewVl avl.toNat vlmax = BitVec.ofNat xlen (exactNewVl avl.toNat vlmax) := by
    unfold calculateNewVl exactNewVl
    split
    · rfl
    · split <;> rfl
  have hlt := lt_of_le_of_lt (exactNewVl_le avl.toNat vlmax) avl.isLt
  rw [hbits, BitVec.toNat_ofNat, Nat.mod_eq_of_lt hlt]

/-! ## The loop -/

/-- `while AVL > 0: vl := calculate_new_vl(AVL, VLMAX); AVL := AVL - vl`, with the lengths of its
steps, if it ends after at most `fuel` of them. -/
def stripmine (vlmax : ℕ) : ℕ → Xlenbits → Option (List Xlenbits)
  | 0, avl => if avl = 0#_ then some [] else none
  | fuel + 1, avl =>
      if avl = 0#_ then some []
      else
        let vl := calculateNewVl avl.toNat vlmax
        (stripmine vlmax fuel (avl - vl)).map (vl :: ·)

/-- What is left after a step. -/
theorem toNat_rest (avl : Xlenbits) (vlmax : ℕ) :
    (avl - calculateNewVl avl.toNat vlmax).toNat
      = avl.toNat - exactNewVl avl.toNat vlmax := by
  have hle : calculateNewVl avl.toNat vlmax ≤ avl := by
    rw [BitVec.le_def, calculateNewVl_toNat]
    exact exactNewVl_le _ _
  rw [BitVec.toNat_sub_of_le hle, calculateNewVl_toNat]

/-- The steps of the loop: they do not grow, and the first takes `exactNewVl` elements. -/
structure Strips (vlmax : ℕ) (avl : Xlenbits) (vls : List Xlenbits) : Prop where
  sum : (vls.map BitVec.toNat).sum = avl.toNat
  antitone : vls.Pairwise fun a b => b.toNat ≤ a.toNat
  head : ∀ vl ∈ vls, vl.toNat ≤ exactNewVl avl.toNat vlmax

theorem Strips.nil : Strips vlmax (0#_ : Xlenbits) [] := by
  constructor
  · simp
  · exact List.Pairwise.nil
  · intro vl h
    cases h

/-- A step before the others. -/
theorem Strips.cons {avl : Xlenbits} {vls : List Xlenbits}
    (h : Strips vlmax (avl - calculateNewVl avl.toNat vlmax) vls) :
    Strips vlmax avl (calculateNewVl avl.toNat vlmax :: vls) := by
  have hbound (vl : Xlenbits) (hvl : vl ∈ vls) : vl.toNat ≤ exactNewVl avl.toNat vlmax := by
    refine le_trans (h.head vl hvl) ?_
    rw [toNat_rest]
    exact exactNewVl_rest_le _ _
  constructor
  · rw [List.map_cons, List.sum_cons, h.sum, toNat_rest, calculateNewVl_toNat]
    exact Nat.add_sub_of_le (exactNewVl_le _ _)
  · refine List.pairwise_cons.mpr ⟨fun vl hvl => ?_, h.antitone⟩
    rw [calculateNewVl_toNat]
    exact hbound vl hvl
  · intro vl hvl
    rcases List.mem_cons.mp hvl with rfl | hvl
    · exact (calculateNewVl_toNat avl vlmax).le
    · exact hbound vl hvl

/-- The loop ends after at most as many steps as there are elements. -/
theorem exists_strips (hmax : 1 ≤ vlmax) (avl : Xlenbits) :
    ∃ vls, Strips vlmax avl vls ∧ ∀ fuel ≥ avl.toNat, stripmine vlmax fuel avl = some vls := by
  induction hn : avl.toNat using Nat.strong_induction_on generalizing avl with
  | _ n ih =>
      by_cases hzero : avl = 0#_
      · subst hzero
        refine ⟨[], Strips.nil, fun fuel _ => ?_⟩
        cases fuel <;> exact if_pos rfl
      have hpos : 0 < avl.toNat := by
        refine Nat.pos_of_ne_zero fun h0 => hzero ?_
        exact BitVec.eq_of_toNat_eq (by rw [h0]; simp)
      have hrest := toNat_rest avl vlmax
      have hvl := exactNewVl_pos hmax hpos
      obtain ⟨vls, hstrips, hrun⟩ := ih _ (by omega) (avl - calculateNewVl avl.toNat vlmax) rfl
      refine ⟨calculateNewVl avl.toNat vlmax :: vls, hstrips.cons, fun fuel hfuel => ?_⟩
      obtain ⟨k, rfl⟩ : ∃ k, fuel = k + 1 := ⟨fuel - 1, by omega⟩
      rw [stripmine, if_neg hzero]
      exact congrArg (Option.map _) (hrun k (by omega))

/-- **Stripmining.**  What `calculate_new_vl` returns, and the loop over it. -/
theorem stripmining (hmax : 1 ≤ vlmax) (avl : Xlenbits) :
    (avl.toNat ≤ vlmax → (calculateNewVl avl.toNat vlmax).toNat = avl.toNat)
      ∧ (avl.toNat < 2 * vlmax → (avl.toNat + 1) / 2 ≤ (calculateNewVl avl.toNat vlmax).toNat
        ∧ (calculateNewVl avl.toNat vlmax).toNat ≤ vlmax)
      ∧ (2 * vlmax ≤ avl.toNat → (calculateNewVl avl.toNat vlmax).toNat = vlmax)
      ∧ ∃ vls, (∀ fuel ≥ avl.toNat, stripmine vlmax fuel avl = some vls)
        ∧ (vls.map BitVec.toNat).sum = avl.toNat
        ∧ vls.Pairwise fun a b => b.toNat ≤ a.toNat := by
  rw [calculateNewVl_toNat]
  refine ⟨fun hall => if_pos hall, fun hhalf => ⟨?_, exactNewVl_le_vlmax _ _⟩, fun hmore => ?_, ?_⟩
  · unfold exactNewVl
    split
    · omega
    · exact le_rfl
  · unfold exactNewVl
    rw [if_neg (by omega), if_neg (by omega)]
  · obtain ⟨vls, hstrips, hrun⟩ := exists_strips hmax avl
    exact ⟨vls, hrun, hstrips.sum, hstrips.antitone⟩

omit [Platform] in
/-- Eleven elements in steps of at most four: four, four, three. -/
theorem stripmining_eleven :
    letI := rv64Pmp 16 (by decide)
    ∃ vls : List Xlenbits, stripmine 4 11 11#_ = some vls ∧ (vls.map BitVec.toNat).sum = 11 := by
  let := rv64Pmp 16 (by decide)
  obtain ⟨-, -, -, vls, hrun, hsum, -⟩ := stripmining (show 1 ≤ 4 by decide) (11#_ : Xlenbits)
  exact ⟨vls, hrun 11 (by decide), hsum⟩

end SailRiscv
