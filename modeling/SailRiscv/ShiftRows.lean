/-
# ShiftRows

The permutation of the bytes of an AES state, once for each half of the state, as the instructions
of RV64 need it, and once for the whole state, column by column.
-/
import SailRiscv.Insts.Kext
import SailRiscv.Lib.Lanes

namespace SailRiscv

open Bits

/-! ## The functions over the whole state -/

/-- `aes_get_column`. -/
def aesGetColumn (state : BitVec 128) (c : ℕ) : BitVec 32 :=
  bits (state >>> BitVec.ofNat 7 (32 * c)) 0 32

/-- `aes_shift_rows_fwd`. -/
def aesShiftRowsFwd (x : BitVec 128) : BitVec 128 :=
  let ic3 := aesGetColumn x 3
  let ic2 := aesGetColumn x 2
  let ic1 := aesGetColumn x 1
  let ic0 := aesGetColumn x 0
  let oc0 : BitVec 32 := bits ic0 24 8 ++ bits ic1 16 8 ++ bits ic2 8 8 ++ bits ic3 0 8
  let oc1 : BitVec 32 := bits ic1 24 8 ++ bits ic2 16 8 ++ bits ic3 8 8 ++ bits ic0 0 8
  let oc2 : BitVec 32 := bits ic2 24 8 ++ bits ic3 16 8 ++ bits ic0 8 8 ++ bits ic1 0 8
  let oc3 : BitVec 32 := bits ic3 24 8 ++ bits ic0 16 8 ++ bits ic1 8 8 ++ bits ic2 0 8
  oc3 ++ oc2 ++ oc1 ++ oc0

/-- `aes_shift_rows_inv`. -/
def aesShiftRowsInv (x : BitVec 128) : BitVec 128 :=
  let ic3 := aesGetColumn x 3
  let ic2 := aesGetColumn x 2
  let ic1 := aesGetColumn x 1
  let ic0 := aesGetColumn x 0
  let oc0 : BitVec 32 := bits ic0 24 8 ++ bits ic3 16 8 ++ bits ic2 8 8 ++ bits ic1 0 8
  let oc1 : BitVec 32 := bits ic1 24 8 ++ bits ic0 16 8 ++ bits ic3 8 8 ++ bits ic2 0 8
  let oc2 : BitVec 32 := bits ic2 24 8 ++ bits ic1 16 8 ++ bits ic0 8 8 ++ bits ic3 0 8
  let oc3 : BitVec 32 := bits ic3 24 8 ++ bits ic2 16 8 ++ bits ic1 8 8 ++ bits ic0 0 8
  oc3 ++ oc2 ++ oc1 ++ oc0

/-! ## Bytes and columns -/

/-- A range at a place that is given as a shift amount. -/
theorem bits_shift {n m k l : ℕ} (v : BitVec n) (hk : k < 2 ^ m) :
    bits (v >>> BitVec.ofNat m k) 0 l = v.extractLsb' k l := by
  apply BitVec.eq_of_getLsbD_eq
  intro i hi
  unfold bits
  rw [BitVec.getLsbD_extractLsb', BitVec.getLsbD_extractLsb', BitVec.ushiftRight_eq',
    BitVec.getLsbD_ushiftRight, BitVec.toNat_ofNat, Nat.mod_eq_of_lt hk, Nat.zero_add]

/-- `getbyte` reads a lane. -/
theorem getbyte_eq_lane (x : BitVec 64) {i : ℕ} (hi : i < 8) : getbyte x i = lane 8 x i := by
  unfold getbyte lane
  rw [bits_shift x (show i * 8 < 2 ^ 6 by omega), Nat.mul_comm]

/-- `aes_get_column` reads a lane. -/
theorem aesGetColumn_eq_lane (x : BitVec 128) {c : ℕ} (hc : c < 4) :
    aesGetColumn x c = lane 32 x c := by
  unfold aesGetColumn lane
  rw [bits_shift x (show 32 * c < 2 ^ 7 by omega)]

/-- The bytes of a state that is given by its halves. -/
theorem lane_halves (hi lo : BitVec 64) (i : ℕ) :
    lane 8 (hi ++ lo) i = if i < 8 then lane 8 lo i else lane 8 hi (i - 8) := by
  by_cases h : i < 8
  · rw [if_pos h, lane_append_of_lt hi lo (by omega)]
  · rw [if_neg h, lane_append_of_le hi lo (p := 8) rfl (by omega)]

/-! ## Where the bytes come from -/

/-- The byte that `ShiftRows` moves to place `i`: row `r` moves left by `r` columns. -/
def rowsFwd (i : ℕ) : ℕ := 4 * ((i / 4 + i % 4) % 4) + i % 4

/-- The byte that the inverse of `ShiftRows` moves to place `i`. -/
def rowsInv (i : ℕ) : ℕ := 4 * ((i / 4 + 4 - i % 4) % 4) + i % 4

/-- The byte that `aes_shift_rows_fwd` moves to place `i`: its rows start at the top of a
column. -/
def flippedFwd (i : ℕ) : ℕ := 4 * ((i / 4 + 3 - i % 4) % 4) + i % 4

/-- The byte that `aes_shift_rows_inv` moves to place `i`. -/
def flippedInv (i : ℕ) : ℕ := 4 * ((i / 4 + 1 + i % 4) % 4) + i % 4

/-- A column whose byte `r` is taken from column `src` of that place. -/
def pickColumn (x : BitVec 128) (src : ℕ → ℕ) (c : ℕ) : BitVec 32 :=
  bits (aesGetColumn x (src (4 * c + 3))) 24 8 ++ bits (aesGetColumn x (src (4 * c + 2))) 16 8
    ++ bits (aesGetColumn x (src (4 * c + 1))) 8 8 ++ bits (aesGetColumn x (src (4 * c))) 0 8

/-- A state that is put together from bytes of the columns of another. -/
theorem lane_pickColumn (x : BitVec 128) (src : ℕ → ℕ) (hsrc : ∀ i, src i < 4) {i : ℕ}
    (hi : i < 16) :
    lane 8 (pickColumn x src 3 ++ pickColumn x src 2 ++ pickColumn x src 1 ++ pickColumn x src 0) i
      = lane 8 x (4 * src i + i % 4) := by
  have hr : i % 4 < 4 := Nat.mod_lt i (by omega)
  have hbyte : lane 8 (pickColumn x src (i / 4)) (i % 4)
      = lane 8 (aesGetColumn x (src (4 * (i / 4) + i % 4))) (i % 4) :=
    lane_four (fun r => lane 8 (aesGetColumn x (src (4 * (i / 4) + r))) r) hr
  rw [Nat.div_add_mod] at hbyte
  calc lane 8 (pickColumn x src 3 ++ pickColumn x src 2 ++ pickColumn x src 1
        ++ pickColumn x src 0) i
      = lane 8 (lane 32 (pickColumn x src 3 ++ pickColumn x src 2 ++ pickColumn x src 1
          ++ pickColumn x src 0) (i / 4)) (i % 4) := by
        rw [lane_lane _ (show 32 = 8 * 4 by omega) hr, Nat.div_add_mod]
    _ = lane 8 (aesGetColumn x (src i)) (i % 4) := by
        rw [lane_four (pickColumn x src) (by omega), hbyte]
    _ = lane 8 x (4 * src i + i % 4) := by
        rw [aesGetColumn_eq_lane x (hsrc i), lane_lane x (show 32 = 8 * 4 by omega) hr]

/-- The bytes of `aes_shift_rows_fwd`. -/
theorem lane_aesShiftRowsFwd (x : BitVec 128) {i : ℕ} (hi : i < 16) :
    lane 8 (aesShiftRowsFwd x) i = lane 8 x (flippedFwd i) := by
  refine Eq.trans ?_ (lane_pickColumn x (fun i => (i / 4 + 3 - i % 4) % 4)
    (fun _ => Nat.mod_lt _ (by omega)) hi)
  simp only [aesShiftRowsFwd, pickColumn, Nat.reduceMul, Nat.reduceAdd, Nat.reduceDiv,
    Nat.reduceMod, Nat.reduceSub]

/-- The bytes of `aes_shift_rows_inv`. -/
theorem lane_aesShiftRowsInv (x : BitVec 128) {i : ℕ} (hi : i < 16) :
    lane 8 (aesShiftRowsInv x) i = lane 8 x (flippedInv i) := by
  refine Eq.trans ?_ (lane_pickColumn x (fun i => (i / 4 + 1 + i % 4) % 4)
    (fun _ => Nat.mod_lt _ (by omega)) hi)
  simp only [aesShiftRowsInv, pickColumn, Nat.reduceMul, Nat.reduceAdd, Nat.reduceDiv,
    Nat.reduceMod]

/-- A half that is put together from bytes of the two halves of a state. -/
theorem lane_half (hi lo : BitVec 64) (src : ℕ → ℕ) (hsrc : ∀ i, src i < 16) {i : ℕ}
    (hlt : i < 8) :
    let b (i : ℕ) : BitVec 8 :=
      if src i < 8 then getbyte lo (src i) else getbyte hi (src i - 8)
    lane 8 (b 7 ++ b 6 ++ b 5 ++ b 4 ++ b 3 ++ b 2 ++ b 1 ++ b 0 : BitVec 64) i
      = lane 8 (hi ++ lo) (src i) := by
  intro b
  refine (lane_eight b hlt).trans ?_
  rw [lane_halves]
  show (if src i < 8 then getbyte lo (src i) else getbyte hi (src i - 8)) = _
  have h16 := hsrc i
  by_cases h : src i < 8
  · rw [if_pos h, if_pos h, getbyte_eq_lane lo h]
  · rw [if_neg h, if_neg h, getbyte_eq_lane hi (by omega)]

/-- A permuted place is a place of the state. -/
theorem rowsFwd_lt (i : ℕ) : rowsFwd i < 16 := by
  unfold rowsFwd
  omega

/-- A permuted place is a place of the state. -/
theorem rowsInv_lt (i : ℕ) : rowsInv i < 16 := by
  unfold rowsInv
  omega

/-- The bytes of a half as `aes_rv64_shiftrows_fwd` computes it. -/
theorem lane_aesRv64ShiftrowsFwd (hi lo : BitVec 64) {i : ℕ} (hlt : i < 8) :
    lane 8 (aesRv64ShiftrowsFwd hi lo) i = lane 8 (hi ++ lo) (rowsFwd i) :=
  lane_half hi lo rowsFwd rowsFwd_lt hlt

/-- The bytes of a half as `aes_rv64_shiftrows_inv` computes it. -/
theorem lane_aesRv64ShiftrowsInv (hi lo : BitVec 64) {i : ℕ} (hlt : i < 8) :
    lane 8 (aesRv64ShiftrowsInv hi lo) i = lane 8 (hi ++ lo) (rowsInv i) :=
  lane_half hi lo rowsInv rowsInv_lt hlt

/-- The halves in the other order. -/
theorem lane_swap (hi lo : BitVec 64) {i : ℕ} (hlt : i < 16) :
    lane 8 (lo ++ hi) i = lane 8 (hi ++ lo) ((i + 8) % 16) := by
  rw [lane_halves, lane_halves]
  by_cases h : i < 8
  · rw [if_pos h, if_neg (by omega), show (i + 8) % 16 - 8 = i by omega]
  · rw [if_neg h, if_pos (by omega), show (i + 8) % 16 = i - 8 by omega]

/-- The bytes of a state whose halves are both computed from the two halves of another. -/
theorem lane_bothHalves (f : BitVec 64 → BitVec 64 → BitVec 64) (src : ℕ → ℕ)
    (hsrc : ∀ i, src i < 16) (hswap : ∀ i, 8 ≤ i → i < 16 → (src (i - 8) + 8) % 16 = src i)
    (hf : ∀ (hi lo : BitVec 64) {i : ℕ}, i < 8 → lane 8 (f hi lo) i = lane 8 (hi ++ lo) (src i))
    (hi lo : BitVec 64) {i : ℕ} (hlt : i < 16) :
    lane 8 (f lo hi ++ f hi lo) i = lane 8 (hi ++ lo) (src i) := by
  rw [lane_halves]
  by_cases h : i < 8
  · rw [if_pos h, hf hi lo h]
  · rw [if_neg h, hf lo hi (by omega), lane_swap hi lo (hsrc _), hswap i (by omega) hlt]

/-- The bytes of the state whose halves `aes_rv64_shiftrows_fwd` computes. -/
theorem lane_bothHalvesFwd (hi lo : BitVec 64) {i : ℕ} (hlt : i < 16) :
    lane 8 (aesRv64ShiftrowsFwd lo hi ++ aesRv64ShiftrowsFwd hi lo) i
      = lane 8 (hi ++ lo) (rowsFwd i) := by
  refine lane_bothHalves aesRv64ShiftrowsFwd rowsFwd rowsFwd_lt ?_ lane_aesRv64ShiftrowsFwd hi lo hlt
  intro i h8 h16
  unfold rowsFwd
  omega

/-- The bytes of the state whose halves `aes_rv64_shiftrows_inv` computes. -/
theorem lane_bothHalvesInv (hi lo : BitVec 64) {i : ℕ} (hlt : i < 16) :
    lane 8 (aesRv64ShiftrowsInv lo hi ++ aesRv64ShiftrowsInv hi lo) i
      = lane 8 (hi ++ lo) (rowsInv i) := by
  refine lane_bothHalves aesRv64ShiftrowsInv rowsInv rowsInv_lt ?_ lane_aesRv64ShiftrowsInv hi lo hlt
  intro i h8 h16
  unfold rowsInv
  omega

/-! ## Forward and inverse -/

/-- On the whole state the two directions are inverse to each other. -/
theorem aesShiftRowsInv_fwd (x : BitVec 128) : aesShiftRowsInv (aesShiftRowsFwd x) = x := by
  refine eq_of_lane_eq (show 128 ≤ 8 * 16 by omega) ?_
  intro i hlt
  have hplace : flippedFwd (flippedInv i) = i := by
    unfold flippedFwd flippedInv
    omega
  rw [lane_aesShiftRowsInv _ hlt, lane_aesShiftRowsFwd _ (by unfold flippedInv; omega), hplace]

/-- On the whole state the two directions are inverse to each other. -/
theorem aesShiftRowsFwd_inv (x : BitVec 128) : aesShiftRowsFwd (aesShiftRowsInv x) = x := by
  refine eq_of_lane_eq (show 128 ≤ 8 * 16 by omega) ?_
  intro i hlt
  have hplace : flippedInv (flippedFwd i) = i := by
    unfold flippedFwd flippedInv
    omega
  rw [lane_aesShiftRowsFwd _ hlt, lane_aesShiftRowsInv _ (by unfold flippedFwd; omega), hplace]

/-- On the halves the inverse direction undoes the forward one. -/
theorem aesRv64ShiftrowsInv_fwd (hi lo : BitVec 64) :
    aesRv64ShiftrowsInv (aesRv64ShiftrowsFwd lo hi) (aesRv64ShiftrowsFwd hi lo) = lo := by
  refine eq_of_lane_eq (show 64 ≤ 8 * 8 by omega) ?_
  intro i hlt
  have hplace : rowsFwd (rowsInv i) = i := by
    unfold rowsFwd rowsInv
    omega
  rw [lane_aesRv64ShiftrowsInv _ _ hlt, lane_bothHalvesFwd hi lo (rowsInv_lt i), hplace,
    lane_halves, if_pos hlt]

/-- On the halves the forward direction undoes the inverse one. -/
theorem aesRv64ShiftrowsFwd_inv (hi lo : BitVec 64) :
    aesRv64ShiftrowsFwd (aesRv64ShiftrowsInv lo hi) (aesRv64ShiftrowsInv hi lo) = lo := by
  refine eq_of_lane_eq (show 64 ≤ 8 * 8 by omega) ?_
  intro i hlt
  have hplace : rowsInv (rowsFwd i) = i := by
    unfold rowsFwd rowsInv
    omega
  rw [lane_aesRv64ShiftrowsFwd _ _ hlt, lane_bothHalvesInv hi lo (rowsFwd_lt i), hplace,
    lane_halves, if_pos hlt]

/-! ## The two implementations -/

/-- The four columns of a state are the same. -/
def ColumnsEqual (x : BitVec 128) : Prop := ∀ c < 4, aesGetColumn x c = aesGetColumn x 0

/-- The columns of a state are the same when no byte differs from the one four places on. -/
theorem columnsEqual_iff (x : BitVec 128) :
    ColumnsEqual x ↔ ∀ i < 16, ∀ j < 16, i % 4 = j % 4 → lane 8 x i = lane 8 x j := by
  have hbyte (c r : ℕ) (hc : c < 4) (hr : r < 4) :
      lane 8 (aesGetColumn x c) r = lane 8 x (4 * c + r) := by
    rw [aesGetColumn_eq_lane x hc, lane_lane x (show 32 = 8 * 4 by omega) hr]
  constructor
  · intro heq i hi j hj hmod
    have hfirst (k : ℕ) (hk : k < 16) : lane 8 x k = lane 8 x (k % 4) := by
      have h : lane 8 (aesGetColumn x (k / 4)) (k % 4) = lane 8 (aesGetColumn x 0) (k % 4) := by
        rw [heq (k / 4) (by omega)]
      rwa [hbyte _ _ (by omega) (by omega), hbyte _ _ (by omega) (by omega), Nat.div_add_mod,
        Nat.mul_zero, Nat.zero_add] at h
    rw [hfirst i hi, hfirst j hj, hmod]
  · intro h c hc
    refine eq_of_lane_eq (show 32 ≤ 8 * 4 by omega) ?_
    intro r hr
    rw [hbyte c r hc hr, hbyte 0 r (by omega) hr]
    exact h _ (by omega) _ (by omega) (by omega)

/-- A state whose bytes do not change from a column to the next has equal columns. -/
theorem columnsEqual_of_next (x : BitVec 128)
    (h : ∀ i < 16, lane 8 x ((i + 4) % 16) = lane 8 x i) : ColumnsEqual x := by
  have hfirst (r : ℕ) (hr : r < 4) : ∀ c < 4, lane 8 x (4 * c + r) = lane 8 x r := by
    intro c
    induction c with
    | zero =>
      intro _
      rw [Nat.mul_zero, Nat.zero_add]
    | succ c ih =>
      intro hc
      rw [← ih (by omega), ← h (4 * c + r) (by omega)]
      congr 1
      omega
  rw [columnsEqual_iff]
  intro i hi j hj hmod
  rw [← Nat.div_add_mod i 4, ← Nat.div_add_mod j 4, hfirst _ (by omega) _ (by omega),
    hfirst _ (by omega) _ (by omega), hmod]

/-- Two permutations that move the rows by one column against each other, each row in the
direction `d`, agree on a state just when its columns are the same. -/
theorem permuted_eq_iff (x y z : BitVec 128) (p q d : ℕ → ℕ)
    (hy : ∀ i < 16, lane 8 y i = lane 8 x (p i)) (hz : ∀ i < 16, lane 8 z i = lane 8 x (q i))
    (hp : ∀ i, p i < 16 ∧ p i % 4 = i % 4) (hq : ∀ i, q i < 16 ∧ q i % 4 = i % 4)
    (hd : ∀ r, d r = 4 ∨ d r = 12)
    (hmove : ∀ i < 16, ∃ j < 16, q j = i ∧ p j = (i + d (i % 4)) % 16) :
    y = z ↔ ColumnsEqual x := by
  constructor
  · intro h
    have hnext (i : ℕ) (hi : i < 16) : lane 8 x ((i + d (i % 4)) % 16) = lane 8 x i := by
      obtain ⟨j, hj, hqj, hpj⟩ := hmove i hi
      rw [← hpj, ← hy j hj, h, hz j hj, hqj]
    apply columnsEqual_of_next
    intro i hi
    have hrow : (i + 4) % 16 % 4 = i % 4 := by omega
    rcases hd (i % 4) with h4 | h12
    · have hone := hnext i hi
      rwa [h4] at hone
    · have hone := hnext ((i + 4) % 16) (by omega)
      rw [hrow, h12, show ((i + 4) % 16 + 12) % 16 = i by omega] at hone
      exact hone.symm
  · intro h
    rw [columnsEqual_iff] at h
    refine eq_of_lane_eq (show 128 ≤ 8 * 16 by omega) ?_
    intro i hi
    rw [hy i hi, hz i hi]
    exact h _ (hp i).1 _ (hq i).1 ((hp i).2.trans (hq i).2.symm)

/-- The two forward implementations agree just on the states whose columns are the same. -/
theorem aesShiftRowsFwd_eq_iff (hi lo : BitVec 64) :
    aesShiftRowsFwd (hi ++ lo) = aesRv64ShiftrowsFwd lo hi ++ aesRv64ShiftrowsFwd hi lo
      ↔ ColumnsEqual (hi ++ lo) := by
  refine permuted_eq_iff _ _ _ flippedFwd rowsFwd (fun r => 4 + 8 * ((r + 1) % 2))
    (fun i => lane_aesShiftRowsFwd _) (fun i => lane_bothHalvesFwd hi lo) ?_ ?_ ?_ ?_
  · intro i
    unfold flippedFwd
    omega
  · intro i
    unfold rowsFwd
    omega
  · intro r
    show 4 + 8 * ((r + 1) % 2) = 4 ∨ 4 + 8 * ((r + 1) % 2) = 12
    omega
  · intro i hlt
    refine ⟨rowsInv i, rowsInv_lt i, ?_, ?_⟩
    · unfold rowsFwd rowsInv
      omega
    · unfold flippedFwd rowsInv
      omega

/-- The two inverse implementations agree just on the states whose columns are the same. -/
theorem aesShiftRowsInv_eq_iff (hi lo : BitVec 64) :
    aesShiftRowsInv (hi ++ lo) = aesRv64ShiftrowsInv lo hi ++ aesRv64ShiftrowsInv hi lo
      ↔ ColumnsEqual (hi ++ lo) := by
  refine permuted_eq_iff _ _ _ flippedInv rowsInv (fun r => 4 + 8 * (r % 2))
    (fun i => lane_aesShiftRowsInv _) (fun i => lane_bothHalvesInv hi lo) ?_ ?_ ?_ ?_
  · intro i
    unfold flippedInv
    omega
  · intro i
    unfold rowsInv
    omega
  · intro r
    show 4 + 8 * (r % 2) = 4 ∨ 4 + 8 * (r % 2) = 12
    omega
  · intro i hlt
    refine ⟨rowsFwd i, rowsFwd_lt i, ?_, ?_⟩
    · unfold rowsInv rowsFwd
      omega
    · unfold flippedInv rowsFwd
      omega

/-- What the two implementations of `ShiftRows` are to do on a state: agree in each direction, and
invert each other. -/
def ShiftRowsAgree (hi lo : BitVec 64) : Prop :=
  aesShiftRowsFwd (hi ++ lo) = aesRv64ShiftrowsFwd lo hi ++ aesRv64ShiftrowsFwd hi lo
  ∧ aesShiftRowsInv (hi ++ lo) = aesRv64ShiftrowsInv lo hi ++ aesRv64ShiftrowsInv hi lo
  ∧ aesShiftRowsInv (aesShiftRowsFwd (hi ++ lo)) = hi ++ lo
  ∧ aesShiftRowsFwd (aesShiftRowsInv (hi ++ lo)) = hi ++ lo
  ∧ aesRv64ShiftrowsInv (aesRv64ShiftrowsFwd lo hi) (aesRv64ShiftrowsFwd hi lo) = lo
  ∧ aesRv64ShiftrowsInv (aesRv64ShiftrowsFwd hi lo) (aesRv64ShiftrowsFwd lo hi) = hi
  ∧ aesRv64ShiftrowsFwd (aesRv64ShiftrowsInv lo hi) (aesRv64ShiftrowsInv hi lo) = lo
  ∧ aesRv64ShiftrowsFwd (aesRv64ShiftrowsInv hi lo) (aesRv64ShiftrowsInv lo hi) = hi

/-- **The two implementations of `ShiftRows` agree just on the states whose four columns are the
same**: the one for the whole state counts the rows of a column from its top byte, the one for the
halves from byte 0. -/
theorem shiftRowsAgree_iff (hi lo : BitVec 64) :
    ShiftRowsAgree hi lo ↔ ColumnsEqual (hi ++ lo) := by
  constructor
  · rintro ⟨hfwd, -⟩
    exact (aesShiftRowsFwd_eq_iff hi lo).mp hfwd
  · intro h
    exact ⟨(aesShiftRowsFwd_eq_iff hi lo).mpr h, (aesShiftRowsInv_eq_iff hi lo).mpr h,
      aesShiftRowsInv_fwd _, aesShiftRowsFwd_inv _, aesRv64ShiftrowsInv_fwd hi lo,
      aesRv64ShiftrowsInv_fwd lo hi, aesRv64ShiftrowsFwd_inv hi lo, aesRv64ShiftrowsFwd_inv lo hi⟩

/-- The state whose byte 0 is one: the halves keep it in its place, the whole state does not. -/
theorem shiftRows_disagree : ¬ ∀ hi lo : BitVec 64, ShiftRowsAgree hi lo := by
  intro h
  obtain ⟨hfwd, -⟩ := h 0#64 1#64
  exact absurd hfwd (by decide)

end SailRiscv
