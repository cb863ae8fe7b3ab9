/-
# What a configuration-setting instruction leaves behind

`vsetvli`, `vsetivli` and `vsetvl` either configure the vector unit as requested or mark the
configuration as illegal, with `rd` and `vstart` to match (`VsetContract`).  The reserved
encodings fail an assertion, the path for an illegal configuration returns before `rd` and
`vstart` are written, and bits of the request other than the two fields are not examined;
`vsetContract_iff` says for which instructions and states the contract is met.
-/
import SailRiscv.Insts.VextVset

namespace SailRiscv

open Bits Platform

variable [Platform]

/-! ## Requests -/

namespace VsetInst

/-- The destination register. -/
def rd : VsetInst → Regidx
  | .VSETVLI _ _ _ _ _ rd | .VSETVL _ _ rd | .VSETIVLI _ _ _ _ _ rd => rd

/-- The requested `vtype`. -/
def request (s : State) : VsetInst → Xlenbits
  | .VSETVLI ma ta sew lmul _ _ | .VSETIVLI ma ta sew lmul _ _ => vtypeImm ma ta sew lmul
  | .VSETVL rs2 _ _ => s.X rs2

/-- The form that keeps `vl`. -/
def KeepsVl : VsetInst → Prop
  | .VSETVLI _ _ _ _ rs1 rd | .VSETVL _ rs1 rd => rs1 = 0b00000#5 ∧ rd = 0b00000#5
  | .VSETIVLI .. => False

/-- The form that compares the new configuration with the old one. -/
def ReadsVtype : VsetInst → Prop
  | .VSETVLI .. | .VSETVL .. => True
  | .VSETIVLI .. => False

/-- The new `vl` for a request that is accepted. -/
def newVl (s : State) (vlmax : ℕ) : VsetInst → Xlenbits
  | .VSETVLI _ _ _ _ rs1 rd | .VSETVL _ rs1 rd =>
      if rs1 ≠ 0b00000#5 then calculateNewVl (s.X rs1).toNat vlmax
      else if rd ≠ 0b00000#5 then BitVec.ofNat xlen vlmax
      else s.vl
  | .VSETIVLI _ _ _ _ uimm _ => calculateNewVl uimm.toNat vlmax

/-- The instruction asks for no elements. -/
def AsksForNone (s : State) : VsetInst → Prop
  | .VSETVLI _ _ _ _ rs1 rd | .VSETVL _ rs1 rd =>
      (rs1 ≠ 0b00000#5 ∧ s.X rs1 = 0#_)
        ∨ (rs1 = 0b00000#5 ∧ rd = 0b00000#5 ∧ s.vl = 0#_)
  | .VSETIVLI _ _ _ _ uimm _ => uimm = 0#5

end VsetInst

/-- The encodings that an instruction depends on are not reserved: `sew` and `lmul` are the
exponents of the request, and `ratio` is the difference of the exponents before. -/
structure VsetFields (s : State) (i : VsetInst) (sew : ℕ) (lmul ratio : ℤ) : Prop where
  sew_eq : sewPow (Vtype.vsew.get (i.request s)) = some sew
  lmul_eq : lmulPow (Vtype.vlmul.get (i.request s)) = some lmul
  ratio_eq : i.ReadsVtype → ∃ (sewOri : ℕ) (lmulOri : ℤ),
    sewPow (Vtype.vsew.get s.vtype) = some sewOri
      ∧ lmulPow (Vtype.vlmul.get s.vtype) = some lmulOri ∧ ratio = sewOri - lmulOri

/-- The instruction takes the path for an illegal configuration. -/
def Rejects (i : VsetInst) (sew : ℕ) (lmul ratio : ℤ) : Prop :=
  (sew : ℤ) > lmul + elenPow ∨ (i.KeepsVl ∧ sew - lmul ≠ ratio)

/-- The state after a request that is accepted. -/
def acceptState (s : State) (i : VsetInst) (sew : ℕ) (lmul : ℤ) : State :=
  let vl := i.newVl s (vlmaxOf lmul sew)
  { State.setX { s with
      vtype := i.request s
      vl := vl } i.rd vl with vstart := 0#16 }

/-- The state after a request that is not. -/
def rejectState (s : State) : State :=
  { s with
    vtype := villVtype
    vl := 0#_ }

/-! ## Runs -/

section Runs

variable {s : State}

/-- A run that reads the exponents of `vtype` completes only if they are not reserved. -/
theorem run_exponents {α : Type} {k : ℤ → ℕ → M α} {s' : State} {a : α} :
    (getLmulPow >>= fun l => getSewPow >>= k l).run s = .ok (a, s')
      ↔ ∃ (sew : ℕ) (lmul : ℤ), sewPow (Vtype.vsew.get s.vtype) = some sew
          ∧ lmulPow (Vtype.vlmul.get s.vtype) = some lmul ∧ (k lmul sew).run s = .ok (a, s') := by
  constructor
  · intro h
    obtain ⟨lmul, s₁, hl, h₁⟩ := Exec.run_bind_ok.mp h
    obtain ⟨sew, s₂, hs, h₂⟩ := Exec.run_bind_ok.mp h₁
    obtain ⟨hlmul, rfl⟩ := run_getLmulPow_ok.mp hl
    obtain ⟨hsew, rfl⟩ := run_getSewPow_ok.mp hs
    exact ⟨sew, lmul, hsew, hlmul, h₂⟩
  · rintro ⟨sew, lmul, hsew, hlmul, h⟩
    rw [Exec.run_bind_of_ok (run_getLmulPow_ok.mpr ⟨hlmul, rfl⟩),
      Exec.run_bind_of_ok (run_getSewPow_ok.mpr ⟨hsew, rfl⟩)]
    exact h

/-- A run that ends with a request that is not supported. -/
theorem ok_rejected {i : VsetInst} {sew : ℕ} {lmul ratio : ℤ} {m : M Retired} {s₁ s' : State}
    {r : Retired} (hrej : Rejects i sew lmul ratio)
    (hrun : m.run s₁ = .ok (.RETIRE_SUCCESS, rejectState s)) :
    m.run s₁ = .ok (r, s') ↔ r = .RETIRE_SUCCESS
      ∧ (Rejects i sew lmul ratio → s' = rejectState s)
      ∧ (¬ Rejects i sew lmul ratio → s' = acceptState s i sew lmul) := by
  rw [hrun]
  constructor
  · intro h
    cases h
    exact ⟨rfl, fun _ => rfl, fun hno => absurd hrej hno⟩
  · rintro ⟨rfl, h, -⟩
    rw [h hrej]

/-- A run that ends with a request that is accepted. -/
theorem ok_accepted {i : VsetInst} {sew : ℕ} {lmul ratio : ℤ} {m : M Retired} {s₁ s' : State}
    {r : Retired} (hacc : ¬ Rejects i sew lmul ratio)
    (hrun : m.run s₁ = .ok (.RETIRE_SUCCESS, acceptState s i sew lmul)) :
    m.run s₁ = .ok (r, s') ↔ r = .RETIRE_SUCCESS
      ∧ (Rejects i sew lmul ratio → s' = rejectState s)
      ∧ (¬ Rejects i sew lmul ratio → s' = acceptState s i sew lmul) := by
  rw [hrun]
  constructor
  · intro h
    cases h
    exact ⟨rfl, fun hyes => absurd hyes hacc, fun _ => rfl⟩
  · rintro ⟨rfl, -, h⟩
    rw [h hacc]

/-- A completed run of `vsetvli` or `vsetvl`. -/
theorem run_executeVset {i : VsetInst} {req : M Xlenbits} {rs1 : Regidx} {r : Retired}
    {s' : State} (hreq : req.run s = .ok (i.request s, s)) (hread : i.ReadsVtype)
    (hkeep : i.KeepsVl ↔ rs1 = 0b00000#5 ∧ i.rd = 0b00000#5)
    (hnew : ∀ vlmax, i.newVl s vlmax = if rs1 ≠ 0b00000#5 then calculateNewVl (s.X rs1).toNat vlmax
      else if i.rd ≠ 0b00000#5 then BitVec.ofNat xlen vlmax else s.vl) :
    (executeVset req rs1 i.rd).run s = .ok (r, s')
      ↔ ∃ sew lmul ratio, VsetFields s i sew lmul ratio ∧ r = .RETIRE_SUCCESS
          ∧ (Rejects i sew lmul ratio → s' = rejectState s)
          ∧ (¬ Rejects i sew lmul ratio → s' = acceptState s i sew lmul) := by
  have hend (sew : ℕ) (lmul ratio : ℤ) :
      (if (sew : ℤ) > lmul + elenPow then rejectVset
        else if rs1 ≠ 0b00000#5 then do
          let rs1Val ← rX rs1
          setVl i.rd (calculateNewVl rs1Val.toNat (vlmaxOf lmul sew))
          endVset
        else if i.rd ≠ 0b00000#5 then do
          setVl i.rd (BitVec.ofNat xlen (vlmaxOf lmul sew))
          endVset
        else if sew - lmul ≠ ratio then rejectVset
        else endVset : M Retired).run { s with vtype := i.request s } = .ok (r, s')
      ↔ r = .RETIRE_SUCCESS ∧ (Rejects i sew lmul ratio → s' = rejectState s)
          ∧ (¬ Rejects i sew lmul ratio → s' = acceptState s i sew lmul) := by
    by_cases hwide : (sew : ℤ) > lmul + elenPow
    · rw [if_pos hwide]
      exact ok_rejected (Or.inl hwide) rfl
    rw [if_neg hwide]
    by_cases hrs1 : rs1 ≠ 0b00000#5
    · have hno : ¬ Rejects i sew lmul ratio := by
        rintro (h | h)
        · exact hwide h
        · exact hrs1 (hkeep.mp h.1).1
      rw [if_pos hrs1]
      refine ok_accepted hno ?_
      unfold acceptState
      rw [hnew, if_pos hrs1]
      rfl
    rw [if_neg hrs1]
    by_cases hrd : i.rd ≠ 0b00000#5
    · have hno : ¬ Rejects i sew lmul ratio := by
        rintro (h | h)
        · exact hwide h
        · exact hrd (hkeep.mp h.1).2
      rw [if_pos hrd]
      refine ok_accepted hno ?_
      unfold acceptState
      rw [hnew, if_neg hrs1, if_pos hrd]
      rfl
    rw [if_neg hrd]
    have hkeeps : i.KeepsVl := hkeep.mpr ⟨not_not.mp hrs1, not_not.mp hrd⟩
    by_cases hratio : sew - lmul ≠ ratio
    · rw [if_pos hratio]
      exact ok_rejected (Or.inr ⟨hkeeps, hratio⟩) rfl
    · have hno : ¬ Rejects i sew lmul ratio := by
        rintro (h | h)
        · exact hwide h
        · exact hratio h.2
      rw [if_neg hratio]
      refine ok_accepted hno ?_
      have hset (s₁ : State) (v : Xlenbits) : s₁.setX i.rd v = s₁ := if_pos (not_not.mp hrd)
      unfold acceptState
      rw [hnew, if_neg hrs1, if_neg hrd]
      simp only [hset]
      rfl
  unfold executeVset
  rw [run_exponents]
  constructor
  · rintro ⟨sewOri, lmulOri, hsewOri, hlmulOri, h⟩
    rw [Exec.run_bind_of_ok hreq, Exec.run_bind_of_ok rfl, run_exponents] at h
    obtain ⟨sew, lmul, hsew, hlmul, h⟩ := h
    refine ⟨sew, lmul, _, ⟨hsew, hlmul, fun _ => ⟨_, _, hsewOri, hlmulOri, rfl⟩⟩, ?_⟩
    exact (hend sew lmul _).mp h
  · rintro ⟨sew, lmul, ratio, hf, h⟩
    obtain ⟨sewOri, lmulOri, hsewOri, hlmulOri, rfl⟩ := hf.ratio_eq hread
    refine ⟨sewOri, lmulOri, hsewOri, hlmulOri, ?_⟩
    rw [Exec.run_bind_of_ok hreq, Exec.run_bind_of_ok rfl, run_exponents]
    exact ⟨sew, lmul, hf.sew_eq, hf.lmul_eq, (hend sew lmul _).mpr h⟩

/-- A completed run of `vsetivli`. -/
theorem run_executeVsetivli {ma ta : BitVec 1} {sew₀ lmul₀ : BitVec 3} {uimm rd : Regidx}
    {r : Retired} {s' : State} :
    (executeVsetivli ma ta sew₀ lmul₀ uimm rd).run s = .ok (r, s')
      ↔ ∃ sew lmul ratio, VsetFields s (.VSETIVLI ma ta sew₀ lmul₀ uimm rd) sew lmul ratio
          ∧ r = .RETIRE_SUCCESS
          ∧ (Rejects (.VSETIVLI ma ta sew₀ lmul₀ uimm rd) sew lmul ratio → s' = rejectState s)
          ∧ (¬ Rejects (.VSETIVLI ma ta sew₀ lmul₀ uimm rd) sew lmul ratio →
              s' = acceptState s (.VSETIVLI ma ta sew₀ lmul₀ uimm rd) sew lmul) := by
  have hend (sew : ℕ) (lmul ratio : ℤ) :
      (if (sew : ℤ) > lmul + elenPow then rejectVset
        else do
          setVl rd (calculateNewVl uimm.toNat (vlmaxOf lmul sew))
          endVset : M Retired).run { s with vtype := vtypeImm ma ta sew₀ lmul₀ } = .ok (r, s')
      ↔ r = .RETIRE_SUCCESS
          ∧ (Rejects (.VSETIVLI ma ta sew₀ lmul₀ uimm rd) sew lmul ratio → s' = rejectState s)
          ∧ (¬ Rejects (.VSETIVLI ma ta sew₀ lmul₀ uimm rd) sew lmul ratio →
              s' = acceptState s (.VSETIVLI ma ta sew₀ lmul₀ uimm rd) sew lmul) := by
    by_cases hwide : (sew : ℤ) > lmul + elenPow
    · rw [if_pos hwide]
      exact ok_rejected (Or.inl hwide) rfl
    · rw [if_neg hwide]
      refine ok_accepted ?_ rfl
      rintro (h | h)
      · exact hwide h
      · exact h.1
  unfold executeVsetivli
  rw [Exec.run_bind_of_ok rfl, run_exponents]
  constructor
  · rintro ⟨sew, lmul, hsew, hlmul, h⟩
    exact ⟨sew, lmul, 0, ⟨hsew, hlmul, nofun⟩, (hend sew lmul 0).mp h⟩
  · rintro ⟨sew, lmul, ratio, hf, h⟩
    exact ⟨sew, lmul, hf.sew_eq, hf.lmul_eq, (hend sew lmul ratio).mpr h⟩

/-- **Runs of the configuration-setting instructions.** -/
theorem run_vset {i : VsetInst} {r : Retired} {s' : State} :
    i.execute.run s = .ok (r, s')
      ↔ ∃ sew lmul ratio, VsetFields s i sew lmul ratio ∧ r = .RETIRE_SUCCESS
          ∧ (Rejects i sew lmul ratio → s' = rejectState s)
          ∧ (¬ Rejects i sew lmul ratio → s' = acceptState s i sew lmul) := by
  cases i with
  | VSETVLI ma ta sew lmul rs1 rd =>
      exact run_executeVset (i := .VSETVLI ma ta sew lmul rs1 rd) rfl trivial Iff.rfl
        (fun _ => rfl)
  | VSETVL rs2 rs1 rd =>
      exact run_executeVset (i := .VSETVL rs2 rs1 rd) rfl trivial Iff.rfl (fun _ => rfl)
  | VSETIVLI => exact run_executeVsetivli

end Runs

/-! ## The contract -/

/-- `VLMAX = VLEN * LMUL / SEW`, for the exponents of `LMUL` and `SEW`. -/
def VLMAX (lmul : ℤ) (sew : ℕ) : ℚ := VLEN * 2 ^ lmul / 2 ^ sew

/-- The requested configuration is supported; `sew` and `lmul` are its exponents. -/
structure Supported (req : Xlenbits) (sew : ℕ) (lmul : ℤ) : Prop where
  sew_eq : sewPow (Vtype.vsew.get req) = some sew
  lmul_eq : lmulPow (Vtype.vlmul.get req) = some lmul
  sew_le : sew ≤ elenPow
  sew_le_lmul : (sew : ℤ) ≤ lmul + elenPow
  reserved_eq : Vtype.reserved.get req = 0#_
  vill_eq : Vtype.vill.get req = 0#1

/-- The vector unit is configured as requested. -/
def Configured (s : State) (i : VsetInst) (s' : State) : Prop :=
  ∃ sew lmul, Supported (i.request s) sew lmul ∧ s'.vtype = i.request s
    ∧ (s'.vl.toNat : ℚ) ≤ VLMAX lmul sew

/-- The configuration is marked as illegal. -/
def MarkedIllegal (s' : State) : Prop :=
  (∀ j, s'.vtype.getLsbD j = true ↔ j = xlen - 1) ∧ s'.vl = 0#_

/-- **The contract**: the execution completes, configures the vector unit as requested or
marks the configuration as illegal, writes `vl` to `rd`, and resets `vstart`. -/
def VsetContract (s : State) (i : VsetInst) : Prop :=
  ∃ r s', i.execute.run s = .ok (r, s') ∧ Xor (Configured s i s') (MarkedIllegal s')
    ∧ (i.rd ≠ 0b00000#5 → s'.X i.rd = s'.vl) ∧ s'.vstart = 0#16

/-- The condition under which the contract is met.  None of the encodings is reserved; when
the configuration is rejected, `rd` and `vstart` are zero already; and a request that is not
rejected is for a supported configuration in which an unchanged `vl` fits, or it asks for the
illegal configuration and for no elements. -/
def VsetSound (s : State) (i : VsetInst) : Prop :=
  ∃ sew lmul ratio, VsetFields s i sew lmul ratio
    ∧ (Rejects i sew lmul ratio → s.vstart = 0#16 ∧ s.X i.rd = 0#_)
    ∧ (¬ Rejects i sew lmul ratio →
        (Supported (i.request s) sew lmul ∧ (i.KeepsVl → (s.vl.toNat : ℚ) ≤ VLMAX lmul sew))
          ∨ (i.request s = villVtype ∧ i.AsksForNone s))

section Contract

variable {s : State} {i : VsetInst} {sew : ℕ} {lmul ratio : ℤ}

/-- The number that the code computes for `VLMAX`. -/
theorem vlmaxOf_eq (hvlen : elenPow ≤ vlenPow) (h : (sew : ℤ) ≤ lmul + elenPow) :
    (vlmaxOf lmul sew : ℚ) = VLMAX lmul sew := by
  have hk : ((vlenPow + lmul - sew : ℤ).toNat : ℤ) = vlenPow + lmul - sew := by omega
  unfold vlmaxOf VLMAX VLEN
  push_cast
  rw [← zpow_natCast (2 : ℚ) ((vlenPow + lmul - sew : ℤ).toNat), hk,
    zpow_sub₀ two_ne_zero, zpow_add₀ two_ne_zero, zpow_natCast, zpow_natCast]

/-- The bits of the illegal configuration. -/
theorem getLsbD_villVtype (j : ℕ) : villVtype.getLsbD j = true ↔ j = xlen - 1 := by
  have hx := xlen_ge
  unfold villVtype
  rw [BitVec.getLsbD_setWidth, BitVec.getLsbD_append, BitVec.getLsbD_zero]
  by_cases hj : j < xlen - 1
  · rw [if_pos hj]
    simp
    omega
  · rw [if_neg hj, BitVec.getLsbD_one]
    simp
    omega

/-- The illegal configuration is the only vector with its bits. -/
theorem eq_villVtype {v : Xlenbits} (h : ∀ j, v.getLsbD j = true ↔ j = xlen - 1) :
    v = villVtype := by
  apply BitVec.eq_of_getLsbD_eq
  intro j _
  exact Bool.eq_iff_iff.mpr ((h j).trans (getLsbD_villVtype j).symm)

/-- The new `vl` is at most `VLMAX`. -/
theorem calculateNewVl_le (avl vlmax : ℕ) : (calculateNewVl avl vlmax).toNat ≤ vlmax := by
  unfold calculateNewVl
  split_ifs with h₁ h₂
  · rw [BitVec.toNat_ofNat]
    exact (Nat.mod_le _ _).trans h₁
  · rw [BitVec.toNat_ofNat]
    exact (Nat.mod_le _ _).trans (by omega)
  · rw [BitVec.toNat_ofNat]
    exact Nat.mod_le _ _

/-- `VLMAX` is positive and fits in a register. -/
theorem vlmaxOf_bounds (hl : lmulPow (Vtype.vlmul.get (i.request s)) = some lmul)
    (hs : sewPow (Vtype.vsew.get (i.request s)) = some sew) :
    0 < vlmaxOf lmul sew ∧ vlmaxOf lmul sew < 2 ^ xlen := by
  have hx := xlen_ge
  have hv : vlenPow ≤ 16 := sysVectorVlenExp_mem.2
  have hlb := lmulPow_bounds hl
  have hsb := sewPow_bounds hs
  unfold vlmaxOf
  exact ⟨Nat.two_pow_pos _, Nat.pow_lt_pow_right (by decide) (by omega)⟩

/-- The new `vl` is zero only if no elements are asked for. -/
theorem calculateNewVl_eq_zero {avl vlmax : ℕ} (hpos : 0 < vlmax) (hlt : vlmax < 2 ^ xlen) :
    calculateNewVl avl vlmax = 0#_ ↔ avl = 0 := by
  have hzero (n : ℕ) (hn : n < 2 ^ xlen) : BitVec.ofNat xlen n = 0#_ ↔ n = 0 := by
    rw [← BitVec.toNat_inj, BitVec.toNat_ofNat, BitVec.toNat_ofNat, Nat.mod_eq_of_lt hn,
      Nat.zero_mod]
  unfold calculateNewVl
  split_ifs with h₁ h₂
  · exact hzero avl (by omega)
  · rw [hzero _ (by omega)]
    omega
  · rw [hzero _ hlt]
    omega

/-- The new `vl` is zero only if no elements are asked for. -/
theorem newVl_eq_zero (hl : lmulPow (Vtype.vlmul.get (i.request s)) = some lmul)
    (hs : sewPow (Vtype.vsew.get (i.request s)) = some sew) :
    i.newVl s (vlmaxOf lmul sew) = 0#_ ↔ i.AsksForNone s := by
  obtain ⟨hpos, hlt⟩ := vlmaxOf_bounds hl hs
  have hmax : BitVec.ofNat xlen (vlmaxOf lmul sew) ≠ 0#_ := by
    intro h
    have hnat := congrArg BitVec.toNat h
    rw [BitVec.toNat_ofNat, BitVec.toNat_ofNat, Nat.mod_eq_of_lt hlt, Nat.zero_mod] at hnat
    omega
  have hvset (rs1 rd : Regidx) :
      (if rs1 ≠ 0b00000#5 then calculateNewVl (s.X rs1).toNat (vlmaxOf lmul sew)
        else if rd ≠ 0b00000#5 then BitVec.ofNat xlen (vlmaxOf lmul sew) else s.vl) = 0#_
      ↔ (rs1 ≠ 0b00000#5 ∧ s.X rs1 = 0#_)
          ∨ (rs1 = 0b00000#5 ∧ rd = 0b00000#5 ∧ s.vl = 0#_) := by
    have hX : (s.X rs1).toNat = 0 ↔ s.X rs1 = 0#_ := by
      rw [← BitVec.toNat_inj, BitVec.toNat_ofNat, Nat.zero_mod]
    by_cases hrs1 : rs1 = 0b00000#5
    · by_cases hrd : rd = 0b00000#5
      · rw [if_neg (not_not.mpr hrs1), if_neg (not_not.mpr hrd)]
        tauto
      · rw [if_neg (not_not.mpr hrs1), if_pos hrd]
        tauto
    · rw [if_pos hrs1, calculateNewVl_eq_zero hpos hlt, hX]
      tauto
  cases i with
  | VSETVLI ma ta sew' lmul' rs1 rd => exact hvset rs1 rd
  | VSETVL rs2 rs1 rd => exact hvset rs1 rd
  | VSETIVLI ma ta sew' lmul' uimm rd =>
      have hzero : uimm.toNat = 0 ↔ uimm = 0#5 := by
        rw [← BitVec.toNat_inj, BitVec.toNat_ofNat, Nat.zero_mod]
      exact (calculateNewVl_eq_zero hpos hlt).trans hzero

/-- The new `vl` is at most `VLMAX`, when an unchanged one is. -/
theorem newVl_le (hkeep : i.KeepsVl → s.vl.toNat ≤ vlmaxOf lmul sew) :
    (i.newVl s (vlmaxOf lmul sew)).toNat ≤ vlmaxOf lmul sew := by
  have hvset (rs1 rd : Regidx)
      (hkeep : rs1 = 0b00000#5 ∧ rd = 0b00000#5 → s.vl.toNat ≤ vlmaxOf lmul sew) :
      (if rs1 ≠ 0b00000#5 then calculateNewVl (s.X rs1).toNat (vlmaxOf lmul sew)
        else if rd ≠ 0b00000#5 then BitVec.ofNat xlen (vlmaxOf lmul sew)
        else s.vl).toNat ≤ vlmaxOf lmul sew := by
    by_cases hrs1 : rs1 = 0b00000#5
    · by_cases hrd : rd = 0b00000#5
      · rw [if_neg (not_not.mpr hrs1), if_neg (not_not.mpr hrd)]
        exact hkeep ⟨hrs1, hrd⟩
      · rw [if_neg (not_not.mpr hrs1), if_pos hrd, BitVec.toNat_ofNat]
        exact Nat.mod_le _ _
    · rw [if_pos hrs1]
      exact calculateNewVl_le _ _
  cases i with
  | VSETVLI ma ta sew' lmul' rs1 rd => exact hvset rs1 rd hkeep
  | VSETVL rs2 rs1 rd => exact hvset rs1 rd hkeep
  | VSETIVLI ma ta sew' lmul' uimm rd => exact calculateNewVl_le _ _

/-- An unchanged `vl` is the new one. -/
theorem newVl_keeps (hkeep : i.KeepsVl) (vlmax : ℕ) : i.newVl s vlmax = s.vl := by
  cases i with
  | VSETVLI ma ta sew' lmul' rs1 rd =>
      exact (if_neg (not_not.mpr hkeep.1)).trans (if_neg (not_not.mpr hkeep.2))
  | VSETVL rs2 rs1 rd =>
      exact (if_neg (not_not.mpr hkeep.1)).trans (if_neg (not_not.mpr hkeep.2))
  | VSETIVLI => exact hkeep.elim

/-- The state after an accepted request. -/
theorem acceptState_regs :
    (acceptState s i sew lmul).vtype = i.request s
      ∧ (acceptState s i sew lmul).vl = i.newVl s (vlmaxOf lmul sew)
      ∧ (acceptState s i sew lmul).vstart = 0#16
      ∧ (i.rd ≠ 0b00000#5 →
          (acceptState s i sew lmul).X i.rd = (acceptState s i sew lmul).vl) := by
  have hset (s₁ : State) (v : Xlenbits) :
      (s₁.setX i.rd v).vtype = s₁.vtype ∧ (s₁.setX i.rd v).vl = s₁.vl := by
    unfold State.setX
    split <;> exact ⟨rfl, rfl⟩
  refine ⟨(hset _ _).1, (hset _ _).2, rfl, ?_⟩
  intro hrd
  have hvl := (hset { s with
    vtype := i.request s
    vl := i.newVl s (vlmaxOf lmul sew) } (i.newVl s (vlmaxOf lmul sew))).2
  refine Eq.trans ?_ hvl.symm
  refine (State.X_setX { s with
    vtype := i.request s
    vl := i.newVl s (vlmaxOf lmul sew) } i.rd i.rd _).trans ?_
  rw [if_pos ⟨rfl, hrd⟩]

/-- The marked configuration is not one that was requested and is supported. -/
theorem not_markedIllegal {s' : State} (h : Configured s i s') : ¬ MarkedIllegal s' := by
  intro hm
  obtain ⟨sew, lmul, hsup, hvtype, -⟩ := h
  have hbit := (hm.1 (xlen - 1)).mpr rfl
  have hvill := hsup.vill_eq
  rw [Field.get_bit, ← hvtype, hbit] at hvill
  simp at hvill

/-- The contract for a rejected request. -/
theorem contract_rejected (hf : VsetFields s i sew lmul ratio) (hr : Rejects i sew lmul ratio) :
    VsetContract s i ↔ s.vstart = 0#16 ∧ s.X i.rd = 0#_ := by
  have hmark : MarkedIllegal (rejectState s) := ⟨getLsbD_villVtype, rfl⟩
  have hrun : i.execute.run s = .ok (.RETIRE_SUCCESS, rejectState s) :=
    run_vset.mpr ⟨sew, lmul, ratio, hf, rfl, fun _ => rfl, fun h => absurd hr h⟩
  unfold VsetContract
  rw [hrun]
  constructor
  · rintro ⟨r, s', h, -, hrd, hstart⟩
    cases h
    refine ⟨hstart, ?_⟩
    by_cases h0 : i.rd = 0b00000#5
    · rw [h0]
      rfl
    · exact hrd h0
  · rintro ⟨hstart, hrd⟩
    exact ⟨_, _, rfl, Or.inr ⟨hmark, fun h => not_markedIllegal h hmark⟩, fun _ => hrd, hstart⟩

/-- The contract for an accepted request. -/
theorem contract_accepted (hvlen : elenPow ≤ vlenPow) (hf : VsetFields s i sew lmul ratio)
    (hr : ¬ Rejects i sew lmul ratio) :
    VsetContract s i
      ↔ (Supported (i.request s) sew lmul ∧ (i.KeepsVl → (s.vl.toNat : ℚ) ≤ VLMAX lmul sew))
          ∨ (i.request s = villVtype ∧ i.AsksForNone s) := by
  have hrun : i.execute.run s = .ok (.RETIRE_SUCCESS, acceptState s i sew lmul) :=
    run_vset.mpr ⟨sew, lmul, ratio, hf, rfl, fun h => absurd h hr, fun _ => rfl⟩
  have hsew : (sew : ℤ) ≤ lmul + elenPow := by
    by_contra hlt
    exact hr (Or.inl (by omega))
  have hmax := vlmaxOf_eq hvlen hsew
  have hregs : (acceptState s i sew lmul).vtype = i.request s
      ∧ (acceptState s i sew lmul).vl = i.newVl s (vlmaxOf lmul sew)
      ∧ (acceptState s i sew lmul).vstart = 0#16
      ∧ (i.rd ≠ 0b00000#5 →
          (acceptState s i sew lmul).X i.rd = (acceptState s i sew lmul).vl) := acceptState_regs
  obtain ⟨hvtype, hvl, hstart, hrd⟩ := hregs
  have hconf : Configured s i (acceptState s i sew lmul)
      ↔ Supported (i.request s) sew lmul ∧ (i.KeepsVl → (s.vl.toNat : ℚ) ≤ VLMAX lmul sew) := by
    unfold Configured
    rw [hvl]
    constructor
    · rintro ⟨sew', lmul', hsup, -, hle⟩
      have hs : sew' = sew := Option.some.inj (hsup.sew_eq.symm.trans hf.sew_eq)
      have hl : lmul' = lmul := Option.some.inj (hsup.lmul_eq.symm.trans hf.lmul_eq)
      subst hs hl
      refine ⟨hsup, fun hk => ?_⟩
      rwa [newVl_keeps hk] at hle
    · rintro ⟨hsup, hk⟩
      refine ⟨sew, lmul, hsup, hvtype, ?_⟩
      rw [← hmax] at hk ⊢
      exact_mod_cast newVl_le (fun h => by exact_mod_cast hk h)
  have hmark : MarkedIllegal (acceptState s i sew lmul)
      ↔ i.request s = villVtype ∧ i.AsksForNone s := by
    unfold MarkedIllegal
    rw [hvtype, hvl, newVl_eq_zero hf.lmul_eq hf.sew_eq]
    constructor
    · rintro ⟨hbits, hnone⟩
      exact ⟨eq_villVtype hbits, hnone⟩
    · rintro ⟨hreq, hnone⟩
      rw [hreq]
      exact ⟨getLsbD_villVtype, hnone⟩
  have hapart : Configured s i (acceptState s i sew lmul) →
      ¬ MarkedIllegal (acceptState s i sew lmul) := not_markedIllegal
  rw [← hconf, ← hmark]
  unfold VsetContract
  rw [hrun]
  constructor
  · rintro ⟨r, s', h, hxor, -⟩
    cases h
    rcases hxor with ⟨h, -⟩ | ⟨h, -⟩
    · exact Or.inl h
    · exact Or.inr h
  · rintro (h | h)
    · exact ⟨_, _, rfl, Or.inl ⟨h, hapart h⟩, hrd, hstart⟩
    · exact ⟨_, _, rfl, Or.inr ⟨h, fun hc => hapart hc h⟩, hrd, hstart⟩

end Contract

/-- **When the contract is met.** -/
theorem vsetContract_iff (hvlen : elenPow ≤ vlenPow) (s : State) (i : VsetInst) :
    VsetContract s i ↔ VsetSound s i := by
  unfold VsetSound
  constructor
  · intro h
    obtain ⟨r, s', hrun, -⟩ := id h
    obtain ⟨sew, lmul, ratio, hf, -⟩ := run_vset.mp hrun
    refine ⟨sew, lmul, ratio, hf, ?_, ?_⟩
    · intro hr
      exact (contract_rejected hf hr).mp h
    · intro hr
      exact (contract_accepted hvlen hf hr).mp h
  · rintro ⟨sew, lmul, ratio, hf, hrej, hacc⟩
    by_cases hr : Rejects i sew lmul ratio
    · exact (contract_rejected hf hr).mpr (hrej hr)
    · exact (contract_accepted hvlen hf hr).mpr (hacc hr)

omit [Platform] in
/-- `vsetvli x5, x0, e32, m2` from the configuration `e8, m1` meets the contract. -/
theorem vsetContract_iff_e32m2 :
    letI := rv64Pmp 16 (by decide)
    ∃ s : State, VsetContract s (.VSETVLI 0#1 0#1 0b010#3 0b001#3 0#5 5#5) := by
  let := rv64Pmp 16 (by decide)
  refine ⟨State.zero (fun _ => 0#8), (vsetContract_iff (by decide) _ _).mpr ?_⟩
  have hrej : ¬ Rejects (.VSETVLI 0#1 0#1 0b010#3 0b001#3 0#5 5#5) 5 1 3 := by
    rintro (hwide | ⟨⟨-, hrd⟩, -⟩)
    · exact absurd hwide (by decide)
    · exact absurd hrd (by decide)
  refine ⟨5, 1, 3, ⟨by decide, by decide, fun _ => ⟨3, 0, by decide, by decide, rfl⟩⟩,
    fun hr => absurd hr hrej, fun _ => Or.inl ⟨⟨?_, ?_, ?_, ?_, ?_, ?_⟩, ?_⟩⟩
  · decide
  · decide
  · decide
  · decide
  · decide
  · decide
  · rintro ⟨-, hrd⟩
    exact absurd hrd (by decide)

omit [Platform] in
/-- `vsetvli` with a reserved element width fails an assertion. -/
theorem vset_reserved_asserts :
    ¬ ∀ [Platform], elenPow ≤ vlenPow → ∀ (s : State) (i : VsetInst), VsetContract s i := by
  intro h
  let := rv64Pmp 16 (by decide)
  obtain ⟨r, s', hrun, -⟩ := h (by decide) (State.zero (fun _ => 0#8))
    (.VSETVLI 0#1 0#1 0b100#3 0b000#3 1#5 5#5)
  obtain ⟨sew, lmul, ratio, hf, -⟩ := run_vset.mp hrun
  have hnone : sewPow (Vtype.vsew.get (vtypeImm 0#1 0#1 0b100#3 0b000#3)) = none := by decide
  have hsew := hf.sew_eq
  unfold VsetInst.request at hsew
  rw [hnone] at hsew
  cases hsew

end SailRiscv
