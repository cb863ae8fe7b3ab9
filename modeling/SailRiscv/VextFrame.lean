/-
# The frame of vector arithmetic

What the instructions of vector arithmetic leave alone: the elements before `vstart`, those of
the tail, those that are masked, and all other registers; and the registers that the active
elements are computed from.
-/
import SailRiscv.VextMaskRuns
import SailRiscv.VsetContract
import SailRiscv.Saturation

namespace SailRiscv

open Bits Platform

variable [Platform] {s s' : State} {c : VConf}

/-! ## Active elements -/

/-- `vl` is at most `VLMAX` in the configuration `c`. -/
def VlFits (s : State) (c : VConf) : Prop := (s.vl.toNat : ℚ) ≤ VLMAX c.lmul c.sewPow

/-- An element of the body that is not masked. -/
def InBody (s : State) (mask : ℕ → Bool) (i : ℕ) : Prop :=
  s.vstart.toNat ≤ i ∧ i < s.vl.toNat ∧ mask i = true

/-- Elements below `VLMAX` are among those of the group. -/
theorem ConfOf.lt_real (hc : ConfOf s c) (hvl : VlFits s c) {i : ℕ} (hi : i < s.vl.toNat) :
    i < realNumElem c.n c.lmul := by
  have hlt : ((i + 1 : ℕ) : ℚ) ≤ VLEN * 2 ^ c.lmul / 2 ^ c.sewPow :=
    le_trans (by exact_mod_cast hi) hvl
  rw [le_div_iff₀ (by positivity)] at hlt
  unfold realNumElem
  rcases lt_or_ge c.lmul 0 with hneg | hpos
  · rw [if_neg (by omega)]
    obtain ⟨k, hk⟩ := Int.eq_ofNat_of_zero_le (show 0 ≤ -c.lmul by omega)
    have hlmul : c.lmul = -(k : ℤ) := by omega
    have hn : c.n = VLEN / c.sew := by
      rw [hc.n, groupRegs_of_neg hneg, Nat.one_mul]
    rw [hlmul, zpow_neg, zpow_natCast, ← div_eq_mul_inv, le_div_iff₀ (by positivity)] at hlt
    have hnat : (i + 1) * 2 ^ c.sewPow * 2 ^ k ≤ VLEN := by exact_mod_cast hlt
    rw [hn, hlmul, neg_neg, Int.toNat_natCast, Nat.div_div_eq_div_mul]
    refine (Nat.le_div_iff_mul_le (by unfold VConf.sew; positivity)).mpr ?_
    unfold VConf.sew
    rwa [← Nat.mul_assoc]
  · rw [if_pos hpos]
    obtain ⟨k, hk⟩ := Int.eq_ofNat_of_zero_le hpos
    rw [hk, zpow_natCast] at hlt
    have hnat : (i + 1) * 2 ^ c.sewPow ≤ VLEN * 2 ^ k := by exact_mod_cast hlt
    rw [hc.n, hk]
    refine (Nat.le_div_iff_mul_le (by unfold VConf.sew; positivity)).mpr ?_
    unfold groupRegs VConf.sew
    rwa [Int.toNat_natCast, Nat.mul_comm (2 ^ k)]

/-- The elements that a clause computes. -/
theorem active_iff {n : ℕ} {lmul : ℤ} {mask : ℕ → Bool} {i : ℕ}
    (hreal : i < s.vl.toNat → i < realNumElem n lmul) :
    s.active n lmul mask i = true ↔ InBody s mask i := by
  unfold State.active State.body inBody InBody
  rw [Bool.and_eq_true, decide_eq_true_iff]
  constructor
  · rintro ⟨⟨hlo, hhi, -⟩, hm⟩
    exact ⟨hlo, by omega, hm⟩
  · rintro ⟨hlo, hhi, hm⟩
    exact ⟨⟨hlo, by omega, hreal hhi⟩, hm⟩

omit [Platform] in
/-- A group of twice the width counts no fewer elements as its own. -/
theorem realNumElem_le_widen (n : ℕ) (lmul : ℤ) :
    realNumElem n lmul ≤ realNumElem n (lmul + 1) := by
  unfold realNumElem
  rcases lt_or_ge lmul 0 with hneg | hpos
  · rw [if_neg (by omega)]
    split
    · exact Nat.div_le_self _ _
    · exact Nat.div_le_div_left (Nat.pow_le_pow_right (by omega) (by omega)) (by positivity)
  · rw [if_pos hpos, if_pos (by omega)]

omit [Platform] in
/-- The number of elements of a fractional group in a merge is not too small. -/
theorem mergeReal_ge (n : ℕ) {lmul : ℤ} (hneg : lmul < 0) :
    realNumElem n lmul ≤ n / (0 - lmul).toNat := by
  unfold realNumElem
  rw [if_neg (by omega), zero_sub]
  exact Nat.div_le_div_left Nat.lt_two_pow_self.le (by omega)

/-- The elements that a merge computes. -/
theorem mergeBody_iff (hc : ConfOf s c) (hvl : VlFits s c) (i : ℕ) :
    mergeBody c s.vstart.toNat ((s.vl.toNat : ℤ) - 1) i = true
      ↔ InBody s (s.vmask 1#1) i := by
  unfold mergeBody InBody
  rw [decide_eq_true_iff]
  constructor
  · rintro ⟨hlo, hhi, -⟩
    exact ⟨hlo, by omega, rfl⟩
  · rintro ⟨hlo, hhi, -⟩
    refine ⟨hlo, by omega, ?_⟩
    have hreal := hc.lt_real hvl hhi
    split
    · next hpos =>
        unfold realNumElem at hreal
        rwa [if_pos hpos] at hreal
    · next hneg => exact lt_of_lt_of_le hreal (mergeReal_ge c.n (by omega))

/-- The mask bit of an instruction: the merges and the moves compute the whole body. -/
def VextArithInst.vm : VextArithInst → BitVec 1
  | .VVTYPE _ vm _ _ _ | .NVSTYPE _ vm _ _ _ | .NVTYPE _ vm _ _ _ | .VXTYPE _ vm _ _ _
  | .NXSTYPE _ vm _ _ _ | .NXTYPE _ vm _ _ _ | .VXSG _ vm _ _ _ | .VITYPE _ vm _ _ _
  | .NISTYPE _ vm _ _ _ | .NITYPE _ vm _ _ _ | .VISG _ vm _ _ _ | .MVVTYPE _ vm _ _ _
  | .MVVMATYPE _ vm _ _ _ | .WVVTYPE _ vm _ _ _ | .WVTYPE _ vm _ _ _ | .WMVVTYPE _ vm _ _ _
  | .VEXT2TYPE _ vm _ _ | .VEXT4TYPE _ vm _ _ | .VEXT8TYPE _ vm _ _ | .MVXTYPE _ vm _ _ _
  | .MVXMATYPE _ vm _ _ _ | .WVXTYPE _ vm _ _ _ | .WXTYPE _ vm _ _ _ | .WMVXTYPE _ vm _ _ _ => vm
  | _ => 1#1

/-- The active elements of an instruction are those of the body that are not masked. -/
theorem VextArithInst.active_iff {i : VextArithInst} {f : VecSpec} (hc : ConfOf s c)
    (hvl : VlFits s c) (hi : i.spec s c = some f) (j : ℕ) :
    f.active j = true ↔ InBody s (s.vmask i.vm) j := by
  have hsame {vm : BitVec 1} : s.active c.n c.lmul (s.vmask vm) j = true
      ↔ InBody s (s.vmask vm) j := SailRiscv.active_iff (hc.lt_real hvl)
  have hwide {vm : BitVec 1} : s.active c.n c.widen.lmul (s.vmask vm) j = true
      ↔ InBody s (s.vmask vm) j :=
    SailRiscv.active_iff fun hj => lt_of_lt_of_le (hc.lt_real hvl hj) (realNumElem_le_widen _ _)
  have hmerge := mergeBody_iff hc hvl j
  cases i <;> cases hi <;> first | exact hsame | exact hwide | exact hmerge

/-- The mask bit of an instruction with masks: only the comparisons have one. -/
def VextVmInst.vm : VextVmInst → BitVec 1
  | .VVCMPTYPE _ vm _ _ _ | .VXCMPTYPE _ vm _ _ _ | .VICMPTYPE _ vm _ _ _ => vm
  | _ => 1#1

/-- The elements that an instruction with masks computes. -/
def VmSpec.active : VmSpec → ℕ → Bool
  | .elems f => f.active
  | .bits f => f.active

/-- The active elements of an instruction with masks. -/
theorem VextVmInst.active_iff {i : VextVmInst} (hc : ConfOf s c) (hvl : VlFits s c) (j : ℕ) :
    (i.spec s c).active j = true ↔ InBody s (s.vmask i.vm) j := by
  have hsame {vm : BitVec 1} : s.active c.n c.lmul (s.vmask vm) j = true
      ↔ InBody s (s.vmask vm) j := SailRiscv.active_iff (hc.lt_real hvl)
  have hbody : s.body c.n c.lmul j = true ↔ InBody s (s.vmask 1#1) j := by
    rw [← hsame]
    show _ ↔ (s.body c.n c.lmul j && true) = true
    rw [Bool.and_true]
  cases i <;> first | exact hsame | exact hbody

/-! ## The frame -/

/-- The elements before `vstart`, those from `vl` on and those that are masked are as they were in
`s`; the others are those of `f`; and the registers outside of the group do not change. -/
structure VecSpec.Framed (f : VecSpec) (mask : ℕ → Bool) (s s' : State) : Prop where
  prestart : ∀ i < groupLen f.sew f.lmul, i < s.vstart.toNat →
    s'.elem f.sew f.vd i = s.elem f.sew f.vd i
  tail : ∀ i < groupLen f.sew f.lmul, s.vl.toNat ≤ i → s'.elem f.sew f.vd i = s.elem f.sew f.vd i
  masked : ∀ i < groupLen f.sew f.lmul, mask i = false →
    s'.elem f.sew f.vd i = s.elem f.sew f.vd i
  computed : ∀ i < groupLen f.sew f.lmul, InBody s mask i →
    s'.elem f.sew f.vd i = (f.elem i).1
  outside : ∀ q, (∀ k < groupRegs f.lmul, q ≠ groupReg f.vd k) → s'.V q = s.V q

/-- The same for the bits of a mask. -/
structure MaskSpec.Framed (f : MaskSpec) (mask : ℕ → Bool) (s s' : State) : Prop where
  prestart : ∀ i < VLEN, i < s.vstart.toNat → s'.maskBits f.vd i = s.maskBits f.vd i
  tail : ∀ i < VLEN, s.vl.toNat ≤ i → s'.maskBits f.vd i = s.maskBits f.vd i
  masked : ∀ i < VLEN, mask i = false → s'.maskBits f.vd i = s.maskBits f.vd i
  computed : ∀ i < VLEN, InBody s mask i → s'.maskBits f.vd i = f.bit i
  outside : ∀ q ≠ f.vd, s'.V q = s.V q

/-- The same for an instruction with masks. -/
def VmSpec.Framed (mask : ℕ → Bool) (s s' : State) : VmSpec → Prop
  | .elems f => f.Framed mask s s'
  | .bits f => f.Framed mask s s'

/-- Elements before `vstart` are not in the body. -/
theorem not_inBody_of_prestart {mask : ℕ → Bool} {i : ℕ} (h : i < s.vstart.toNat) :
    ¬ InBody s mask i := by
  rintro ⟨hlo, -, -⟩
  omega

/-- Elements of the tail are not in the body. -/
theorem not_inBody_of_tail {mask : ℕ → Bool} {i : ℕ} (h : s.vl.toNat ≤ i) :
    ¬ InBody s mask i := by
  rintro ⟨-, hhi, -⟩
  omega

/-- Masked elements are not computed. -/
theorem not_inBody_of_masked {mask : ℕ → Bool} {i : ℕ} (h : mask i = false) :
    ¬ InBody s mask i := by
  rintro ⟨-, -, hm⟩
  rw [h] at hm
  cases hm

/-- What a clause leaves behind has the frame of its active elements. -/
theorem VecSpec.Holds.framed {f : VecSpec} {mask : ℕ → Bool} (h : f.Holds s s')
    (hact : ∀ i, f.active i = true ↔ InBody s mask i) : f.Framed mask s s' := by
  have hkeep (i : ℕ) (hi : i < groupLen f.sew f.lmul) (hnot : ¬ InBody s mask i) :
      s'.elem f.sew f.vd i = s.elem f.sew f.vd i := by
    rw [h.outcome.elem i hi, if_neg fun ha => hnot ((hact i).mp ha)]
  constructor
  · intro i hi hlt
    exact hkeep i hi (not_inBody_of_prestart hlt)
  · intro i hi hle
    exact hkeep i hi (not_inBody_of_tail hle)
  · intro i hi hm
    exact hkeep i hi (not_inBody_of_masked hm)
  · intro i hi hin
    rw [h.outcome.elem i hi, if_pos ((hact i).mpr hin)]
  · exact h.outcome.other

/-- The same for the bits of a mask. -/
theorem MaskOutcome.framed {f : MaskSpec} {mask : ℕ → Bool}
    (h : MaskOutcome f.vd f.active f.bit s s')
    (hact : ∀ i, f.active i = true ↔ InBody s mask i) : f.Framed mask s s' := by
  have hkeep (i : ℕ) (hi : i < VLEN) (hnot : ¬ InBody s mask i) :
      s'.maskBits f.vd i = s.maskBits f.vd i :=
    (h.bit i hi).trans (if_neg fun ha => hnot ((hact i).mp ha))
  constructor
  · intro i hi hlt
    exact hkeep i hi (not_inBody_of_prestart hlt)
  · intro i hi hle
    exact hkeep i hi (not_inBody_of_tail hle)
  · intro i hi hm
    exact hkeep i hi (not_inBody_of_masked hm)
  · intro i hi hin
    exact (h.bit i hi).trans (if_pos ((hact i).mpr hin))
  · exact h.other

/-- The frame of an instruction with masks. -/
theorem VmSpec.Holds.framed {f : VmSpec} {mask : ℕ → Bool} (h : f.Holds s s')
    (hact : ∀ i, f.active i = true ↔ InBody s mask i) : f.Framed mask s s' := by
  cases f with
  | elems f => exact VecSpec.Holds.framed h hact
  | bits f => exact MaskOutcome.framed h hact

/-! ## The accessors of groups -/

/-- The number of elements of a group, when they fill the registers. -/
theorem groupLen_eq {SEW : ℕ} (lmul : ℤ) (h : SEW ∣ VLEN) :
    groupLen SEW lmul = groupRegs lmul * VLEN / SEW := by
  unfold groupLen perReg
  exact (Nat.mul_div_assoc _ h).symm

/-- What `read_vreg` returns after `write_vreg`. -/
theorem run_readVreg_of_writeVreg {n SEW : ℕ} {lmul : ℤ} {r : Regidx} {vec v : ℕ → BitVec SEW}
    {u : Unit} {t : State} (hfull : SEW ∣ VLEN) (hn : n = groupRegs lmul * VLEN / SEW)
    (hwrite : (writeVreg n SEW lmul r vec).run s = .ok (u, s'))
    (hread : (readVreg n SEW lmul r).run s' = .ok (v, t)) : ∀ i < n, v i = vec i := by
  intro i hi
  obtain ⟨-, hgroup, rfl⟩ := run_readVreg_ok hread
  have hlen : i < groupLen SEW lmul := by rwa [groupLen_eq lmul hfull, ← hn]
  rw [group_eq_elem hlen hi]
  exact (run_writeVreg_ok hgroup hwrite).elem i hlen

/-- What `write_single_element` changes. -/
theorem run_writeSingleElement_ok {EEW index : ℕ} {r : Regidx} {value : BitVec EEW} {u : Unit}
    (h : (writeSingleElement EEW index r value).run s = .ok (u, s')) (q : Regidx) :
    (q ≠ groupReg r (index / perReg EEW) → s'.V q = s.V q)
      ∧ ∀ e < perReg EEW, bits (s'.V q) (e * EEW) EEW
        = if q = groupReg r (index / perReg EEW) ∧ e = index % perReg EEW then value
          else bits (s.V q) (e * EEW) EEW := by
  unfold writeSingleElement divOrError at h
  obtain ⟨k, s₁, hk, h⟩ := Exec.run_bind_ok.mp h
  split at hk
  · cases hk
  cases hk
  obtain ⟨vals, hvals, h⟩ := run_bind_reads h
  obtain rfl := run_readSingleVreg_ok hvals
  have hs := run_wV_ok h
  have hV : s'.V q = if q = groupReg r (index / perReg EEW)
      then packed EEW (perReg EEW) 0#_ (fun e => if e = index % perReg EEW then value
        else if e < perReg EEW then bits (s.V (groupReg r (index / perReg EEW))) (e * EEW) EEW
        else BitVec.ofNat EEW 0)
      else s.V q := by
    rw [hs]
    exact V_setV s _ q _
  rw [hV]
  by_cases hq : q = groupReg r (index / perReg EEW)
  · rw [if_pos hq]
    refine ⟨fun hne => absurd hq hne, ?_⟩
    intro e he
    rw [bits_packed (perReg_mul_le EEW) he, if_pos he, ← hq]
    exact if_congr (Iff.symm (and_iff_right rfl)) rfl rfl
  · rw [if_neg hq]
    refine ⟨fun _ => rfl, ?_⟩
    intro e _
    rw [if_neg fun hin => hq hin.1]

/-! ## The frame law -/

/-- **Frame law.**  An instruction of vector arithmetic that retires changes the unmasked elements
of the body, and no other element or register; they are computed from the registers before the
instruction.  So do the comparisons and the operations with a carry.  `read_vreg` returns what
`write_vreg` has written, and `write_single_element` changes one element. -/
theorem vector_arithmetic_frame :
    (∀ (i : VextArithInst) (s s' : State) (g : VConf → VecSpec),
      (∀ c, i.spec s c = some (g c)) → i.execute.run s = .ok (.RETIRE_SUCCESS, s') →
      ∃ c, ConfOf s c ∧ (VlFits s c → (g c).Framed (s.vmask i.vm) s s'))
    ∧ (∀ (i : VextVmInst) (s s' : State), i.execute.run s = .ok (.RETIRE_SUCCESS, s') →
      ∃ c, ConfOf s c ∧ (VlFits s c → (i.spec s c).Framed (s.vmask i.vm) s s'))
    ∧ (∀ (n SEW : ℕ) (lmul : ℤ) (r : Regidx) (vec v : ℕ → BitVec SEW) (s s' t : State),
      SEW ∣ VLEN → n = groupRegs lmul * VLEN / SEW →
      (writeVreg n SEW lmul r vec).run s = .ok ((), s') →
      (readVreg n SEW lmul r).run s' = .ok (v, t) → ∀ i < n, v i = vec i)
    ∧ ∀ (EEW index : ℕ) (r : Regidx) (value : BitVec EEW) (s s' : State),
      (writeSingleElement EEW index r value).run s = .ok ((), s') → ∀ q,
      (q ≠ groupReg r (index / perReg EEW) → s'.V q = s.V q)
      ∧ ∀ e < perReg EEW, bits (s'.V q) (e * EEW) EEW
        = if q = groupReg r (index / perReg EEW) ∧ e = index % perReg EEW then value
          else bits (s.V q) (e * EEW) EEW := by
  refine ⟨?_, ?_, ?_, ?_⟩
  · intro i s s' g hi hrun
    obtain ⟨c, hc, hholds⟩ := SailRiscv.run_execute_ok hi hrun
    refine ⟨c, hc, fun hvl => hholds.framed ?_⟩
    exact VextArithInst.active_iff hc hvl (hi c)
  · intro i s s' hrun
    obtain ⟨c, hc, hholds⟩ := i.run_execute_ok hrun
    refine ⟨c, hc, fun hvl => hholds.framed ?_⟩
    exact VextVmInst.active_iff hc hvl
  · intro n SEW lmul r vec v s s' t hfull hn hwrite hread
    exact run_readVreg_of_writeVreg hfull hn hwrite hread
  · intro EEW index r value s s' hrun q
    exact run_writeSingleElement_ok hrun q

omit [Platform] in
/-- `vadd.vx v8, v16, x1` on one element. -/
theorem vector_arithmetic_frame_vadd :
    letI := rv64Pmp 16 (by decide)
    ∃ (s' : State) (c : VConf),
      (VextArithInst.VXTYPE .VX_VADD 1#1 16#5 1#5 8#5).execute.run oneElement
        = .ok (.RETIRE_SUCCESS, s')
      ∧ (c.result oneElement 1#1 8#5 fun i => Vxfunct6.elem oneElement.rounding
        (c.read oneElement 16#5 i) (c.readX oneElement 1#5) .VX_VADD).Framed
          (oneElement.vmask 1#1) oneElement s' := by
  let := rv64Pmp 16 (by decide)
  obtain ⟨hconf, s', hrun⟩ := run_oneElement (.VXTYPE .VX_VADD 1#1 16#5 1#5 8#5)
    (by decide +kernel)
  obtain ⟨c, hc, hframe⟩ := vector_arithmetic_frame.1 _ oneElement s' _ (fun _ => rfl) hrun
  obtain rfl := hc.unique hconf
  refine ⟨s', _, hrun, hframe ?_⟩
  have hone : oneElement.vl.toNat = 1 := by decide
  have hvlen : VLEN = 512 := by decide
  unfold VlFits VLMAX
  rw [hone, hvlen]
  norm_num

end SailRiscv
