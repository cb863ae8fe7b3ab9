/-
# Runs that write masks

What the accessors of mask registers write, and what the instructions of
`riscv_insts_vext_vm.sail` leave behind: carries, borrows and comparisons.
-/
import SailRiscv.VextElements
import SailRiscv.Insts.VextVm

namespace SailRiscv

open Bits Platform

/-! ## The bits of a mask -/

variable [Platform] {s s' t : State}

/-- `VLEN` bits fit in a vector register of the model. -/
theorem VLEN_le : VLEN ≤ 65536 :=
  Nat.pow_le_pow_right (by omega) Platform.sysVectorVlenExp_mem.2

/-- What `write_vmask` writes. -/
theorem run_writeVmask_ok {n : ℕ} {r : Regidx} {v : ℕ → Bool} {u : Unit}
    (h : (writeVmask n r v).run s = .ok (u, s')) :
    (∀ i < VLEN, (s'.V r).getLsbD i = if i < n then v i else (s.V r).getLsbD i)
      ∧ (∀ q ≠ r, s'.V q = s.V q)
      ∧ s' = { s with
          v := s'.v
          mstatus := s'.mstatus } := by
  unfold writeVmask at h
  obtain ⟨_, -, h⟩ := run_bind_reads h
  obtain ⟨_, -, h⟩ := run_bind_reads h
  obtain ⟨old, hold, h⟩ := run_bind_reads h
  cases hold
  have hs := run_wV_ok h
  have hwritten : s'.V r = forUp VLEN 0#_ fun i acc =>
      setBit acc i (if i < n then v i else (s.V r).getLsbD i) := by
    rw [hs]
    exact (V_setV s r r _).trans (if_pos rfl)
  refine ⟨fun i hi => ?_, fun q hq => ?_, ?_⟩
  · have hle := VLEN_le
    rw [hwritten, getLsbD_forUp_setBit, decide_eq_true (by omega), Bool.true_and]
  · rw [hs]
    exact (V_setV s r q _).trans (if_neg hq)
  · rw [hs]
    rfl

/-- What an instruction that writes the mask `vd` leaves behind: the active bits are those of `f`,
and the others are as they were. -/
structure MaskOutcome (vd : Regidx) (active f : ℕ → Bool) (s s' : State) : Prop where
  bit : ∀ i < VLEN, (s'.V vd).getLsbD i = if active i then f i else (s.V vd).getLsbD i
  other : ∀ q ≠ vd, s'.V q = s.V q
  vcsr : s'.vcsr = s.vcsr
  vstart : s'.vstart = 0#16
  vl : s'.vl = s.vl
  vtype : s'.vtype = s.vtype
  x : s'.x = s.x

/-- The end of a clause that writes the mask `v`. -/
theorem maskOutcome_of_write {n : ℕ} {vd : Regidx} {active f v : ℕ → Bool} (hsame : SameRegs s t)
    (hv : ∀ i < VLEN, (if i < n then v i else (s.V vd).getLsbD i)
      = if active i then f i else (s.V vd).getLsbD i)
    (h : (do
      writeVmask n vd v
      endVector : M Retired).run t = .ok (.RETIRE_SUCCESS, s')) : MaskOutcome vd active f s s' := by
  obtain ⟨_, s₁, hwrite, hend⟩ := Exec.run_bind_ok.mp h
  cases hend
  obtain ⟨hbit, hother, hframe⟩ := run_writeVmask_ok hwrite
  refine ⟨fun i hi => ?_, fun q hq => ?_, ?_, rfl, ?_, ?_, ?_⟩
  · rw [← hv i hi, ← hsame.V vd]
    exact hbit i hi
  · exact (hother q hq).trans (hsame.V q)
  · rw [hframe]
    exact congrArg VecRegs.vcsr hsame.vec
  · rw [hframe]
    exact hsame.vl
  · rw [hframe]
    exact hsame.vtype
  · rw [hframe]
    exact hsame.x

/-- The bits of the register `r`, as `read_vmask` returns them. -/
def State.maskBits (s : State) (r : Regidx) (i : ℕ) : Bool := (s.V r).getLsbD i

theorem run_readMask_ok {n : ℕ} {r : Regidx} {v : ℕ → Bool}
    (h : (readVmask n 0#1 r).run s = .ok (v, s')) : v = s.maskBits r := by
  unfold readVmask at h
  obtain ⟨_, -, h⟩ := run_bind_reads h
  cases h
  rfl

/-- Clauses that compute the active elements of a mask. -/
theorem run_writeMaskElems_ok {n : ℕ} {vd : Regidx} {init : M ((ℕ → Bool) × (ℕ → Bool))}
    {elem active : ℕ → Bool} (hn : ∀ i, active i = true → i < n)
    (hinit : ∀ v t, init.run s = .ok (v, t) →
      SameRegs s t ∧ v.1 = s.maskBits vd ∧ v.2 = active)
    (hrun : (writeMaskElems n vd init elem).run s = .ok (.RETIRE_SUCCESS, s')) :
    MaskOutcome vd active elem s s' := by
  unfold writeMaskElems at hrun
  obtain ⟨v, t, hv, hrun⟩ := Exec.run_bind_ok.mp hrun
  obtain ⟨hsame, h₁, h₂⟩ := hinit v t hv
  rw [h₁, h₂] at hrun
  refine maskOutcome_of_write hsame (fun i _ => ?_) hrun
  by_cases hact : active i = true
  · rw [if_pos (hn i hact), if_pos hact, if_pos hact]
  · rw [if_neg hact, if_neg hact]
    unfold State.maskBits
    split <;> rfl

/-! ## Carries and comparisons -/

/-- The active elements of a clause are among those of the configuration. -/
theorem lt_of_body {n : ℕ} {lmul : ℤ} {j : ℕ} (h : s.body n lmul j = true) : j < n := by
  have hactive : s.active n lmul (fun _ => true) j = true := by
    unfold State.active
    rw [h]
    rfl
  exact lt_of_active hactive

/-- The carries are the bits of the mask. -/
theorem run_readVmaskCarry_ok {n : ℕ} {v : ℕ → Bool}
    (h : (readVmaskCarry n 0#1 0#5).run s = .ok (v, s')) : v = s.vmask 0#1 := by
  unfold readVmaskCarry at h
  obtain ⟨_, -, h⟩ := run_bind_reads h
  cases h
  rfl

theorem run_initCarry_ok {n : ℕ} {lmul : ℤ} {old : ℕ → Bool} {v : (ℕ → Bool) × (ℕ → Bool)}
    (h : (initMaskedResultCarry n lmul old).run s = .ok (v, t)) :
    SameRegs s t ∧ v.1 = old ∧ v.2 = s.body n lmul := by
  unfold initMaskedResultCarry at h
  obtain ⟨body, t', hbody, h⟩ := Exec.run_bind_ok.mp h
  cases h
  obtain ⟨rfl, hsame, -⟩ := run_bodyOf_ok hbody
  exact ⟨hsame, rfl, rfl⟩

theorem run_initMasked_ok {α : Type} {n : ℕ} {lmul : ℤ} {old : ℕ → α} {vm : ℕ → Bool}
    {v : (ℕ → α) × (ℕ → Bool)} (h : (initMaskedResult n lmul old vm).run s = .ok (v, t)) :
    SameRegs s t ∧ v.1 = old ∧ v.2 = s.active n lmul vm := by
  unfold initMaskedResult at h
  obtain ⟨body, t', hbody, h⟩ := Exec.run_bind_ok.mp h
  cases h
  obtain ⟨rfl, hsame, -⟩ := run_bodyOf_ok hbody
  exact ⟨hsame, rfl, rfl⟩

section

variable {vs2 vd : Regidx} {src1 : Src1} [∀ c, Reads (src1 c)]
  {v1 : (c : VConf) → ℕ → BitVec c.sew}

/-- The clauses with a carry in and a carry out. -/
theorem run_carryInOut_ok (op : {m : ℕ} → (a b : BitVec m) → ℕ → Bool)
    (hsrc : ∀ c v, (src1 c).run s = .ok (v, s) → v = v1 c)
    (hrun : (carryInOut vs2 vd src1 op).run s = .ok (.RETIRE_SUCCESS, s')) :
    ∃ c, ConfOf s c ∧ MaskOutcome vd (s.body c.n c.lmul)
      (fun i => op (c.read s vs2 i) (v1 c i) (boolToNat (s.vmask 0#1 i))) s s' := by
  unfold carryInOut at hrun
  obtain ⟨c, hc, hrun⟩ := run_bind_reads hrun
  obtain ⟨-, hrun⟩ := run_orIllegal_ok hrun
  obtain ⟨vmVal, hvm, hrun⟩ := run_bind_reads hrun
  obtain ⟨v, hv, hrun⟩ := run_bind_reads hrun
  obtain ⟨v2, hv2, hrun⟩ := run_bind_reads hrun
  obtain ⟨old, hold, hrun⟩ := run_bind_reads hrun
  obtain rfl := run_readVmaskCarry_ok hvm
  obtain rfl := hsrc c v hv
  obtain ⟨-, rfl⟩ := run_group_ok hv2
  obtain rfl := run_readMask_ok hold
  exact ⟨c, (run_vconf_ok.mp hc).1, run_writeMaskElems_ok (fun _ => lt_of_body)
    (fun _ _ hinit => run_initCarry_ok hinit) hrun⟩

/-- The clauses with a carry out and no carry in. -/
theorem run_carryOutOnly_ok (op : {m : ℕ} → (a b : BitVec m) → ℕ → Bool)
    (hsrc : ∀ c v, (src1 c).run s = .ok (v, s) → v = v1 c)
    (hrun : (carryOutOnly vs2 vd src1 op).run s = .ok (.RETIRE_SUCCESS, s')) :
    ∃ c, ConfOf s c ∧ MaskOutcome vd (s.body c.n c.lmul)
      (fun i => op (c.read s vs2 i) (v1 c i) 0) s s' := by
  unfold carryOutOnly at hrun
  obtain ⟨c, hc, hrun⟩ := run_bind_reads hrun
  obtain ⟨-, hrun⟩ := run_orIllegal_ok hrun
  obtain ⟨v, hv, hrun⟩ := run_bind_reads hrun
  obtain ⟨v2, hv2, hrun⟩ := run_bind_reads hrun
  obtain ⟨old, hold, hrun⟩ := run_bind_reads hrun
  obtain rfl := hsrc c v hv
  obtain ⟨-, rfl⟩ := run_group_ok hv2
  obtain rfl := run_readMask_ok hold
  exact ⟨c, (run_vconf_ok.mp hc).1, run_writeMaskElems_ok (fun _ => lt_of_body)
    (fun _ _ hinit => run_initCarry_ok hinit) hrun⟩

/-- The clauses with a carry in and no carry out. -/
theorem run_carryIn_ok (op : {m : ℕ} → (a b : BitVec m) → ℕ → BitVec m)
    (hsrc : ∀ c v, (src1 c).run s = .ok (v, s) → v = v1 c)
    (hrun : (carryIn vs2 vd src1 op).run s = .ok (.RETIRE_SUCCESS, s')) :
    ∃ c, ConfOf s c ∧ (c.result s 1#1 vd fun i =>
      exactly (op (c.read s vs2 i) (v1 c i) (boolToNat (s.vmask 0#1 i)))).Holds s s' := by
  unfold carryIn at hrun
  obtain ⟨c, hc, hrun⟩ := run_bind_reads hrun
  obtain ⟨-, hrun⟩ := run_orIllegal_ok hrun
  obtain ⟨vmVal, hvm, hrun⟩ := run_bind_reads hrun
  obtain ⟨v, hv, hrun⟩ := run_bind_reads hrun
  obtain ⟨v2, hv2, hrun⟩ := run_bind_reads hrun
  obtain ⟨old, hold, hrun⟩ := run_bind_reads hrun
  have hconf := (run_vconf_ok.mp hc).1
  obtain rfl := run_readVmaskCarry_ok hvm
  obtain rfl := hsrc c v hv
  obtain ⟨-, rfl⟩ := run_group_ok hv2
  obtain ⟨hgroup, rfl⟩ := run_group_ok hold
  exact ⟨c, hconf, hgroup, run_writeElems_ok hgroup hconf.groupLen_le
    (fun i hi => hconf.read_eq_elem vd hi) (fun t _ i _ _ => computes_just t _) hrun⟩

/-- The comparisons. -/
theorem run_vectorCompare_ok {vm : BitVec 1} (op : {m : ℕ} → (a b : BitVec m) → Bool)
    (hsrc : ∀ c v, (src1 c).run s = .ok (v, s) → v = v1 c)
    (hrun : (vectorCompare vm vs2 vd src1 op).run s = .ok (.RETIRE_SUCCESS, s')) :
    ∃ c, ConfOf s c ∧ MaskOutcome vd (s.active c.n c.lmul (s.vmask vm))
      (fun i => op (c.read s vs2 i) (v1 c i)) s s' := by
  unfold vectorCompare at hrun
  obtain ⟨c, hc, hrun⟩ := run_bind_reads hrun
  obtain ⟨-, hrun⟩ := run_orIllegal_ok hrun
  obtain ⟨vmVal, hvm, hrun⟩ := run_bind_reads hrun
  obtain ⟨v, hv, hrun⟩ := run_bind_reads hrun
  obtain ⟨v2, hv2, hrun⟩ := run_bind_reads hrun
  obtain ⟨old, hold, hrun⟩ := run_bind_reads hrun
  obtain rfl := run_readVmask_ok hvm
  obtain rfl := hsrc c v hv
  obtain ⟨-, rfl⟩ := run_group_ok hv2
  obtain rfl := run_readMask_ok hold
  exact ⟨c, (run_vconf_ok.mp hc).1, run_writeMaskElems_ok (fun _ => lt_of_active)
    (fun _ _ hinit => run_initMasked_ok hinit) hrun⟩

end

/-! ## The table -/

/-- The bits of a mask that an instruction computes: those that are active, and their values. -/
structure MaskSpec where
  vd : Regidx
  active : ℕ → Bool
  bit : ℕ → Bool

/-- What an instruction with masks computes. -/
inductive VmSpec where
  | elems (f : VecSpec)
  | bits (f : MaskSpec)

/-- An instruction that computes this takes `s` to `s'`. -/
def VmSpec.Holds (s s' : State) : VmSpec → Prop
  | .elems f => f.Holds s s'
  | .bits f => MaskOutcome f.vd f.active f.bit s s'

/-- The carry or the borrow out. -/
def Vxmfunct6.op {m : ℕ} (a b : BitVec m) (carry : ℕ) : Vxmfunct6 → Bool
  | .VXM_VMADC => carryOut a b carry
  | .VXM_VMSBC => borrowOut a b carry

/-- The sum or the difference with a carry or a borrow in. -/
def Vxmsfunct6.op {m : ℕ} (a b : BitVec m) (carry : ℕ) : Vxmsfunct6 → BitVec m
  | .VXMS_VADC => addCarry a b carry
  | .VXMS_VSBC => subBorrow a b carry

/-- The result of a comparison. -/
def Vxcmpfunct6.op {m : ℕ} (a b : BitVec m) : Vxcmpfunct6 → Bool
  | .VXCMP_VMSEQ => a == b
  | .VXCMP_VMSNE => a != b
  | .VXCMP_VMSLTU => decide (a.toNat < b.toNat)
  | .VXCMP_VMSLT => decide (a.toInt < b.toInt)
  | .VXCMP_VMSLEU => decide (a.toNat ≤ b.toNat)
  | .VXCMP_VMSLE => decide (a.toInt ≤ b.toInt)
  | .VXCMP_VMSGTU => decide (a.toNat > b.toNat)
  | .VXCMP_VMSGT => decide (a.toInt > b.toInt)

/-- The operation with a scalar operand. -/
def Vvmfunct6.scalarForm : Vvmfunct6 → Vxmfunct6
  | .VVM_VMADC => .VXM_VMADC
  | .VVM_VMSBC => .VXM_VMSBC

/-- The operation with a carry in. -/
def Vvmcfunct6.scalarForm : Vvmcfunct6 → Vxmfunct6
  | .VVMC_VMADC => .VXM_VMADC
  | .VVMC_VMSBC => .VXM_VMSBC

/-- The operation with a carry in. -/
def Vxmcfunct6.carryForm : Vxmcfunct6 → Vxmfunct6
  | .VXMC_VMADC => .VXM_VMADC
  | .VXMC_VMSBC => .VXM_VMSBC

/-- The operation with a scalar operand. -/
def Vvmsfunct6.scalarForm : Vvmsfunct6 → Vxmsfunct6
  | .VVMS_VADC => .VXMS_VADC
  | .VVMS_VSBC => .VXMS_VSBC

/-- The operation with a scalar operand. -/
def Vvcmpfunct6.scalarForm : Vvcmpfunct6 → Vxcmpfunct6
  | .VVCMP_VMSEQ => .VXCMP_VMSEQ
  | .VVCMP_VMSNE => .VXCMP_VMSNE
  | .VVCMP_VMSLTU => .VXCMP_VMSLTU
  | .VVCMP_VMSLT => .VXCMP_VMSLT
  | .VVCMP_VMSLEU => .VXCMP_VMSLEU
  | .VVCMP_VMSLE => .VXCMP_VMSLE

/-- The operation with a scalar operand. -/
def Vicmpfunct6.scalarForm : Vicmpfunct6 → Vxcmpfunct6
  | .VICMP_VMSEQ => .VXCMP_VMSEQ
  | .VICMP_VMSNE => .VXCMP_VMSNE
  | .VICMP_VMSLEU => .VXCMP_VMSLEU
  | .VICMP_VMSLE => .VXCMP_VMSLE
  | .VICMP_VMSGTU => .VXCMP_VMSGTU
  | .VICMP_VMSGT => .VXCMP_VMSGT

/-- The carry into element `i`. -/
def State.carry (s : State) (i : ℕ) : ℕ := boolToNat (s.vmask 0#1 i)

/-- What an instruction computes from the registers in `s`. -/
def VextVmInst.spec (s : State) (c : VConf) : VextVmInst → VmSpec
  | .VVMTYPE f vs2 vs1 vd => .bits ⟨vd, s.body c.n c.lmul, fun i =>
      f.scalarForm.op (c.read s vs2 i) (c.read s vs1 i) (s.carry i)⟩
  | .VVMCTYPE f vs2 vs1 vd => .bits ⟨vd, s.body c.n c.lmul, fun i =>
      f.scalarForm.op (c.read s vs2 i) (c.read s vs1 i) 0⟩
  | .VVMSTYPE f vs2 vs1 vd => .elems (c.result s 1#1 vd fun i =>
      exactly (f.scalarForm.op (c.read s vs2 i) (c.read s vs1 i) (s.carry i)))
  | .VVCMPTYPE f vm vs2 vs1 vd => .bits ⟨vd, s.active c.n c.lmul (s.vmask vm), fun i =>
      f.scalarForm.op (c.read s vs2 i) (c.read s vs1 i)⟩
  | .VXMTYPE f vs2 rs1 vd => .bits ⟨vd, s.body c.n c.lmul, fun i =>
      f.op (c.read s vs2 i) (c.readX s rs1) (s.carry i)⟩
  | .VXMCTYPE f vs2 rs1 vd => .bits ⟨vd, s.body c.n c.lmul, fun i =>
      f.carryForm.op (c.read s vs2 i) (c.readX s rs1) 0⟩
  | .VXMSTYPE f vs2 rs1 vd => .elems (c.result s 1#1 vd fun i =>
      exactly (f.op (c.read s vs2 i) (c.readX s rs1) (s.carry i)))
  | .VXCMPTYPE f vm vs2 rs1 vd => .bits ⟨vd, s.active c.n c.lmul (s.vmask vm), fun i =>
      f.op (c.read s vs2 i) (c.readX s rs1)⟩
  | .VIMTYPE _ vs2 simm vd => .bits ⟨vd, s.body c.n c.lmul, fun i =>
      carryOut (c.read s vs2 i) (simm.signExtend c.sew) (s.carry i)⟩
  | .VIMCTYPE _ vs2 simm vd => .bits ⟨vd, s.body c.n c.lmul, fun i =>
      carryOut (c.read s vs2 i) (simm.signExtend c.sew) 0⟩
  | .VIMSTYPE _ vs2 simm vd => .elems (c.result s 1#1 vd fun i =>
      exactly (addCarry (c.read s vs2 i) (simm.signExtend c.sew) (s.carry i)))
  | .VICMPTYPE f vm vs2 simm vd => .bits ⟨vd, s.active c.n c.lmul (s.vmask vm), fun i =>
      f.scalarForm.op (c.read s vs2 i) (simm.signExtend c.sew)⟩

/-- **An instruction with masks that retires leaves behind what the table says.** -/
theorem VextVmInst.run_execute_ok {i : VextVmInst}
    (hrun : i.execute.run s = .ok (.RETIRE_SUCCESS, s')) :
    ∃ c, ConfOf s c ∧ (i.spec s c).Holds s s' := by
  cases i with
  | VVMTYPE f vs2 vs1 vd =>
      refine run_carryInOut_ok (fun a b carry => f.scalarForm.op a b carry) (fun _ _ hv => run_srcV_ok hv) ?_
      cases f <;> exact hrun
  | VVMCTYPE f vs2 vs1 vd =>
      refine run_carryOutOnly_ok (fun a b carry => f.scalarForm.op a b carry) (fun _ _ hv => run_srcV_ok hv) ?_
      cases f <;> exact hrun
  | VVMSTYPE f vs2 vs1 vd =>
      refine run_carryIn_ok (fun a b carry => f.scalarForm.op a b carry) (fun _ _ hv => run_srcV_ok hv) ?_
      cases f <;> exact hrun
  | VVCMPTYPE f vm vs2 vs1 vd =>
      refine run_vectorCompare_ok (fun a b => f.scalarForm.op a b) (fun _ _ hv => run_srcV_ok hv) ?_
      cases f <;> exact hrun
  | VXMTYPE f vs2 rs1 vd =>
      refine run_carryInOut_ok (fun a b carry => f.op a b carry) (fun _ _ hv => run_srcX_ok hv) ?_
      cases f <;> exact hrun
  | VXMCTYPE f vs2 rs1 vd =>
      refine run_carryOutOnly_ok (fun a b carry => f.carryForm.op a b carry) (fun _ _ hv => run_srcX_ok hv) ?_
      cases f <;> exact hrun
  | VXMSTYPE f vs2 rs1 vd =>
      refine run_carryIn_ok (fun a b carry => f.op a b carry) (fun _ _ hv => run_srcX_ok hv) ?_
      cases f <;> exact hrun
  | VXCMPTYPE f vm vs2 rs1 vd =>
      refine run_vectorCompare_ok (fun a b => f.op a b) (fun _ _ hv => run_srcX_ok hv) ?_
      cases f <;> exact hrun
  | VIMTYPE f vs2 simm vd =>
      cases f
      exact run_carryInOut_ok carryOut (fun _ _ hv => run_srcI_ok hv) hrun
  | VIMCTYPE f vs2 simm vd =>
      cases f
      exact run_carryOutOnly_ok carryOut (fun _ _ hv => run_srcI_ok hv) hrun
  | VIMSTYPE f vs2 simm vd =>
      cases f
      exact run_carryIn_ok addCarry (fun _ _ hv => run_srcI_ok hv) hrun
  | VICMPTYPE f vm vs2 simm vd =>
      refine run_vectorCompare_ok (fun a b => f.scalarForm.op a b) (fun _ _ hv => run_srcI_ok hv) ?_
      cases f <;> exact hrun

end SailRiscv
