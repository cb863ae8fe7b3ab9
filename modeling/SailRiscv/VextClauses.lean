/-
# The clauses of vector arithmetic

What an instruction of each kind of clause leaves behind when it retires: the clauses with
operands and a result of one width, the narrowing, widening and extending ones, the merges and
the moves.  The operands are the elements before the instruction.
-/
import SailRiscv.VextRuns
import SailRiscv.Insts.VextArith

namespace SailRiscv

open Bits Platform

variable [Platform] {s s' : State}

/-! ## The configuration -/

/-- `c` is the configuration in force. -/
structure ConfOf (s : State) (c : VConf) : Prop where
  sew : sewPow (Vtype.vsew.get s.vtype) = some c.sewPow
  lmul : lmulPow (Vtype.vlmul.get s.vtype) = some c.lmul
  n : c.n = groupRegs c.lmul * VLEN / c.sew
  pos : 0 < c.n

theorem run_vconf_ok {c : VConf} : vconf.run s = .ok (c, s') ↔ ConfOf s c ∧ s' = s := by
  unfold vconf
  constructor
  · intro h
    obtain ⟨p, hp, h⟩ := run_bind_reads h
    obtain ⟨l, hl, h⟩ := run_bind_reads h
    obtain ⟨n, hn, h⟩ := run_bind_reads h
    unfold getNumElem at hn
    obtain ⟨_, hpos, hn⟩ := run_bind_reads hn
    cases hn
    cases h
    exact ⟨⟨(run_getSewPow_ok.mp hp).1, (run_getLmulPow_ok.mp hl).1, rfl,
      of_decide_eq_true (run_assert_ok.mp hpos).1⟩, rfl⟩
  · rintro ⟨⟨hp, hl, hn, hpos⟩, rfl⟩
    rcases c with ⟨p, l, n⟩
    dsimp only at hp hl hn hpos
    have hnum : (getNumElem l (2 ^ p)).run s' = .ok (n, s') := by
      unfold getNumElem
      have hpos' : decide (groupRegs l * VLEN / 2 ^ p > 0) = true :=
        decide_eq_true (lt_of_lt_of_eq hpos hn)
      dsimp only
      rw [hpos', Exec.run_bind_of_ok rfl]
      exact congrArg (fun k => Except.ok (k, s')) hn.symm
    rw [Exec.run_bind_of_ok (run_getSewPow_ok.mpr ⟨hp, rfl⟩),
      Exec.run_bind_of_ok (run_getLmulPow_ok.mpr ⟨hl, rfl⟩), Exec.run_bind_of_ok hnum]
    rfl

/-- The configuration is determined by `vtype`. -/
theorem ConfOf.unique {c c' : VConf} (h : ConfOf s c) (h' : ConfOf s c') : c = c' := by
  have hp := h.sew.symm.trans h'.sew
  have hl := h.lmul.symm.trans h'.lmul
  rcases c with ⟨p, l, n⟩
  rcases c' with ⟨p', l', n'⟩
  cases hp
  cases hl
  have hn := h.n.trans h'.n.symm
  cases hn
  rfl

/-- The registers of twice the width hold no more elements. -/
theorem groupLen_wide_le (c : VConf) :
    groupLen c.widen.sew c.widen.lmul ≤ groupLen c.sew c.lmul := by
  have hsew : c.widen.sew = c.sew * 2 := pow_succ 2 c.sewPow
  unfold groupLen perReg
  rw [hsew, ← Nat.div_div_eq_div_mul]
  have hhalf := Nat.div_mul_le_self (VLEN / c.sew) 2
  rcases lt_or_ge c.lmul 0 with hneg | hpos
  · have hone : groupRegs c.widen.lmul = 1 := by
      unfold groupRegs
      rw [Int.toNat_of_nonpos (by show c.lmul + 1 ≤ 0; omega), pow_zero]
    rw [hone, groupRegs_of_neg hneg, Nat.one_mul, Nat.one_mul]
    omega
  · have hdouble : groupRegs c.widen.lmul = groupRegs c.lmul * 2 := by
      unfold groupRegs
      rw [← pow_succ]
      congr 1
      show (c.lmul + 1).toNat = c.lmul.toNat + 1
      omega
    rw [hdouble, Nat.mul_assoc]
    exact Nat.mul_le_mul_left _ (by omega)

section

variable {c : VConf} (h : ConfOf s c)

include h

/-- The elements of the registers of a group. -/
theorem ConfOf.groupLen_le : groupLen c.sew c.lmul ≤ c.n := by
  rw [h.n]
  exact Nat.mul_div_le_mul_div_assoc _ _ _

/-- The elements of twice the width. -/
theorem ConfOf.groupLen_widen_le : groupLen c.widen.sew c.widen.lmul ≤ c.n :=
  le_trans (groupLen_wide_le c) h.groupLen_le

end

/-! ## Operands -/

/-- The elements of the group at `r`, as `read_vreg` returns them. -/
def VConf.read (c : VConf) (s : State) (r : Regidx) : ℕ → BitVec c.sew :=
  s.group c.n c.sew c.lmul r

/-- The mask of an instruction. -/
def State.vmask (s : State) (vm : BitVec 1) (i : ℕ) : Bool := vm == 1#1 || (s.V 0#5).getLsbD i

/-- A scalar register as an element. -/
def VConf.readX (c : VConf) (s : State) (rs1 : Regidx) : BitVec c.sew :=
  if c.sew ≤ xlen then (s.X rs1).setWidth c.sew else (s.X rs1).signExtend c.sew

theorem run_group_ok {c : VConf} {r : Regidx} {v : ℕ → BitVec c.sew}
    (h : (c.group r).run s = .ok (v, s')) : IsGroup c.lmul r ∧ v = c.read s r :=
  (run_readVreg_ok h).2

theorem run_scalar_ok {c : VConf} {r : Regidx} {v : BitVec c.sew}
    (h : (c.scalar r).run s = .ok (v, s')) : v = c.readX s r := by
  cases h
  rfl

theorem run_readVmask_ok {n : ℕ} {vm : BitVec 1} {v : ℕ → Bool}
    (h : (readVmask n vm 0#5).run s = .ok (v, s')) : v = s.vmask vm := by
  unfold readVmask at h
  obtain ⟨_, -, h⟩ := run_bind_reads h
  cases h
  rfl

theorem run_srcV_ok {c : VConf} {r : Regidx} {v : ℕ → BitVec c.sew}
    (h : (srcV r c).run s = .ok (v, s')) : v = c.read s r := (run_group_ok h).2

theorem run_srcX_ok {c : VConf} {r : Regidx} {v : ℕ → BitVec c.sew}
    (h : (srcX r c).run s = .ok (v, s')) : v = fun _ => c.readX s r := by
  cases h
  rfl

theorem run_srcI_ok {c : VConf} {simm : BitVec 5} {v : ℕ → BitVec c.sew}
    (h : (srcI simm c).run s = .ok (v, s')) : v = fun _ => simm.signExtend c.sew := by
  cases h
  rfl

section

variable {t : State} (h : SameRegs s t)

include h

theorem SameRegs.vl : t.vl = s.vl := congrArg VecRegs.vl h.vec

theorem SameRegs.vtype : t.vtype = s.vtype := congrArg VecRegs.vtype h.vec

theorem SameRegs.V (r : Regidx) : t.V r = s.V r :=
  congrFun (congrArg VecRegs.v h.vec) r.toFin

theorem SameRegs.rounding : t.rounding = s.rounding :=
  congrArg (fun v : VecRegs => roundingMode (Vcsr.vxrm.get v.vcsr)) h.vec

theorem SameRegs.confOf (c : VConf) : ConfOf t c ↔ ConfOf s c := by
  constructor
  · intro hc
    exact ⟨h.vtype ▸ hc.sew, h.vtype ▸ hc.lmul, hc.n, hc.pos⟩
  · intro hc
    exact ⟨h.vtype ▸ hc.sew, h.vtype ▸ hc.lmul, hc.n, hc.pos⟩

theorem SameRegs.elem (SEW : ℕ) (r : Regidx) (i : ℕ) : t.elem SEW r i = s.elem SEW r i := by
  unfold State.elem
  rw [h.V]

theorem SameRegs.group (n SEW : ℕ) (lmul : ℤ) (r : Regidx) :
    t.group n SEW lmul r = s.group n SEW lmul r := by
  funext i
  unfold State.group
  rw [h.V, h.elem]

theorem SameRegs.read (c : VConf) (r : Regidx) : c.read t r = c.read s r := h.group _ _ _ _

theorem SameRegs.readX (c : VConf) (r : Regidx) : c.readX t r = c.readX s r := by
  unfold VConf.readX State.X
  rw [h.x]

theorem SameRegs.vmask (vm : BitVec 1) : t.vmask vm = s.vmask vm := by
  funext i
  unfold State.vmask
  rw [h.V]

end

/-- The elements of the registers are the ones that are read. -/
theorem ConfOf.read_eq_elem {c : VConf} (h : ConfOf s c) (r : Regidx) {i : ℕ}
    (hi : i < groupLen c.sew c.lmul) : c.read s r i = s.elem c.sew r i :=
  group_eq_elem hi (lt_of_lt_of_le hi h.groupLen_le)

/-- The elements of twice the width. -/
theorem ConfOf.read_widen_eq_elem {c : VConf} (h : ConfOf s c) (r : Regidx) {i : ℕ}
    (hi : i < groupLen c.widen.sew c.widen.lmul) :
    c.widen.read s r i = s.elem c.widen.sew r i :=
  group_eq_elem hi (lt_of_lt_of_le hi h.groupLen_widen_le)

/-! ## The checks -/

/-- A check that passes. -/
theorem run_orIllegal_of_false {bad : State → Bool} {k : M Retired} (h : bad s = false) :
    (orIllegal bad k).run s = k.run s := by
  unfold orIllegal
  rw [Exec.run_bind_of_ok (Exec.run_reads _ _), h]
  rfl

/-- A check that fails. -/
theorem run_orIllegal_of_true {bad : State → Bool} {k : M Retired} (h : bad s = true) :
    (orIllegal bad k).run s = illegal.run s := by
  unfold orIllegal
  rw [Exec.run_bind_of_ok (Exec.run_reads _ _), h]
  rfl

/-- An instruction that retires has passed its check. -/
theorem run_orIllegal_ok {bad : State → Bool} {k : M Retired}
    (h : (orIllegal bad k).run s = .ok (.RETIRE_SUCCESS, s')) :
    bad s = false ∧ k.run s = .ok (.RETIRE_SUCCESS, s') := by
  unfold orIllegal at h
  rw [Exec.run_bind_of_ok (Exec.run_reads _ _)] at h
  cases hbad : bad s with
  | true =>
      rw [hbad] at h
      obtain ⟨_, _, -, hfail⟩ := Exec.run_bind_ok.mp h
      cases hfail
  | false =>
      rw [hbad] at h
      exact ⟨rfl, h⟩

/-! ## What the clauses leave behind -/

/-- The elements that a clause computes: their group, those of them that are active, and for each
one its value and whether it sets `vxsat`. -/
structure VecSpec where
  sew : ℕ
  lmul : ℤ
  vd : Regidx
  n : ℕ
  active : ℕ → Bool
  elem : ℕ → BitVec sew × Bool

/-- An instruction that computes the elements `f` takes `s` to `s'`. -/
structure VecSpec.Holds (f : VecSpec) (s s' : State) : Prop where
  group : IsGroup f.lmul f.vd
  outcome : VecOutcome f.sew f.lmul f.vd f.active (fun i => (f.elem i).1)
    (anySat f.n f.active fun i => (f.elem i).2) s s'

/-- The elements of the width in force. -/
def VConf.result (c : VConf) (s : State) (vm : BitVec 1) (vd : Regidx)
    (elem : ℕ → BitVec c.sew × Bool) : VecSpec :=
  ⟨c.sew, c.lmul, vd, c.n, s.active c.n c.lmul (s.vmask vm), elem⟩

/-- The elements of twice the width. -/
def VConf.wideResult (c : VConf) (s : State) (vm : BitVec 1) (vd : Regidx)
    (elem : ℕ → BitVec c.widen.sew × Bool) : VecSpec :=
  ⟨c.widen.sew, c.widen.lmul, vd, c.n, s.active c.n c.widen.lmul (s.vmask vm), elem⟩

/-- A clause that computes an element as `f` says. -/
def ComputesElem {m : ℕ} (s : State) (x : M (Option (BitVec m))) (f : BitVec m × Bool) : Prop :=
  Computes s x f.1 f.2

/-- An element without side effects. -/
theorem computes_just {α : Type} (s : State) (a : α) : Computes s (just a) a false := by
  intro b r t h
  cases h
  exact ⟨rfl, rfl⟩

/-- A computation of an element whose runs are known. -/
theorem computes_value {α : Type} {x : M α} {a : α} {b : Bool}
    (h : ∀ c, x.run (s.satIf c) = .ok (a, (s.satIf c).satIf b)) : Computes s (value x) a b := by
  intro c r t hrun
  unfold value at hrun
  rw [Exec.run_bind_of_ok (h c)] at hrun
  cases hrun
  exact ⟨rfl, rfl⟩

/-- The clauses with operands and a result of one width. -/
theorem run_sameWidth_ok {β : VConf → Type} {vm : BitVec 1} {vd vs2 : Regidx}
    {src1 : (c : VConf) → M (β c)} [∀ c, Reads (src1 c)]
    {elem : (c : VConf) → β c → (v2 old : ℕ → BitVec c.sew) → ℕ → M (Option (BitVec c.sew))}
    {f : (c : VConf) → ℕ → BitVec c.sew × Bool}
    (h : ∀ c, ConfOf s c → ∀ v1, (src1 c).run s = .ok (v1, s) → ∀ t, SameRegs s t →
      ∀ i < c.n, s.active c.n c.lmul (s.vmask vm) i = true →
        ComputesElem t (elem c v1 (c.read s vs2) (c.read s vd) i) (f c i))
    (hrun : (sameWidth vm vd vs2 src1 elem).run s = .ok (.RETIRE_SUCCESS, s')) :
    ∃ c, ConfOf s c ∧ (c.result s vm vd (f c)).Holds s s' := by
  unfold sameWidth at hrun
  obtain ⟨c, hc, hrun⟩ := run_bind_reads hrun
  obtain ⟨-, hrun⟩ := run_orIllegal_ok hrun
  obtain ⟨vmVal, hvm, hrun⟩ := run_bind_reads hrun
  obtain ⟨v1, hv1, hrun⟩ := run_bind_reads hrun
  obtain ⟨v2, hv2, hrun⟩ := run_bind_reads hrun
  obtain ⟨old, hold, hrun⟩ := run_bind_reads hrun
  have hconf := (run_vconf_ok.mp hc).1
  obtain rfl := run_readVmask_ok hvm
  obtain ⟨-, rfl⟩ := run_group_ok hv2
  obtain ⟨hgroup, rfl⟩ := run_group_ok hold
  exact ⟨c, hconf, hgroup, run_writeElems_ok hgroup hconf.groupLen_le
    (fun i hi => hconf.read_eq_elem vd hi) (h c hconf v1 hv1) hrun⟩

/-- The narrowing clauses. -/
theorem run_narrowing_ok {β : VConf → Type} {vm : BitVec 1} {vd vs2 : Regidx}
    {src1 : (c : VConf) → M (β c)} [∀ c, Reads (src1 c)]
    {elem : (c : VConf) → β c → (ℕ → BitVec c.widen.sew) → ℕ → M (BitVec c.sew)}
    {f : (c : VConf) → ℕ → BitVec c.sew × Bool}
    (h : ∀ c, ConfOf s c → ∀ v1, (src1 c).run s = .ok (v1, s) → ∀ t, SameRegs s t →
      ∀ i < c.n, s.active c.n c.lmul (s.vmask vm) i = true →
        ComputesElem t (value (elem c v1 (c.widen.read s vs2) i)) (f c i))
    (hrun : (narrowing vm vd vs2 src1 elem).run s = .ok (.RETIRE_SUCCESS, s')) :
    ∃ c, ConfOf s c ∧ (c.result s vm vd (f c)).Holds s s' := by
  unfold narrowing at hrun
  obtain ⟨c, hc, hrun⟩ := run_bind_reads hrun
  obtain ⟨-, hrun⟩ := run_orIllegal_ok hrun
  obtain ⟨vmVal, hvm, hrun⟩ := run_bind_reads hrun
  obtain ⟨old, hold, hrun⟩ := run_bind_reads hrun
  obtain ⟨v1, hv1, hrun⟩ := run_bind_reads hrun
  obtain ⟨v2, hv2, hrun⟩ := run_bind_reads hrun
  have hconf := (run_vconf_ok.mp hc).1
  obtain rfl := run_readVmask_ok hvm
  obtain ⟨-, rfl⟩ := run_group_ok hv2
  obtain ⟨hgroup, rfl⟩ := run_group_ok hold
  -- the assertion on the wide elements comes between the two parts of `writeElems`
  have hwrite : (writeElems c.n c.sew c.lmul vd (c.read s vd) (s.vmask vm)
      (fun i => value (elem c v1 (c.widen.read s vs2) i))).run s = .ok (.RETIRE_SUCCESS, s') := by
    unfold writeElems
    obtain ⟨init, t, hinit, hrun⟩ := Exec.run_bind_ok.mp hrun
    obtain ⟨_, -, hrun⟩ := run_bind_reads hrun
    exact Exec.run_bind_ok.mpr ⟨init, t, hinit, hrun⟩
  exact ⟨c, hconf, hgroup, run_writeElems_ok hgroup hconf.groupLen_le
    (fun i hi => hconf.read_eq_elem vd hi) (h c hconf v1 hv1) hwrite⟩

/-- The widening clauses. -/
theorem run_widening_ok {β γ : VConf → Type} {vm : BitVec 1} {vd : Regidx}
    {overlap : VConf → Bool} {src1 : (c : VConf) → M (β c)} {src2 : (c : VConf) → M (γ c)}
    [∀ c, Reads (src1 c)] [∀ c, Reads (src2 c)]
    {elem : (c : VConf) → β c → γ c → (ℕ → BitVec c.widen.sew) → ℕ → BitVec c.widen.sew}
    {f : (c : VConf) → ℕ → BitVec c.widen.sew}
    (h : ∀ c, ConfOf s c → ∀ v1, (src1 c).run s = .ok (v1, s) → ∀ v2,
      (src2 c).run s = .ok (v2, s) → ∀ i, elem c v1 v2 (c.widen.read s vd) i = f c i)
    (hrun : (widening vm vd overlap src1 src2 elem).run s = .ok (.RETIRE_SUCCESS, s')) :
    ∃ c, ConfOf s c ∧ (c.wideResult s vm vd (fun i => (f c i, false))).Holds s s' := by
  unfold widening at hrun
  obtain ⟨c, hc, hrun⟩ := run_bind_reads hrun
  obtain ⟨-, hrun⟩ := run_orIllegal_ok hrun
  obtain ⟨vmVal, hvm, hrun⟩ := run_bind_reads hrun
  obtain ⟨old, hold, hrun⟩ := run_bind_reads hrun
  obtain ⟨v1, hv1, hrun⟩ := run_bind_reads hrun
  obtain ⟨v2, hv2, hrun⟩ := run_bind_reads hrun
  have hconf := (run_vconf_ok.mp hc).1
  obtain rfl := run_readVmask_ok hvm
  obtain ⟨hgroup, rfl⟩ := run_group_ok (c := c.widen) hold
  refine ⟨c, hconf, hgroup, run_writeElems_ok hgroup hconf.groupLen_widen_le
    (fun i hi => hconf.read_widen_eq_elem vd hi) (fun t _ i _ _ => ?_) hrun⟩
  rw [h c hconf v1 hv1 v2 hv2 i]
  exact computes_just t _

/-- The extensions. -/
theorem run_extension_ok {k : ℕ} {signed : Bool} {vm : BitVec 1} {vd vs2 : Regidx}
    (hrun : (extension k signed vm vs2 vd).run s = .ok (.RETIRE_SUCCESS, s')) :
    ∃ c, ConfOf s c ∧ (c.result s vm vd (fun i =>
      (if signed then ((c.narrow k).read s vs2 i).signExtend c.sew
        else ((c.narrow k).read s vs2 i).setWidth c.sew, false))).Holds s s' := by
  unfold extension at hrun
  obtain ⟨c, hc, hrun⟩ := run_bind_reads hrun
  obtain ⟨-, hrun⟩ := run_orIllegal_ok hrun
  obtain ⟨vmVal, hvm, hrun⟩ := run_bind_reads hrun
  obtain ⟨old, hold, hrun⟩ := run_bind_reads hrun
  obtain ⟨v2, hv2, hrun⟩ := run_bind_reads hrun
  have hconf := (run_vconf_ok.mp hc).1
  obtain rfl := run_readVmask_ok hvm
  obtain ⟨-, rfl⟩ := run_group_ok hv2
  obtain ⟨hgroup, rfl⟩ := run_group_ok hold
  exact ⟨c, hconf, hgroup, run_writeElems_ok hgroup hconf.groupLen_le
    (fun i hi => hconf.read_eq_elem vd hi) (fun t _ i _ _ => computes_just t _) hrun⟩

/-- The moves to all elements. -/
theorem run_executeMove_ok {vd : Regidx} {src1 : Src1} [∀ c, Reads (src1 c)]
    {v1 : (c : VConf) → ℕ → BitVec c.sew}
    (hsrc : ∀ c v, (src1 c).run s = .ok (v, s) → v = v1 c)
    (hrun : (executeMove vd src1).run s = .ok (.RETIRE_SUCCESS, s')) :
    ∃ c, ConfOf s c ∧ (c.result s 1#1 vd (fun i => (v1 c i, false))).Holds s s' := by
  unfold executeMove at hrun
  obtain ⟨c, hc, hrun⟩ := run_bind_reads hrun
  obtain ⟨-, hrun⟩ := run_orIllegal_ok hrun
  obtain ⟨vmVal, hvm, hrun⟩ := run_bind_reads hrun
  obtain ⟨v, hv, hrun⟩ := run_bind_reads hrun
  obtain ⟨old, hold, hrun⟩ := run_bind_reads hrun
  have hconf := (run_vconf_ok.mp hc).1
  obtain rfl := run_readVmask_ok hvm
  obtain rfl := hsrc c v hv
  obtain ⟨hgroup, rfl⟩ := run_group_ok hold
  exact ⟨c, hconf, hgroup, run_writeElems_ok hgroup hconf.groupLen_le
    (fun i hi => hconf.read_eq_elem vd hi) (fun t _ i _ _ => computes_just t _) hrun⟩

/-- The elements that a merge computes. -/
def VConf.mergeResult (c : VConf) (s : State) (vd : Regidx) (elem : ℕ → BitVec c.sew × Bool) :
    VecSpec :=
  ⟨c.sew, c.lmul, vd, c.n, mergeBody c s.vstart.toNat ((s.vl.toNat : ℤ) - 1), elem⟩

omit [Platform] in
theorem anySat_never (n : ℕ) (active : ℕ → Bool) : anySat n active (fun _ => false) = false := by
  unfold anySat
  simp

/-- The merges: an element of the first operand where the mask is set. -/
theorem run_executeMerge_ok {vd vs2 : Regidx} {src1 : Src1} [∀ c, Reads (src1 c)]
    {v1 : (c : VConf) → ℕ → BitVec c.sew}
    (hsrc : ∀ t, SameRegs s t → ∀ c v, (src1 c).run t = .ok (v, t) → v = v1 c)
    (hrun : (executeMerge vs2 vd src1).run s = .ok (.RETIRE_SUCCESS, s')) :
    ∃ c, ConfOf s c ∧ (c.mergeResult s vd (fun i =>
      (if s.vmask 0#1 i then v1 c i else c.read s vs2 i, false))).Holds s s' := by
  unfold executeMerge at hrun
  obtain ⟨start, t, hstart, hrun⟩ := Exec.run_bind_ok.mp hrun
  obtain ⟨rfl, hsame, -⟩ := run_getStartElement_ok hstart
  obtain ⟨last, hlast, hrun⟩ := run_bind_reads hrun
  obtain ⟨c, hc, hrun⟩ := run_bind_reads hrun
  obtain ⟨-, hrun⟩ := run_orIllegal_ok hrun
  obtain ⟨vmVal, hvm, hrun⟩ := run_bind_reads hrun
  obtain ⟨v, hv, hrun⟩ := run_bind_reads hrun
  obtain ⟨v2, hv2, hrun⟩ := run_bind_reads hrun
  obtain ⟨old, hold, hrun⟩ := run_bind_reads hrun
  cases hlast
  have hconf := (hsame.confOf c).mp (run_vconf_ok.mp hc).1
  obtain rfl := run_readVmask_ok hvm
  obtain rfl := hsrc t hsame c v hv
  obtain ⟨-, rfl⟩ := run_group_ok hv2
  obtain ⟨hgroup, rfl⟩ := run_group_ok hold
  refine ⟨c, hconf, hgroup, ?_⟩
  show VecOutcome c.sew c.lmul vd _ _ (anySat _ _ fun _ => false) s s'
  rw [anySat_never]
  refine outcome_of_write (t := t) hgroup hsame (fun i hi => ?_) hrun
  show (if mergeBody c s.vstart.toNat ((t.vl.toNat : ℤ) - 1) i
    then (if t.vmask 0#1 i then v1 c i else c.read t vs2 i) else c.read t vd i) = _
  rw [hsame.vmask, hsame.read, hsame.read, hconf.read_eq_elem vd hi, hsame.vl]
  rfl

end SailRiscv
