/-
# The late checks of vector instructions

The gathers and the upward slides look at the overlap of their registers in the loop over the
active elements.  This is the only way in which the data decides whether a vector instruction of
arithmetic or permutation raises an illegal-instruction exception.
-/
import SailRiscv.VextLegality
import SailRiscv.VextMaskRuns

namespace SailRiscv

open Bits Platform

variable [Platform] {s t : State} {c : VConf}

/-! ## The checks -/

/-- A check of overlapping registers that a clause makes at each active element: the mask bit and
the destination of the clause, the groups that it has read before, and whether it is one of
floating point. -/
structure LateCheck where
  vm : BitVec 1
  vd : Regidx
  groups : List Regidx
  fp : Bool

/-- The late check of an instruction whose registers overlap. -/
def VextArithInst.lateCheck : VextArithInst → Option LateCheck
  | .VVTYPE .VV_VRGATHER vm vs2 vs1 vd | .VVTYPE .VV_VRGATHEREI16 vm vs2 vs1 vd =>
      if vs1 == vd || vs2 == vd then some ⟨vm, vd, [vs1, vs2, vd], false⟩ else none
  | .VXSG .VX_VSLIDEUP vm vs2 _ vd | .VXSG .VX_VRGATHER vm vs2 _ vd
  | .VISG .VI_VSLIDEUP vm vs2 _ vd | .VISG .VI_VRGATHER vm vs2 _ vd
  | .MVXTYPE .MVX_VSLIDE1UP vm vs2 _ vd =>
      if vs2 == vd then some ⟨vm, vd, [vs2, vd], false⟩ else none
  | _ => none

/-- The late check of an instruction whose registers overlap. -/
def VextFpInst.lateCheck : VextFpInst → Option LateCheck
  | .FVFTYPE .VF_VSLIDE1UP vm vs2 _ vd =>
      if vs2 == vd then some ⟨vm, vd, [vs2, vd], true⟩ else none
  | _ => none

/-- The late check of an instruction whose registers overlap. -/
def Ast.lateCheck : Ast → Option LateCheck
  | .VEXT_ARITH i => i.lateCheck
  | .VEXT_FP i => i.lateCheck
  | _ => none

/-- A vector instruction of arithmetic or permutation. -/
def Ast.IsVectorOp : Ast → Prop
  | .VEXT_ARITH _ | .VEXT_FP _ | .VEXT_MASK _ | .VEXT_VM _ | .VEXT_RED _ => True
  | _ => False

namespace LateCheck

/-- The check that the clause makes before the loop. -/
def early (l : LateCheck) (s : State) (c : VConf) : Bool :=
  if l.fp then illegalFpNormal s l.vd l.vm c.sew (Fcsr.FRM.get s.fcsr)
  else illegalNormal s l.vd l.vm

/-- The operands can be read: the registers are groups, and there is the scalar register of a
floating-point clause. -/
structure Readable (l : LateCheck) (c : VConf) : Prop where
  groups : ∀ r ∈ l.groups, IsGroup c.lmul r
  scalar : l.fp = true → c.sew ≤ flen ∧ (sysEnableFdext && !sysEnableZfinx) = true

/-- There is an active element. -/
def HasActive (l : LateCheck) (s : State) (c : VConf) : Prop :=
  ∃ j, s.active c.n c.lmul (s.vmask l.vm) j = true

/-- The clause raises the exception, at one check or at the other. -/
def Raises (l : LateCheck) (s : State) : Prop :=
  TakesTrap s ∧ ∃ c, ConfOf s c ∧ (l.early s c = true ∨ l.Readable c ∧ l.HasActive s c)

end LateCheck

/-! ## Instructions without a late check -/

omit [Platform] in
/-- The registers of an instruction without a late check do not overlap. -/
theorem eq_false_of_late_none {b : Bool} {l : LateCheck}
    (h : (if b then some l else none) = none) : b = false := by
  cases b with
  | true => cases h
  | false => rfl

theorem VextArithInst.decidesEarly {i : VextArithInst} (h : i.lateCheck = none) :
    DecidesEarly i.execute := by
  unfold VextArithInst.execute
  cases i with
  | VVTYPE f vm vs2 vs1 vd =>
      refine decidesEarly_sameWidth fun c v1 v2 old i => ?_
      cases f with
      | VV_VRGATHER =>
          rw [eq_false_of_late_none h]
          exact goesOn_gather _ _ _
      | VV_VRGATHEREI16 =>
          rw [eq_false_of_late_none h]
          exact goesOn_gather _ _ _
      | _ => infer_instance
  | VXSG f vm vs2 rs1 vd =>
      refine decidesEarly_sameWidth fun c v1 v2 old i => ?_
      cases f with
      | VX_VSLIDEUP =>
          rw [eq_false_of_late_none h]
          exact goesOn_slideUp _ _ _ _ _
      | VX_VSLIDEDOWN => infer_instance
      | VX_VRGATHER =>
          rw [eq_false_of_late_none h]
          exact goesOn_gather _ _ _
  | VISG f vm vs2 simm vd =>
      refine decidesEarly_sameWidth fun c v1 v2 old i => ?_
      cases f with
      | VI_VSLIDEUP =>
          rw [eq_false_of_late_none h]
          exact goesOn_slideUp _ _ _ _ _
      | VI_VSLIDEDOWN => infer_instance
      | VI_VRGATHER =>
          rw [eq_false_of_late_none h]
          exact goesOn_gather _ _ _
  | MVXTYPE f vm vs2 rs1 vd =>
      refine decidesEarly_sameWidth fun c v1 v2 old i => ?_
      cases f with
      | MVX_VSLIDE1UP =>
          rw [eq_false_of_late_none h]
          exact goesOn_slide1Up _ _ _
      | _ => infer_instance
  | VXTYPE f vm vs2 rs1 vd =>
      refine decidesEarly_sameWidth fun c v1 v2 old i => ?_
      cases f <;> infer_instance
  | VITYPE f vm vs2 simm vd =>
      refine decidesEarly_sameWidth fun c v1 v2 old i => ?_
      cases f <;> infer_instance
  | MVVTYPE f vm vs2 vs1 vd =>
      refine decidesEarly_sameWidth fun c v1 v2 old i => ?_
      cases f <;> infer_instance
  | MVVMATYPE f vm vs2 vs1 vd =>
      refine decidesEarly_sameWidth fun c v1 v2 old i => ?_
      cases f <;> infer_instance
  | MVXMATYPE f vm vs2 rs1 vd =>
      refine decidesEarly_sameWidth fun c v1 v2 old i => ?_
      cases f <;> infer_instance
  | _ =>
      unfold executeNVSTYPE executeNVTYPE executeMASKTYPEV executeMOVETYPEV executeNXSTYPE
        executeNXTYPE executeMASKTYPEX executeMOVETYPEX executeNISTYPE executeNITYPE
        executeMASKTYPEI executeMOVETYPEI executeWVVTYPE executeWVTYPE executeWMVVTYPE
        executeVEXT2TYPE executeVEXT4TYPE executeVEXT8TYPE executeWVXTYPE executeWXTYPE
        executeWMVXTYPE
      infer_instance

theorem VextFpInst.decidesEarly [SoftFloat] {i : VextFpInst} (h : i.lateCheck = none) :
    DecidesEarly i.execute := by
  unfold VextFpInst.execute
  cases i with
  | FVFTYPE f vm vs2 rs1 vd =>
      refine decidesEarly_fpSameWidth fun c rm g v1 v2 old i => ?_
      cases f with
      | VF_VSLIDE1UP =>
          rw [eq_false_of_late_none h]
          exact goesOn_slide1Up _ _ _
      | _ => infer_instance
  | RFVVTYPE f vm vs2 vs1 vd =>
      show DecidesEarly (executeRFVVTYPE f vm vs2 vs1 vd)
      unfold executeRFVVTYPE processRfvvWiden processRfvvSingle
      infer_instance
  | FVVTYPE f vm vs2 vs1 vd =>
      refine decidesEarly_fpSameWidth fun c rm g v1 v2 old i => ?_
      cases f <;> infer_instance
  | FVVMATYPE f vm vs2 vs1 vd =>
      exact decidesEarly_fpSameWidth fun c rm g v1 v2 old i => inferInstance
  | FVFMATYPE f vm vs2 rs1 vd =>
      exact decidesEarly_fpSameWidth fun c rm g v1 v2 old i => inferInstance
  | VFUNARY0 vm vs2 f vd =>
      refine decidesEarly_fpSameWidth fun c rm g v1 v2 old i => ?_
      cases f <;> infer_instance
  | VFUNARY1 vm vs2 f vd =>
      refine decidesEarly_fpSameWidth fun c rm g v1 v2 old i => ?_
      cases f <;> infer_instance
  | _ =>
      unfold executeFWVVTYPE executeFWVVMATYPE executeFWVTYPE executeVFWUNARY0 executeVFNUNARY0
        executeVFMVFS executeFWVFTYPE executeFWVFMATYPE executeFWFTYPE executeVFMERGE executeVFMV
        executeVFMVSF executeFVVMTYPE executeFVFMTYPE
      infer_instance

/-- An instruction without a late check. -/
theorem Ast.decidesEarly [SoftFloat] {i : Ast} (hi : i.IsVectorOp) (h : i.lateCheck = none) :
    DecidesEarly i.execute := by
  cases i with
  | VEXT_ARITH i => exact VextArithInst.decidesEarly h
  | VEXT_FP i => exact VextFpInst.decidesEarly h
  | VEXT_MASK i => exact inferInstanceAs (DecidesEarly i.execute)
  | VEXT_VM i => exact inferInstanceAs (DecidesEarly i.execute)
  | VEXT_RED i => exact inferInstanceAs (DecidesEarly i.execute)
  | _ => cases hi

/-! ## The loop that meets an illegal element -/

/-- The loop from `start` on. -/
theorem run_foreachActive_none {α : Type} {mask : ℕ → Bool} (n start : ℕ) (init : ℕ → α) :
    (Exec.foreachTry start n init fun i r =>
      if mask i then do
        let v ← pure none
        pure (v.map (Function.update r i))
      else pure (some r) : M (Option (ℕ → α))).run s
      = .ok (if (List.range' start n).any mask then none else some init, s) := by
  induction n generalizing start with
  | zero => rfl
  | succ n ih =>
      rw [Exec.foreachTry, List.range'_succ, List.any_cons]
      cases hm : mask start with
      | true => rfl
      | false => exact ih (start + 1)

/-- The loop ends at the first active element. -/
theorem run_forActive_none {α : Type} (n : ℕ) (mask : ℕ → Bool) (init : ℕ → α) :
    (forActive n mask init fun _ => pure none).run s
      = .ok (if (List.range n).any mask then none else some init, s) := by
  rw [List.range_eq_range']
  exact run_foreachActive_none n 0 init

/-! ## Groups that can be read -/

theorem run_assert_of {b : Bool} {msg : String} (h : b = true) :
    (assert b msg).run s = .ok ((), s) := by
  rw [h]
  rfl

/-- The elements of a register can be read. -/
theorem run_readSingleVreg_total {n SEW : ℕ} (r : Regidx) (hsew : 8 ≤ SEW ∧ SEW ≤ 64) :
    ∃ v, (readSingleVreg n SEW r).run s = .ok (v, s) := by
  unfold readSingleVreg
  rw [Exec.run_bind_of_ok rfl, Exec.run_bind_of_ok (run_assert_of (decide_eq_true hsew))]
  exact ⟨_, rfl⟩

/-- A loop of which all parts can be read. -/
theorem run_foreach_total {α : Type} {body : ℕ → α → M α} (n start : ℕ) (acc : α)
    (h : ∀ i < start + n, ∀ a, ∃ b, (body i a).run s = .ok (b, s)) :
    ∃ b, (Exec.foreach start n acc body).run s = .ok (b, s) := by
  induction n generalizing start acc with
  | zero =>
      rw [Exec.foreach]
      exact ⟨acc, rfl⟩
  | succ n ih =>
      rw [Exec.foreach]
      obtain ⟨b, hb⟩ := h start (by omega) acc
      rw [Exec.run_bind_of_ok hb]
      exact ih (start + 1) b fun i hi => h i (by omega)

/-- A group can be read exactly when it is one. -/
theorem run_readVreg_iff {n SEW : ℕ} {lmul : ℤ} {r : Regidx} (hsew : 8 ≤ SEW ∧ SEW ≤ 64)
    (hn : groupLen SEW lmul ≤ n) :
    (∃ v, (readVreg n SEW lmul r).run s = .ok (v, s)) ↔ IsGroup lmul r := by
  constructor
  · rintro ⟨v, hv⟩
    exact (run_readVreg_ok hv).2.1
  · intro hg
    unfold readVreg
    rw [Exec.run_bind_of_ok (run_assert_of (decide_eq_true hg.le)),
      Exec.run_bind_of_ok (run_assert_of (decide_eq_true hg.aligned))]
    split
    · exact run_readSingleVreg_total r hsew
    · refine run_foreach_total _ 0 _ ?_
      intro k hk acc
      obtain ⟨v, hv⟩ := run_readSingleVreg_total (s := s) (n := VLEN / SEW) (groupReg r k) hsew
      have hin : ∀ j < VLEN / SEW, k * (VLEN / SEW) + j < n := by
        intro j hj
        calc k * (VLEN / SEW) + j < (k + 1) * (VLEN / SEW) := by rw [Nat.succ_mul]; omega
          _ ≤ groupRegs lmul * (VLEN / SEW) := Nat.mul_le_mul_right _ (by omega)
          _ ≤ n := hn
      have hassert : (assertInGroup n (VLEN / SEW) k).run s = .ok ((), s) :=
        run_assert_of (decide_eq_true hin)
      dsimp only
      rw [Exec.run_bind_of_ok hv, Exec.run_bind_of_ok hassert]
      exact ⟨_, rfl⟩

/-! ## The clauses with a late check -/

/-- The number of elements of a group. -/
theorem ConfOf.n_le_VLEN (hc : ConfOf s c) : c.n ≤ VLEN := by
  obtain ⟨hlo, -⟩ := hc.sew_bounds
  have hregs : groupRegs c.lmul ≤ 8 := by
    have hlmul := (lmulPow_bounds hc.lmul).2
    exact Nat.pow_le_pow_right (by omega) (show c.lmul.toNat ≤ 3 by omega)
  have hsew : 8 ≤ c.sew := le_trans (le_refl (2 ^ 3)) (Nat.pow_le_pow_right (by omega) hlo)
  calc c.n = groupRegs c.lmul * VLEN / c.sew := hc.n
    _ ≤ 8 * VLEN / 8 := Nat.div_le_div (Nat.mul_le_mul_right _ hregs) hsew (by omega)
    _ = VLEN := Nat.mul_div_cancel_left _ (by omega)

/-- There are at most as many elements as a register has bits. -/
theorem ConfOf.n_le (hc : ConfOf s c) : c.n ≤ vlenmax := le_trans hc.n_le_VLEN VLEN_le

/-- The body at `vstart` zero, of any number of elements. -/
theorem ConfOf.run_initMasked_zero (hc : ConfOf s c) (hstart : s.vstart = 0#16) {α : Type}
    (n : ℕ) (lmul : ℤ) (old : ℕ → α) (vm : ℕ → Bool) :
    (initMaskedResult n lmul old vm).run s = .ok ((old, s.active n lmul vm), s) := by
  have hget : getStartElement.run s = .ok (s.vstart.toNat, s) := by
    rw [run_getStartElement_zero hstart, Exec.run_bind_of_ok (run_getSewPow_ok.mpr ⟨hc.sew, rfl⟩),
      hstart]
    rfl
  have hreal : decide (n ≥ realNumElem n lmul) = true := by
    refine decide_eq_true ?_
    unfold realNumElem
    split
    · exact le_rfl
    · exact Nat.div_le_self _ _
  unfold initMaskedResult bodyOf
  rw [bind_assoc, Exec.run_bind_of_ok hget, bind_assoc, Exec.run_bind_of_ok rfl, bind_assoc,
    Exec.run_bind_of_ok (run_assert_of hreal)]
  rfl

/-- The elements of the body are those of the configuration. -/
theorem run_initMasked_total {α : Type} {vm : ℕ → Bool} {old : ℕ → α} (hc : ConfOf s c)
    (hstart : s.vstart = 0#16) :
    (initMaskedResult c.n c.lmul old vm).run s = .ok ((old, s.active c.n c.lmul vm), s) :=
  hc.run_initMasked_zero hstart _ _ _ _

/-- The end of a clause whose registers overlap. -/
theorem raises_writeElems {SEW : ℕ} {lmul : ℤ} {vd : Regidx} {vm : ℕ → Bool}
    {old : ℕ → BitVec SEW} (hc : ConfOf s c) (hstart : s.vstart = 0#16) (hlmul : c.lmul = lmul) :
    RaisesIllegal (writeElems c.n SEW lmul vd old vm fun _ => pure none) s
      ↔ TakesTrap s ∧ ∃ j, s.active c.n c.lmul vm j = true := by
  subst hlmul
  have hany : (List.range c.n).any (s.active c.n c.lmul vm) = true
      ↔ ∃ j, s.active c.n c.lmul vm j = true := by
    rw [List.any_eq_true]
    constructor
    · rintro ⟨j, -, hj⟩
      exact ⟨j, hj⟩
    · rintro ⟨j, hj⟩
      exact ⟨j, List.mem_range.mpr (lt_of_active hj), hj⟩
  unfold writeElems
  rw [raisesIllegal_bind_of_ok (run_initMasked_total hc hstart),
    raisesIllegal_bind_of_ok (run_forActive_none _ _ _), ← hany]
  cases (List.range c.n).any (s.active c.n c.lmul vm) with
  | true => exact raisesIllegal_illegal.trans (and_iff_left rfl).symm
  | false =>
      refine iff_of_false (not_raises_of_neverFails ?_) (fun h => Bool.false_ne_true h.2)
      exact inferInstanceAs (NeverFails (do
        writeVreg c.n SEW c.lmul vd old
        endVector))

/-- A part that only reads, and the rest of a clause. -/
theorem raises_bind_reads {α : Type} {m : M α} [hm : Reads m] {k : α → M Retired} {p : Prop}
    (hk : ∀ a, m.run s = .ok (a, s) → (RaisesIllegal (k a) s ↔ p)) :
    RaisesIllegal (m >>= k) s ↔ (∃ a, m.run s = .ok (a, s)) ∧ p := by
  rcases hm.run_cases s with ⟨a, ha⟩ | ⟨e, -, he⟩
  · rw [raisesIllegal_bind_of_ok ha, hk a ha]
    exact (and_iff_right ⟨a, ha⟩).symm
  · refine iff_of_false ?_ ?_
    · rintro ⟨s', hs'⟩
      rw [Exec.run_bind_of_error he] at hs'
      cases hs'
    · rintro ⟨⟨a, ha⟩, -⟩
      rw [he] at ha
      cases ha

/-- The operands and the loop of a clause whose registers overlap. -/
theorem raises_operands {β : Type} {SEW : ℕ} {vm : BitVec 1} {vd vs2 : Regidx} {src1 : M β}
    [Reads src1] (hc : ConfOf s c) (hstart : s.vstart = 0#16) (hsew : SEW = c.sew) :
    RaisesIllegal (do
      let vmVal ← readVmask c.n vm 0b00000#5
      let _ ← src1
      let _ ← readVreg c.n SEW c.lmul vs2
      let old ← readVreg c.n SEW c.lmul vd
      writeElems c.n SEW c.lmul vd old vmVal fun _ => pure none) s
      ↔ ((∃ a, src1.run s = .ok (a, s)) ∧ IsGroup c.lmul vs2 ∧ IsGroup c.lmul vd)
        ∧ TakesTrap s ∧ ∃ j, s.active c.n c.lmul (s.vmask vm) j = true := by
  subst hsew
  have hbounds : 8 ≤ c.sew ∧ c.sew ≤ 64 := by
    obtain ⟨hlo, hhi⟩ := hc.sew_bounds
    exact ⟨Nat.pow_le_pow_right Nat.two_pos hlo, Nat.pow_le_pow_right Nat.two_pos hhi⟩
  have hmask : (readVmask c.n vm 0b00000#5).run s = .ok (s.vmask vm, s) := by
    unfold readVmask
    rw [Exec.run_bind_of_ok (run_assert_of (decide_eq_true hc.n_le))]
    rfl
  rw [raisesIllegal_bind_of_ok hmask, and_assoc, and_assoc]
  refine raises_bind_reads fun _ _ => ?_
  rw [← run_readVreg_iff (s := s) hbounds hc.groupLen_le (r := vs2),
    ← run_readVreg_iff (s := s) hbounds hc.groupLen_le (r := vd)]
  refine raises_bind_reads fun _ _ => ?_
  refine raises_bind_reads fun _ _ => ?_
  exact raises_writeElems hc hstart rfl

/-- A clause that reads the configuration first. -/
theorem raises_vconf {k : VConf → M Retired} :
    RaisesIllegal (vconf >>= k) s ↔ ∃ c, ConfOf s c ∧ RaisesIllegal (k c) s := by
  constructor
  · rintro ⟨s', h⟩
    obtain ⟨c, hc, hk⟩ := run_bind_reads h
    exact ⟨c, (run_vconf_ok.mp hc).1, s', hk⟩
  · rintro ⟨c, hc, hk⟩
    exact (raisesIllegal_bind_of_ok (run_vconf_ok.mpr ⟨hc, rfl⟩)).mpr hk

/-- A check before the operands and the loop. -/
theorem raises_checked {bad : State → Bool} {k : M Retired} {p q : Prop}
    (hk : bad s = false → (RaisesIllegal k s ↔ p ∧ TakesTrap s ∧ q)) :
    RaisesIllegal (orIllegal bad k) s ↔ TakesTrap s ∧ (bad s = true ∨ p ∧ q) := by
  rw [raisesIllegal_orIllegal]
  cases hb : bad s with
  | true => exact (and_iff_left (Or.inl rfl)).symm
  | false =>
      rw [if_neg Bool.false_ne_true, hk hb, and_left_comm]
      refine and_congr_right fun _ => ?_
      exact (or_iff_right Bool.false_ne_true).symm

section

variable {vm : BitVec 1} {vd vs2 : Regidx}

/-- The clauses with one width whose registers overlap. -/
theorem raises_sameWidth {l : LateCheck} {β : VConf → Type} {src1 : (c : VConf) → M (β c)}
    [∀ c, Reads (src1 c)]
    {elem : (c : VConf) → β c → (v2 old : ℕ → BitVec c.sew) → ℕ → M (Option (BitVec c.sew))}
    (hstart : s.vstart = 0#16) (helem : elem = fun _ _ _ _ _ => pure none)
    (hearly : ∀ c, l.early s c = illegalNormal s vd vm) (hvm : l.vm = vm)
    (hread : ∀ c, ConfOf s c → (l.Readable c
      ↔ (∃ a, (src1 c).run s = .ok (a, s)) ∧ IsGroup c.lmul vs2 ∧ IsGroup c.lmul vd)) :
    RaisesIllegal (sameWidth vm vd vs2 src1 elem) s ↔ l.Raises s := by
  subst helem hvm
  unfold sameWidth LateCheck.Raises LateCheck.HasActive
  rw [raises_vconf]
  constructor
  · rintro ⟨c, hc, h⟩
    obtain ⟨htrap, h⟩ := (raises_checked fun _ => raises_operands hc hstart rfl).mp h
    refine ⟨htrap, c, hc, ?_⟩
    rw [hearly, hread c hc]
    exact h
  · rintro ⟨htrap, c, hc, h⟩
    rw [hearly, hread c hc] at h
    exact ⟨c, hc, (raises_checked fun _ => raises_operands hc hstart rfl).mpr ⟨htrap, h⟩⟩

/-- The format of the elements of a clause that has passed its check. -/
theorem exists_onFormat (hc : ConfOf s c) (h : 4 ≤ c.sewPow) :
    ∃ f : FpFormat, f.width = c.sew ∧ ∀ k, onFormat c k = k f := by
  obtain ⟨-, hhi⟩ := hc.sew_bounds
  unfold onFormat VConf.sew
  obtain hp | hp | hp : c.sewPow = 4 ∨ c.sewPow = 5 ∨ c.sewPow = 6 := by omega
  · exact ⟨.H, by rw [hp]; rfl, fun k => by rw [if_pos hp]⟩
  · exact ⟨.S, by rw [hp]; rfl, fun k => by rw [if_neg (by omega), if_pos hp]⟩
  · exact ⟨.D, by rw [hp]; rfl, fun k => by rw [if_neg (by omega), if_neg (by omega), if_pos hp]⟩

/-- The elements of a clause that has passed its check are numbers. -/
theorem four_le_of_valid {rm : BitVec 3} (hc : ConfOf s c)
    (h : illegalFpNormal s vd vm c.sew rm = false) : 4 ≤ c.sewPow := by
  obtain ⟨hlo, -⟩ := hc.sew_bounds
  by_contra hlt
  have hthree : c.sew = 8 := by
    unfold VConf.sew
    rw [show c.sewPow = 3 by omega]
    rfl
  unfold illegalFpNormal validFpOp at h
  rw [hthree] at h
  simp at h

instance (rs1 : Regidx) (f : FpFormat) : Reads (getScalarFp rs1 f) := by
  unfold getScalarFp rFp rF
  infer_instance

/-- A scalar floating-point register can be read. -/
theorem run_getScalarFp_iff {rs1 : Regidx} {f : FpFormat} :
    (∃ a, (getScalarFp rs1 f).run s = .ok (a, s))
      ↔ f.width ≤ flen ∧ (sysEnableFdext && !sysEnableZfinx) = true := by
  unfold getScalarFp rFp rF
  constructor
  · rintro ⟨a, h⟩
    obtain ⟨_, hflen, h⟩ := run_bind_reads h
    obtain ⟨_, _, -, h⟩ := Exec.run_bind_ok.mp h
    obtain ⟨_, _, hregs, h⟩ := Exec.run_bind_ok.mp h
    exact ⟨of_decide_eq_true (run_assert_ok.mp hflen).1, (run_assert_ok.mp hregs).1⟩
  · rintro ⟨hflen, hregs⟩
    have hfdext : sysEnableFdext = true := (Bool.and_eq_true _ _ ▸ hregs).1
    rw [Exec.run_bind_of_ok (run_assert_of (decide_eq_true hflen)),
      Exec.run_bind_of_ok (run_assert_of (decide_eq_true hflen)),
      Exec.run_bind_of_ok (run_assert_of hregs), bind_assoc,
      Exec.run_bind_of_ok (run_assert_of hfdext)]
    exact ⟨_, rfl⟩

/-- The floating-point clauses whose registers overlap. -/
theorem raises_fpSameWidth {l : LateCheck} {rs1 : Regidx}
    {elem : VConf → BitVec 3 → (f : FpFormat) → BitVec f.width → (v2 old : ℕ → BitVec f.width) →
      ℕ → M (Option (BitVec f.width))}
    (hstart : s.vstart = 0#16) (helem : elem = fun _ _ _ _ _ _ _ => pure none)
    (hl : l = ⟨vm, vd, [vs2, vd], true⟩) :
    RaisesIllegal (fpSameWidth vm vd vs2 (fun _ f => getScalarFp rs1 f) elem) s ↔ l.Raises s := by
  subst helem hl
  have hread (c : VConf) : (⟨vm, vd, [vs2, vd], true⟩ : LateCheck).Readable c
      ↔ (c.sew ≤ flen ∧ (sysEnableFdext && !sysEnableZfinx) = true)
        ∧ IsGroup c.lmul vs2 ∧ IsGroup c.lmul vd := by
    constructor
    · intro h
      exact ⟨h.scalar rfl, h.groups vs2 (by simp), h.groups vd (by simp)⟩
    · rintro ⟨hscalar, h₂, hd⟩
      refine ⟨fun r hr => ?_, fun _ => hscalar⟩
      rcases List.mem_pair.mp hr with rfl | rfl
      · exact h₂
      · exact hd
  have hclause (c : VConf) (hc : ConfOf s c)
      (hvalid : illegalFpNormal s vd vm c.sew (Fcsr.FRM.get s.fcsr) = false) :
      RaisesIllegal (onFormat c fun f => do
        let vmVal ← readVmask c.n vm 0b00000#5
        let v1 ← getScalarFp rs1 f
        let v2 ← c.fgroup f vs2
        let old ← c.fgroup f vd
        writeElems c.n f.width c.lmul vd old vmVal fun _ => pure none) s
        ↔ ((c.sew ≤ flen ∧ (sysEnableFdext && !sysEnableZfinx) = true)
            ∧ IsGroup c.lmul vs2 ∧ IsGroup c.lmul vd)
          ∧ TakesTrap s ∧ ∃ j, s.active c.n c.lmul (s.vmask vm) j = true := by
    obtain ⟨f, hwidth, hformat⟩ := exists_onFormat hc (four_le_of_valid hc hvalid)
    rw [hformat, ← hwidth, ← run_getScalarFp_iff (s := s)]
    exact raises_operands hc hstart hwidth
  unfold fpSameWidth LateCheck.Raises LateCheck.HasActive
  rw [raisesIllegal_bind_of_ok (show getFrm.run s = .ok (Fcsr.FRM.get s.fcsr, s) from rfl),
    raises_vconf]
  constructor
  · rintro ⟨c, hc, h⟩
    obtain ⟨htrap, h⟩ := (raises_checked fun hvalid => hclause c hc hvalid).mp h
    exact ⟨htrap, c, hc, by rw [hread]; exact h⟩
  · rintro ⟨htrap, c, hc, h⟩
    rw [hread] at h
    exact ⟨c, hc, (raises_checked fun hvalid => hclause c hc hvalid).mpr ⟨htrap, h⟩⟩

end

/-! ## Two states -/

/-- The registers of the integer clauses. -/
theorem readable_pair {vm : BitVec 1} {vd vs2 : Regidx} :
    (⟨vm, vd, [vs2, vd], false⟩ : LateCheck).Readable c
      ↔ IsGroup c.lmul vs2 ∧ IsGroup c.lmul vd := by
  constructor
  · intro h
    exact ⟨h.groups vs2 (by simp), h.groups vd (by simp)⟩
  · rintro ⟨h₂, hd⟩
    refine ⟨fun r hr => ?_, fun h => absurd h Bool.false_ne_true⟩
    rcases List.mem_pair.mp hr with rfl | rfl
    · exact h₂
    · exact hd

/-- The registers of the gathers with a vector of indices. -/
theorem readable_triple {vm : BitVec 1} {vd vs2 vs1 : Regidx} :
    (⟨vm, vd, [vs1, vs2, vd], false⟩ : LateCheck).Readable c
      ↔ IsGroup c.lmul vs1 ∧ IsGroup c.lmul vs2 ∧ IsGroup c.lmul vd := by
  constructor
  · intro h
    exact ⟨h.groups vs1 (by simp), h.groups vs2 (by simp), h.groups vd (by simp)⟩
  · rintro ⟨h₁, h₂, hd⟩
    refine ⟨fun r hr => ?_, fun h => absurd h Bool.false_ne_true⟩
    rcases List.mem_cons.mp hr with rfl | hr
    · exact h₁
    rcases List.mem_pair.mp hr with rfl | rfl
    · exact h₂
    · exact hd

omit [Platform] in
/-- The registers of an instruction with a late check overlap. -/
theorem eq_true_of_late_some {b : Bool} {l l' : LateCheck}
    (h : (if b then some l' else none) = some l) : b = true ∧ l = l' := by
  cases b with
  | false => cases h
  | true =>
      cases h
      exact ⟨rfl, rfl⟩

/-- A clause of one width with an operand that does not fail. -/
theorem raises_of_late {β : VConf → Type} {vm : BitVec 1} {vd vs2 : Regidx}
    {src1 : (c : VConf) → M (β c)} [∀ c, Reads (src1 c)]
    {elem : (c : VConf) → β c → (v2 old : ℕ → BitVec c.sew) → ℕ → M (Option (BitVec c.sew))}
    {l : LateCheck} (hstart : s.vstart = 0#16) (helem : elem = fun _ _ _ _ _ => pure none)
    (hl : l = ⟨vm, vd, [vs2, vd], false⟩) (hsrc : ∀ c, ∃ a, (src1 c).run s = .ok (a, s)) :
    RaisesIllegal (sameWidth vm vd vs2 src1 elem) s ↔ l.Raises s := by
  subst hl
  refine raises_sameWidth hstart helem (fun _ => rfl) rfl fun c _ => ?_
  rw [readable_pair]
  exact (and_iff_right (hsrc c)).symm

/-- The gathers with a vector of indices. -/
theorem raises_of_late_gather {vm : BitVec 1} {vd vs2 vs1 : Regidx}
    {elem : (c : VConf) → (ℕ → BitVec c.sew) → (v2 old : ℕ → BitVec c.sew) → ℕ →
      M (Option (BitVec c.sew))}
    {l : LateCheck} (hstart : s.vstart = 0#16) (helem : elem = fun _ _ _ _ _ => pure none)
    (hl : l = ⟨vm, vd, [vs1, vs2, vd], false⟩) :
    RaisesIllegal (sameWidth vm vd vs2 (fun c => c.group vs1) elem) s ↔ l.Raises s := by
  subst hl
  refine raises_sameWidth hstart helem (fun _ => rfl) rfl fun c hc => ?_
  obtain ⟨hlo, hhi⟩ := hc.sew_bounds
  rw [readable_triple]
  refine and_congr_left fun _ => (run_readVreg_iff ⟨?_, ?_⟩ hc.groupLen_le).symm
  · exact Nat.pow_le_pow_right Nat.two_pos hlo
  · exact Nat.pow_le_pow_right Nat.two_pos hhi

instance (rs1 : Regidx) : Reads (offsetX rs1) := by
  unfold offsetX
  infer_instance

instance (simm : BitVec 5) : Reads (offsetI simm) := by
  unfold offsetI
  infer_instance

/-- When an integer instruction with a late check raises the exception. -/
theorem VextArithInst.raises_iff {i : VextArithInst} {l : LateCheck} (h : i.lateCheck = some l)
    (hstart : s.vstart = 0#16) : RaisesIllegal i.execute s ↔ l.Raises s := by
  cases i with
  | VVTYPE f vm vs2 vs1 vd =>
      cases f with
      | VV_VRGATHER =>
          obtain ⟨hb, hl⟩ := eq_true_of_late_some h
          refine raises_of_late_gather hstart ?_ hl
          rw [hb]
          rfl
      | VV_VRGATHEREI16 =>
          obtain ⟨hb, hl⟩ := eq_true_of_late_some h
          refine raises_of_late_gather hstart ?_ hl
          rw [hb]
          rfl
      | _ => cases h
  | VXSG f vm vs2 rs1 vd =>
      cases f with
      | VX_VSLIDEDOWN => cases h
      | _ =>
          obtain ⟨hb, hl⟩ := eq_true_of_late_some h
          refine raises_of_late hstart ?_ hl fun c => ⟨_, rfl⟩
          rw [hb]
          rfl
  | VISG f vm vs2 simm vd =>
      cases f with
      | VI_VSLIDEDOWN => cases h
      | _ =>
          obtain ⟨hb, hl⟩ := eq_true_of_late_some h
          refine raises_of_late hstart ?_ hl fun c => ⟨_, rfl⟩
          rw [hb]
          rfl
  | MVXTYPE f vm vs2 rs1 vd =>
      cases f with
      | MVX_VSLIDE1UP =>
          obtain ⟨hb, hl⟩ := eq_true_of_late_some h
          refine raises_of_late hstart ?_ hl fun c => ⟨_, rfl⟩
          rw [hb]
          rfl
      | _ => cases h
  | _ => cases h

/-- When a floating-point instruction with a late check raises the exception. -/
theorem VextFpInst.raises_iff [SoftFloat] {i : VextFpInst} {l : LateCheck}
    (h : i.lateCheck = some l) (hstart : s.vstart = 0#16) :
    RaisesIllegal i.execute s ↔ l.Raises s := by
  cases i with
  | FVFTYPE f vm vs2 rs1 vd =>
      cases f with
      | VF_VSLIDE1UP =>
          obtain ⟨hb, hl⟩ := eq_true_of_late_some h
          refine raises_fpSameWidth hstart ?_ hl
          rw [hb]
          rfl
      | _ => cases h
  | _ => cases h

/-- When an instruction with a late check raises the exception. -/
theorem Ast.raises_iff [SoftFloat] {i : Ast} {l : LateCheck} (h : i.lateCheck = some l)
    (hstart : s.vstart = 0#16) : RaisesIllegal i.execute s ↔ l.Raises s := by
  cases i with
  | VEXT_ARITH i => exact VextArithInst.raises_iff h hstart
  | VEXT_FP i => exact VextFpInst.raises_iff h hstart
  | _ => cases h

/-- The check before the loop does not see the data. -/
theorem SameButData.early (h : SameButData s t) (l : LateCheck) (c : VConf) :
    l.early t c = l.early s c :=
  h.eq_of (fun s => l.early s c) fun _ _ _ _ _ => rfl

/-- The exception in two states, by the active elements. -/
theorem LateCheck.raises_iff_of_conf {l : LateCheck} (hc : ConfOf s c) :
    l.Raises s ↔ TakesTrap s ∧ (l.early s c = true ∨ l.Readable c ∧ l.HasActive s c) := by
  constructor
  · rintro ⟨htrap, c', hc', h⟩
    obtain rfl := hc'.unique hc
    exact ⟨htrap, h⟩
  · rintro ⟨htrap, h⟩
    exact ⟨htrap, c, hc, h⟩

/-- The exception in two states, for an instruction. -/
theorem Ast.raises_iff_iff [SoftFloat] {i : Ast} (hi : i.IsVectorOp) (h : SameButData s t) :
    (RaisesIllegal i.execute s ↔ RaisesIllegal i.execute t)
      ↔ ¬ ∃ l c, i.lateCheck = some l ∧ ConfOf s c ∧ l.early s c = false ∧ l.Readable c
        ∧ TakesTrap s ∧ ¬ (l.HasActive s c ↔ l.HasActive t c) := by
  cases hl : i.lateCheck with
  | none =>
      refine iff_of_true ((Ast.decidesEarly hi hl).raises_iff h) ?_
      rintro ⟨l, c, hsome, -⟩
      cases hsome
  | some l =>
      rw [Ast.raises_iff hl h.vstart, Ast.raises_iff hl h.vstart_right]
      constructor
      · rintro hiff ⟨l', c, hsome, hc, hearly, hread, htrap, hne⟩
        cases hsome
        rw [LateCheck.raises_iff_of_conf hc, LateCheck.raises_iff_of_conf ((h.confOf c).mpr hc),
          h.early, h.takesTrap_iff, hearly] at hiff
        refine hne ?_
        constructor
        · intro ha
          have hraise := (hiff.mp ⟨htrap, Or.inr ⟨hread, ha⟩⟩).2
          exact ((or_iff_right Bool.false_ne_true).mp hraise).2
        · intro ha
          have hraise := (hiff.mpr ⟨htrap, Or.inr ⟨hread, ha⟩⟩).2
          exact ((or_iff_right Bool.false_ne_true).mp hraise).2
      · intro hnot
        by_cases hconf : ∃ c, ConfOf s c
        · obtain ⟨c, hc⟩ := hconf
          rw [LateCheck.raises_iff_of_conf hc, LateCheck.raises_iff_of_conf ((h.confOf c).mpr hc),
            h.early, h.takesTrap_iff]
          refine and_congr_right fun htrap => ?_
          cases hearly : l.early s c with
          | true => exact iff_of_true (Or.inl rfl) (Or.inl rfl)
          | false =>
              refine or_congr_right (and_congr_right fun hread => ?_)
              by_contra hne
              exact hnot ⟨l, c, rfl, hc, hearly, hread, htrap, hne⟩
        · refine iff_of_false ?_ ?_
          · rintro ⟨-, c, hc, -⟩
            exact hconf ⟨c, hc⟩
          · rintro ⟨-, c, hc, -⟩
            exact hconf ⟨c, (h.confOf c).mp hc⟩

/-- A word is the same instruction in both states. -/
theorem SameButData.extDecode (h : SameButData s t) (w : BitVec 32) :
    SailRiscv.extDecode t w = SailRiscv.extDecode s w :=
  h.eq_of (fun s => SailRiscv.extDecode s w) fun _ _ _ _ _ => rfl

/-- **Legality law.**  Whether a vector instruction of arithmetic or permutation raises an
illegal-instruction exception does not depend on `vl` and the contents of the registers, but for
a late check: it is passed in the state without an active element and not in the other. -/
theorem legality_data_free_iff [SoftFloat] {w : BitVec 32} {i : Ast} (hw : extDecode s w = i)
    (hi : i.IsVectorOp) (h : SameButData s t) :
    (RaisesIllegal (extDecode s w).execute s ↔ RaisesIllegal (extDecode t w).execute t)
      ↔ ¬ ∃ l c, i.lateCheck = some l ∧ ConfOf s c ∧ l.early s c = false ∧ l.Readable c
        ∧ TakesTrap s ∧ ¬ (l.HasActive s c ↔ l.HasActive t c) := by
  rw [h.extDecode, hw]
  exact Ast.raises_iff_iff hi h

/-! ## A gather onto its own source -/

/-- The vector extension is on, with `vl` elements of 64 bits; all else is zero. -/
def vectorState (vl : ℕ) : State :=
  { State.zero (fun _ => 0#8) with
    misa := BitVec.allOnes _
    mstatus := 0x600#_
    vtype := 0b011000#_
    vl := BitVec.ofNat _ vl }

theorem sameButData_vectorState (m n : ℕ) : SameButData (vectorState m) (vectorState n) :=
  ⟨rfl, rfl⟩

/-- `vrgather.vv v8, v8, v16`. -/
def gatherWord : BitVec 32 := 0x32880457#32

omit [Platform] in
/-- `vrgather.vv v8, v8, v16` raises the exception when `vl` is one, and not when it is zero. -/
theorem vrgather_depends_on_vl :
    ¬ ∀ [Platform] [SoftFloat] (s t : State) (w : BitVec 32), (extDecode s w).IsVectorOp →
      SameButData s t →
      (RaisesIllegal (extDecode s w).execute s ↔ RaisesIllegal (extDecode t w).execute t) := by
  intro hall
  let := rv64Pmp 16 (by decide)
  let : SoftFloat := default
  have hdecode : extDecode (vectorState 1) gatherWord
      = .VEXT_ARITH (.VVTYPE .VV_VRGATHER 1#1 8#5 16#5 8#5) := by decide +kernel
  have hsame := sameButData_vectorState 1 0
  have hiff := hall (vectorState 1) (vectorState 0) gatherWord (by rw [hdecode]; trivial) hsame
  rw [hsame.extDecode, hdecode] at hiff
  have hone : (executeVVTYPE .VV_VRGATHER 1#1 8#5 16#5 8#5).passes (vectorState 1)
      (fun r _ => r == .RETIRE_FAIL) = true := by decide +kernel
  have hzero : (executeVVTYPE .VV_VRGATHER 1#1 8#5 16#5 8#5).passes (vectorState 0)
      (fun r _ => r == .RETIRE_FAIL) = false := by decide +kernel
  obtain ⟨r, s', hrun, hr⟩ := Exec.passes_iff.mp hone
  cases beq_iff_eq.mp hr
  obtain ⟨t', hrun'⟩ := hiff.mp ⟨s', hrun⟩
  have hpass : (executeVVTYPE .VV_VRGATHER 1#1 8#5 16#5 8#5).passes (vectorState 0)
      (fun r _ => r == .RETIRE_FAIL) = true := Exec.passes_iff.mpr ⟨_, t', hrun', rfl⟩
  rw [hzero] at hpass
  cases hpass

omit [Platform] in
/-- `vadd.vv v8, v8, v16` raises nothing, whatever `vl` is. -/
theorem legality_data_free_vadd :
    letI := rv64Pmp 16 (by decide)
    letI : SoftFloat := default
    (RaisesIllegal (extDecode (vectorState 1) 0x02880457#32).execute (vectorState 1)
      ↔ RaisesIllegal (extDecode (vectorState 0) 0x02880457#32).execute (vectorState 0)) := by
  let := rv64Pmp 16 (by decide)
  let : SoftFloat := default
  have hdecode : extDecode (vectorState 1) 0x02880457#32
      = .VEXT_ARITH (.VVTYPE .VV_VADD 1#1 8#5 16#5 8#5) := by decide +kernel
  refine (legality_data_free_iff hdecode trivial (sameButData_vectorState 1 0)).mpr ?_
  rintro ⟨l, c, hnone, -⟩
  cases hnone

end SailRiscv
