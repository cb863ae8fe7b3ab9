/-
# Vector arithmetic follows its table

Every instruction of `riscv_insts_vext_arith.sail` that retires leaves behind the elements of the
table `VextArithInst.spec`, computed from the registers before it.
-/
import SailRiscv.VextTable

namespace SailRiscv

open Bits Platform Rounding

variable [Platform] {s s' t : State}

/-! ## Elements of one width -/

/-- The computation of an element of `VXTYPE`. -/
def Vxfunct6.compute {m : ℕ} (a b : BitVec m) : Vxfunct6 → M (Option (BitVec m))
  | .VX_VADD => just (a + b)
  | .VX_VSUB => just (a - b)
  | .VX_VRSUB => just (b - a)
  | .VX_VMINU => just (vminu a b)
  | .VX_VMIN => just (vmin a b)
  | .VX_VMAXU => just (vmaxu a b)
  | .VX_VMAX => just (vmax a b)
  | .VX_VAND => just (a &&& b)
  | .VX_VOR => just (a ||| b)
  | .VX_VXOR => just (a ^^^ b)
  | .VX_VSADDU => value (vsaddu a b)
  | .VX_VSADD => value (vsadd a b)
  | .VX_VSSUBU => value (vssubu a b)
  | .VX_VSSUB => value (vssub a b)
  | .VX_VSLL => value (vsll a b)
  | .VX_VSMUL => value (vsmul a b)
  | .VX_VSRL => value (vsrl a b)
  | .VX_VSRA => value (vsra a b)
  | .VX_VSSRL => value (vssrl a b)
  | .VX_VSSRA => value (vssra a b)

/-- The computation of an element of `MVXTYPE` but those of the slides. -/
def Mvxfunct6.compute {m : ℕ} (a b : BitVec m) : Mvxfunct6 → M (Option (BitVec m))
  | .MVX_VAADDU => value (vaaddu a b)
  | .MVX_VAADD => value (vaadd a b)
  | .MVX_VASUBU => value (vasubu a b)
  | .MVX_VASUB => value (vasub a b)
  | .MVX_VSLIDE1UP => just a
  | .MVX_VSLIDE1DOWN => just a
  | .MVX_VMUL => just (getSliceInt m (a.toInt * b.toInt) 0)
  | .MVX_VMULH => just (getSliceInt m (a.toInt * b.toInt) m)
  | .MVX_VMULHU => just (getSliceInt m (a.toNat * b.toNat) m)
  | .MVX_VMULHSU => just (getSliceInt m (a.toInt * b.toNat) m)
  | .MVX_VDIVU => just (vdivu a b)
  | .MVX_VDIV => just (vdiv a b)
  | .MVX_VREMU => just (vremu a b)
  | .MVX_VREM => just (vrem a b)

section

variable {p n : ℕ}

/-- `VV_VSLL`. -/
theorem run_vsll (a : BitVec (2 ^ p)) (b : BitVec n) (hp : 0 < p) (hn : p < n) :
    (vsll a b).run s = .ok (a <<< (b.toNat % 2 ^ p), s) := by
  unfold vsll
  rw [Exec.run_bind_of_ok (run_getShiftAmount b hp hn), Exec.run_pure]

/-- `VV_VSRL`. -/
theorem run_vsrl (a : BitVec (2 ^ p)) (b : BitVec n) (hp : 0 < p) (hn : p < n) :
    (vsrl a b).run s = .ok (a >>> (b.toNat % 2 ^ p), s) := by
  unfold vsrl
  rw [Exec.run_bind_of_ok (run_getShiftAmount b hp hn), Exec.run_pure]

/-- `VV_VSRA`. -/
theorem run_vsra (a : BitVec (2 ^ p)) (b : BitVec n) (hp : 0 < p) (hn : p < n) :
    (vsra a b).run s = .ok (BitVec.ofInt (2 ^ p) (a.toInt / 2 ^ (b.toNat % 2 ^ p)), s) := by
  unfold vsra
  rw [Exec.run_bind_of_ok (run_getShiftAmount b hp hn), Exec.run_pure,
    shiftRightArith_eq_ofInt a (Nat.mod_lt _ (Nat.two_pow_pos p)).le]

/-- `NVS_VNSRL`. -/
theorem run_vnsrl (m : ℕ) (a : BitVec (2 ^ p)) (b : BitVec n) (hp : 0 < p) (hn : p < n) :
    (vnsrl m a b).run s = .ok (slice (a >>> (b.toNat % 2 ^ p)) 0 m, s) := by
  unfold vnsrl
  rw [Exec.run_bind_of_ok (run_getShiftAmount b hp hn), Exec.run_pure]

/-- `NVS_VNSRA`. -/
theorem run_vnsra (m : ℕ) (a : BitVec (2 ^ p)) (b : BitVec n) (hp : 0 < p) (hn : p < n) :
    (vnsra m a b).run s = .ok (slice (shiftRightArith a (b.toNat % 2 ^ p)) 0 m, s) := by
  unfold vnsra
  rw [Exec.run_bind_of_ok (run_getShiftAmount b hp hn), Exec.run_pure]

end

/-- An element that sets no flag, whose computation only depends on the rounding mode. -/
theorem computesElem_exactly {m : ℕ} {x : M (BitVec m)} {a : BitVec m}
    (h : ∀ c, x.run (t.satIf c) = .ok (a, t.satIf c)) : ComputesElem t (value x) (exactly a) :=
  computes_value h

/-- The bounds of an exponent of an element width. -/
theorem ConfOf.sew_bounds {c : VConf} (h : ConfOf s c) : 3 ≤ c.sewPow ∧ c.sewPow ≤ 6 :=
  sewPow_bounds h.sew

omit [Platform] in
theorem lt_two_pow_self {p : ℕ} (h : 3 ≤ p) : p + 1 < 2 ^ p := by
  induction p, h using Nat.le_induction with
  | base => decide
  | succ k hk ih =>
      rw [pow_succ]
      omega

/-- The operations of `VXTYPE`. -/
theorem Vxfunct6.computes {p : ℕ} (hp : 3 ≤ p) (a b : BitVec (2 ^ p)) (f : Vxfunct6) :
    ComputesElem t (f.compute a b) (f.elem t.rounding a b) := by
  have hp₀ : 0 < p := by omega
  have hlt : p < 2 ^ p := Nat.lt_two_pow_self
  have hpos : 0 < 2 ^ p := Nat.two_pow_pos p
  have hone : 1 < 2 ^ p := Nat.one_lt_two_pow (by omega)
  cases f with
  | VX_VSADDU => exact computes_value fun c => run_vsaddu a b
  | VX_VSADD => exact computes_value fun c => run_vsadd a b hpos
  | VX_VSSUBU => exact computesElem_exactly fun c => run_vssubu a b
  | VX_VSSUB => exact computes_value fun c => run_vssub a b hpos
  | VX_VSMUL =>
      refine computes_value fun c => ?_
      rw [← rounding_satIf (s := t) c]
      exact run_vsmul a b hone
  | VX_VSLL => exact computesElem_exactly fun c => run_vsll a b hp₀ hlt
  | VX_VSRL => exact computesElem_exactly fun c => run_vsrl a b hp₀ hlt
  | VX_VSRA => exact computesElem_exactly fun c => run_vsra a b hp₀ hlt
  | VX_VSSRL =>
      refine computesElem_exactly fun c => ?_
      rw [← rounding_satIf (s := t) c]
      exact run_vssrl a b hp₀ hlt
  | VX_VSSRA =>
      refine computesElem_exactly fun c => ?_
      rw [← rounding_satIf (s := t) c]
      exact run_vssra a b hp₀ hlt
  | _ => exact computes_just t _

/-- The operations of `MVXTYPE`. -/
theorem Mvxfunct6.computes {m : ℕ} (hm : 0 < m) (a b : BitVec m) (f : Mvxfunct6) :
    ComputesElem t (f.compute a b) (f.elem t.rounding a b) := by
  cases f with
  | MVX_VAADDU =>
      refine computesElem_exactly fun c => ?_
      rw [← rounding_satIf (s := t) c]
      exact run_vaaddu a b hm
  | MVX_VAADD =>
      refine computesElem_exactly fun c => ?_
      rw [← rounding_satIf (s := t) c]
      exact run_vaadd a b hm
  | MVX_VASUBU =>
      refine computesElem_exactly fun c => ?_
      rw [← rounding_satIf (s := t) c]
      exact run_vasubu a b hm
  | MVX_VASUB =>
      refine computesElem_exactly fun c => ?_
      rw [← rounding_satIf (s := t) c]
      exact run_vasub a b hm
  | _ => exact computes_just t _

/-! ## Narrowing -/

/-- The computation of an element of `NXSTYPE`. -/
def Nxsfunct6.compute {o n : ℕ} (m : ℕ) (a : BitVec o) (b : BitVec n) : Nxsfunct6 → M (BitVec m)
  | .NXS_VNSRL => vnsrl m a b
  | .NXS_VNSRA => vnsra m a b

/-- The computation of an element of `NXTYPE`. -/
def Nxfunct6.compute {o n : ℕ} (m : ℕ) (a : BitVec o) (b : BitVec n) : Nxfunct6 → M (BitVec m)
  | .NX_VNCLIPU => vnclipu m a b
  | .NX_VNCLIP => vnclip m a b

/-- The operations of `NXSTYPE`. -/
theorem Nxsfunct6.computes {p : ℕ} (hp : 3 ≤ p) (a : BitVec (2 ^ (p + 1))) (b : BitVec (2 ^ p))
    (f : Nxsfunct6) : ComputesElem t (value (f.compute (2 ^ p) a b))
      (f.elem (2 ^ p) a (b.toNat % 2 ^ (p + 1))) := by
  have hlt : p + 1 < 2 ^ p := lt_two_pow_self hp
  cases f with
  | NXS_VNSRL => exact computesElem_exactly fun c => run_vnsrl _ a b (by omega) hlt
  | NXS_VNSRA => exact computesElem_exactly fun c => run_vnsra _ a b (by omega) hlt

/-- The operations of `NXTYPE`. -/
theorem Nxfunct6.computes {p : ℕ} (hp : 3 ≤ p) (a : BitVec (2 ^ (p + 1))) (b : BitVec (2 ^ p))
    (f : Nxfunct6) : ComputesElem t (value (f.compute (2 ^ p) a b))
      (f.elem t.rounding (2 ^ p) a (b.toNat % 2 ^ (p + 1))) := by
  have hlt : p + 1 < 2 ^ p := lt_two_pow_self hp
  have hdouble : 2 ^ p * 2 = 2 ^ (p + 1) := (pow_succ 2 p).symm
  cases f with
  | NX_VNCLIPU =>
      refine computes_value fun c => ?_
      rw [← rounding_satIf (s := t) c]
      exact run_vnclipu a b (by omega) hlt (by omega)
  | NX_VNCLIP =>
      refine computes_value fun c => ?_
      rw [← rounding_satIf (s := t) c]
      exact run_vnclip a b (by omega) hlt hdouble

/-! ## Permutations -/

/-- An element after a part that only reads. -/
theorem computes_bind_reads {α β : Type} {x : M β} {k : β → M (Option α)} {a : α} {b : Bool}
    [Reads x] (h : ∀ c y, x.run (t.satIf c) = .ok (y, t.satIf c) → Computes t (k y) a b) :
    Computes t (x >>= k) a b := by
  intro c r u hrun
  obtain ⟨y, hy, hrun⟩ := run_bind_reads hrun
  exact h c y hy c r u hrun

/-- An element that is not computed. -/
theorem computes_none {α : Type} (a : α) (b : Bool) : Computes t (pure none) a b := by
  intro c r u hrun
  cases hrun

/-- The element with the index that `idx` returns. -/
theorem computes_gather {c : VConf} {overlap : Bool} {idx : M ℕ} [Reads idx] {k : ℕ}
    {v2 : ℕ → BitVec c.sew} (h : ∀ b j, idx.run (t.satIf b) = .ok (j, t.satIf b) → j = k) :
    ComputesElem t (gather c overlap idx v2)
      (exactly (if k < c.vlmax then v2 k else 0#_)) := by
  unfold gather
  split
  · exact computes_none _ _
  · refine computes_bind_reads fun b j hj => ?_
    obtain rfl := h b j hj
    exact computes_bind_reads fun _ _ _ => computes_just t _

/-- `VX_VSLIDEUP`. -/
theorem computes_slideUp {c : VConf} {overlap : Bool} {offset i : ℕ} {v2 old : ℕ → BitVec c.sew} :
    ComputesElem t (slideUp c overlap offset v2 old i)
      (exactly (if i ≥ offset then v2 (i - offset) else old i)) := by
  unfold slideUp
  split
  · exact computes_none _ _
  · exact computes_just t _

/-- `VX_VSLIDEDOWN`. -/
theorem computes_slideDown {c : VConf} {offset i : ℕ} {v2 : ℕ → BitVec c.sew} :
    ComputesElem t (slideDown c offset v2 i)
      (exactly (if i + offset < c.vlmax then v2 (i + offset) else 0#_)) := by
  unfold slideDown
  exact computes_bind_reads fun _ _ _ => computes_just t _

/-- `MVX_VSLIDE1UP`. -/
theorem computes_slide1Up {m : ℕ} {overlap : Bool} {x : BitVec m} {v2 : ℕ → BitVec m} {i : ℕ} :
    ComputesElem t (slide1Up overlap x v2 i) (exactly (if i = 0 then x else v2 (i - 1))) := by
  unfold slide1Up
  split
  · exact computes_none _ _
  · exact computes_just t _

theorem vl_satIf (t : State) (b : Bool) : (t.satIf b).vl = t.vl :=
  congrArg VecRegs.vl (vecRegs_satIf t b)

/-- `MVX_VSLIDE1DOWN`. -/
theorem computes_slide1Down {m n : ℕ} {x : BitVec m} {v2 : ℕ → BitVec m} {i : ℕ} :
    ComputesElem t (slide1Down n x v2 i)
      (exactly (if (i : ℤ) < (t.vl.toNat : ℤ) - 1 then v2 (i + 1) else x)) := by
  unfold slide1Down
  refine computes_bind_reads fun b last hlast => ?_
  have hvl : last = (t.vl.toNat : ℤ) - 1 := by
    cases hlast
    rw [← vl_satIf t b]
  subst hvl
  exact computes_bind_reads fun _ _ _ => computes_just t _

/-- `vxsat` is not among the elements. -/
theorem group_satIf (t : State) (b : Bool) (n SEW : ℕ) (lmul : ℤ) (r : Regidx) :
    (t.satIf b).group n SEW lmul r = t.group n SEW lmul r := by
  unfold State.satIf
  cases b <;> rfl

/-- The index of 16 bits of an element. -/
theorem run_index16_ok {c : VConf} {vs1 : Regidx} {i k : ℕ} {b : Bool}
    (h : (do
      let v1New ← readVreg c.n 16 (4 + c.lmul - c.sewPow) vs1
      pure (v1New i).toNat : M ℕ).run (t.satIf b) = .ok (k, t.satIf b)) :
    k = c.index16 t vs1 i := by
  obtain ⟨v, hv, h⟩ := run_bind_reads h
  obtain ⟨-, -, rfl⟩ := run_readVreg_ok hv
  cases h
  unfold VConf.index16
  rw [group_satIf]

/-! ## The clauses -/

/-- A computation of an element that is the same as another one. -/
theorem ComputesElem.of_eq {m : ℕ} {x y : M (Option (BitVec m))} {f : BitVec m × Bool}
    (h : ComputesElem t y f) (heq : x = y) : ComputesElem t x f := heq ▸ h

/-- `execute VVTYPE`. -/
theorem run_executeVVTYPE_ok {f : Vvfunct6} {vm : BitVec 1} {vs2 vs1 vd : Regidx}
    (hrun : (executeVVTYPE f vm vs2 vs1 vd).run s = .ok (.RETIRE_SUCCESS, s')) :
    ∃ c, ConfOf s c ∧ (c.result s vm vd (f.elem s c vs2 vs1)).Holds s s' := by
  refine run_sameWidth_ok (fun c hc v1 hv1 t ht i _ _ => ?_) hrun
  obtain ⟨-, rfl⟩ := run_group_ok hv1
  cases hf : f.scalarForm with
  | some g =>
      have helem : f.elem s c vs2 vs1 i
          = g.elem t.rounding (c.read s vs2 i) (c.read s vs1 i) := by
        unfold Vvfunct6.elem
        rw [hf, ht.rounding]
      rw [helem]
      refine (g.computes hc.sew_bounds.1 _ _).of_eq ?_
      cases f <;> cases hf <;> rfl
  | none =>
      have hindex := ht.group c.n 16 (4 + c.lmul - c.sewPow) vs1
      cases f with
      | VV_VRGATHER => exact computes_gather fun b j hj => by cases hj; rfl
      | VV_VRGATHEREI16 =>
          refine computes_gather fun b j hj => ?_
          rw [run_index16_ok hj]
          unfold VConf.index16
          rw [hindex]
          rfl
      | _ => cases hf

/-- `execute VXTYPE`. -/
theorem run_executeVXTYPE_ok {f : Vxfunct6} {vm : BitVec 1} {vs2 rs1 vd : Regidx}
    (hrun : (executeVXTYPE f vm vs2 rs1 vd).run s = .ok (.RETIRE_SUCCESS, s')) :
    ∃ c, ConfOf s c ∧ (c.result s vm vd fun i =>
      f.elem s.rounding (c.read s vs2 i) (c.readX s rs1)).Holds s s' := by
  refine run_sameWidth_ok (fun c hc v1 hv1 t ht i _ _ => ?_) hrun
  obtain rfl := run_scalar_ok hv1
  rw [← ht.rounding]
  refine (f.computes hc.sew_bounds.1 _ _).of_eq ?_
  cases f <;> rfl

/-- `execute VITYPE`. -/
theorem run_executeVITYPE_ok {f : Vifunct6} {vm : BitVec 1} {vs2 vd : Regidx} {simm : BitVec 5}
    (hrun : (executeVITYPE f vm vs2 simm vd).run s = .ok (.RETIRE_SUCCESS, s')) :
    ∃ c, ConfOf s c ∧ (c.result s vm vd fun i =>
      f.scalarForm.elem s.rounding (c.read s vs2 i) (f.operand c.sew simm)).Holds s s' := by
  refine run_sameWidth_ok (fun c hc v1 hv1 t ht i _ _ => ?_) hrun
  cases hv1
  rw [← ht.rounding]
  refine (f.scalarForm.computes hc.sew_bounds.1 _ _).of_eq ?_
  cases f <;> rfl

/-- `execute VXSG`. -/
theorem run_executeVXSG_ok {f : Vxsgfunct6} {vm : BitVec 1} {vs2 rs1 vd : Regidx}
    (hrun : (executeVXSG f vm vs2 rs1 vd).run s = .ok (.RETIRE_SUCCESS, s')) :
    ∃ c, ConfOf s c ∧ (c.result s vm vd (f.elem s c vs2 vd (s.X rs1).toNat)).Holds s s' := by
  have : Reads (offsetX rs1) := by
    unfold offsetX
    infer_instance
  refine run_sameWidth_ok (fun c hc v1 hv1 t ht i _ _ => ?_) hrun
  cases hv1
  cases f with
  | VX_VSLIDEUP => exact computes_slideUp
  | VX_VSLIDEDOWN => exact computes_slideDown
  | VX_VRGATHER => exact computes_gather fun b j hj => by cases hj; rfl

/-- `execute VISG`. -/
theorem run_executeVISG_ok {f : Visgfunct6} {vm : BitVec 1} {vs2 vd : Regidx} {simm : BitVec 5}
    (hrun : (executeVISG f vm vs2 simm vd).run s = .ok (.RETIRE_SUCCESS, s')) :
    ∃ c, ConfOf s c ∧ (c.result s vm vd
      (f.scalarForm.elem s c vs2 vd (simm.setWidth xlen).toNat)).Holds s s' := by
  have : Reads (offsetI simm) := by
    unfold offsetI
    infer_instance
  refine run_sameWidth_ok (fun c hc v1 hv1 t ht i _ _ => ?_) hrun
  cases hv1
  cases f with
  | VI_VSLIDEUP => exact computes_slideUp
  | VI_VSLIDEDOWN => exact computes_slideDown
  | VI_VRGATHER => exact computes_gather fun b j hj => by cases hj; rfl

/-- `execute MVVTYPE`. -/
theorem run_executeMVVTYPE_ok {f : Mvvfunct6} {vm : BitVec 1} {vs2 vs1 vd : Regidx}
    (hrun : (executeMVVTYPE f vm vs2 vs1 vd).run s = .ok (.RETIRE_SUCCESS, s')) :
    ∃ c, ConfOf s c ∧ (c.result s vm vd fun i =>
      f.scalarForm.elem s.rounding (c.read s vs2 i) (c.read s vs1 i)).Holds s s' := by
  refine run_sameWidth_ok (fun c hc v1 hv1 t ht i _ _ => ?_) hrun
  obtain ⟨-, rfl⟩ := run_group_ok hv1
  rw [← ht.rounding]
  refine (f.scalarForm.computes (Nat.two_pow_pos _) _ _).of_eq ?_
  cases f <;> rfl

/-- `execute MVXTYPE`. -/
theorem run_executeMVXTYPE_ok {f : Mvxfunct6} {vm : BitVec 1} {vs2 rs1 vd : Regidx}
    (hrun : (executeMVXTYPE f vm vs2 rs1 vd).run s = .ok (.RETIRE_SUCCESS, s')) :
    ∃ c, ConfOf s c ∧
      (c.result s vm vd (f.elemOrSlide s c vs2 (c.readX s rs1))).Holds s s' := by
  refine run_sameWidth_ok (fun c hc v1 hv1 t ht i _ _ => ?_) hrun
  obtain rfl := run_scalar_ok hv1
  have hcomputes := f.computes (t := t) (Nat.two_pow_pos _) (c.read s vs2 i) (c.readX s rs1)
  rw [ht.rounding] at hcomputes
  cases f with
  | MVX_VSLIDE1UP => exact computes_slide1Up
  | MVX_VSLIDE1DOWN =>
      unfold Mvxfunct6.elemOrSlide
      rw [← ht.vl]
      exact computes_slide1Down
  | _ => exact hcomputes

/-- `execute MVVMATYPE`. -/
theorem run_executeMVVMATYPE_ok {f : Mvvmafunct6} {vm : BitVec 1} {vs2 vs1 vd : Regidx}
    (hrun : (executeMVVMATYPE f vm vs2 vs1 vd).run s = .ok (.RETIRE_SUCCESS, s')) :
    ∃ c, ConfOf s c ∧ (c.result s vm vd fun i =>
      f.scalarForm.elem (c.read s vs2 i) (c.read s vs1 i) (c.read s vd i)).Holds s s' := by
  refine run_sameWidth_ok (fun c hc v1 hv1 t ht i _ _ => ?_) hrun
  obtain ⟨-, rfl⟩ := run_group_ok hv1
  cases f <;> exact computes_just t _

/-- `execute MVXMATYPE`. -/
theorem run_executeMVXMATYPE_ok {f : Mvxmafunct6} {vm : BitVec 1} {vs2 rs1 vd : Regidx}
    (hrun : (executeMVXMATYPE f vm vs2 rs1 vd).run s = .ok (.RETIRE_SUCCESS, s')) :
    ∃ c, ConfOf s c ∧ (c.result s vm vd fun i =>
      f.elem (c.read s vs2 i) (c.readX s rs1) (c.read s vd i)).Holds s s' := by
  refine run_sameWidth_ok (fun c hc v1 hv1 t ht i _ _ => ?_) hrun
  obtain rfl := run_scalar_ok hv1
  cases f <;> exact computes_just t _

/-- `execute NVSTYPE`. -/
theorem run_executeNVSTYPE_ok {f : Nvsfunct6} {vm : BitVec 1} {vs2 vs1 vd : Regidx}
    (hrun : (executeNVSTYPE f vm vs2 vs1 vd).run s = .ok (.RETIRE_SUCCESS, s')) :
    ∃ c, ConfOf s c ∧ (c.result s vm vd fun i => f.scalarForm.elem c.sew (c.widen.read s vs2 i)
      ((c.read s vs1 i).toNat % c.widen.sew)).Holds s s' := by
  refine run_narrowing_ok (fun c hc v1 hv1 t ht i _ _ => ?_) hrun
  obtain ⟨-, rfl⟩ := run_group_ok hv1
  refine (f.scalarForm.computes hc.sew_bounds.1 _ _).of_eq ?_
  cases f <;> rfl

/-- `execute NXSTYPE`. -/
theorem run_executeNXSTYPE_ok {f : Nxsfunct6} {vm : BitVec 1} {vs2 rs1 vd : Regidx}
    (hrun : (executeNXSTYPE f vm vs2 rs1 vd).run s = .ok (.RETIRE_SUCCESS, s')) :
    ∃ c, ConfOf s c ∧ (c.result s vm vd fun i => f.elem c.sew (c.widen.read s vs2 i)
      ((c.readX s rs1).toNat % c.widen.sew)).Holds s s' := by
  refine run_narrowing_ok (fun c hc v1 hv1 t ht i _ _ => ?_) hrun
  obtain rfl := run_scalar_ok hv1
  refine (f.computes hc.sew_bounds.1 _ _).of_eq ?_
  cases f <;> rfl

/-- `execute NISTYPE`. -/
theorem run_executeNISTYPE_ok {f : Nisfunct6} {vm : BitVec 1} {vs2 simm vd : Regidx}
    (hrun : (executeNISTYPE f vm vs2 simm vd).run s = .ok (.RETIRE_SUCCESS, s')) :
    ∃ c, ConfOf s c ∧ (c.result s vm vd fun i => f.scalarForm.elem c.sew (c.widen.read s vs2 i)
      ((simm.signExtend c.sew).toNat % c.widen.sew)).Holds s s' := by
  refine run_narrowing_ok (fun c hc v1 hv1 t ht i _ _ => ?_) hrun
  cases hv1
  refine (f.scalarForm.computes hc.sew_bounds.1 _ _).of_eq ?_
  cases f <;> rfl

/-- `execute NVTYPE`. -/
theorem run_executeNVTYPE_ok {f : Nvfunct6} {vm : BitVec 1} {vs2 vs1 vd : Regidx}
    (hrun : (executeNVTYPE f vm vs2 vs1 vd).run s = .ok (.RETIRE_SUCCESS, s')) :
    ∃ c, ConfOf s c ∧ (c.result s vm vd fun i => f.scalarForm.elem s.rounding c.sew
      (c.widen.read s vs2 i) ((c.read s vs1 i).toNat % c.widen.sew)).Holds s s' := by
  refine run_narrowing_ok (fun c hc v1 hv1 t ht i _ _ => ?_) hrun
  obtain ⟨-, rfl⟩ := run_group_ok hv1
  rw [← ht.rounding]
  refine (f.scalarForm.computes hc.sew_bounds.1 _ _).of_eq ?_
  cases f <;> rfl

/-- `execute NXTYPE`. -/
theorem run_executeNXTYPE_ok {f : Nxfunct6} {vm : BitVec 1} {vs2 rs1 vd : Regidx}
    (hrun : (executeNXTYPE f vm vs2 rs1 vd).run s = .ok (.RETIRE_SUCCESS, s')) :
    ∃ c, ConfOf s c ∧ (c.result s vm vd fun i => f.elem s.rounding c.sew
      (c.widen.read s vs2 i) ((c.readX s rs1).toNat % c.widen.sew)).Holds s s' := by
  refine run_narrowing_ok (fun c hc v1 hv1 t ht i _ _ => ?_) hrun
  obtain rfl := run_scalar_ok hv1
  rw [← ht.rounding]
  refine (f.computes hc.sew_bounds.1 _ _).of_eq ?_
  cases f <;> rfl

/-- `execute NITYPE`. -/
theorem run_executeNITYPE_ok {f : Nifunct6} {vm : BitVec 1} {vs2 simm vd : Regidx}
    (hrun : (executeNITYPE f vm vs2 simm vd).run s = .ok (.RETIRE_SUCCESS, s')) :
    ∃ c, ConfOf s c ∧ (c.result s vm vd fun i => f.scalarForm.elem s.rounding c.sew
      (c.widen.read s vs2 i) ((simm.signExtend c.sew).toNat % c.widen.sew)).Holds s s' := by
  refine run_narrowing_ok (fun c hc v1 hv1 t ht i _ _ => ?_) hrun
  cases hv1
  rw [← ht.rounding]
  refine (f.scalarForm.computes hc.sew_bounds.1 _ _).of_eq ?_
  cases f <;> rfl

/-! ## Every instruction of the table -/

/-- A known specification in place of another one. -/
theorem holds_of_spec {i : VextArithInst} {g₀ g : VConf → VecSpec}
    (h : ∃ c, ConfOf s c ∧ (g₀ c).Holds s s') (h₀ : ∀ c, i.spec s c = some (g₀ c))
    (hi : ∀ c, i.spec s c = some (g c)) : ∃ c, ConfOf s c ∧ (g c).Holds s s' := by
  obtain ⟨c, hc, hholds⟩ := h
  have hg : g₀ c = g c := Option.some.inj ((h₀ c).symm.trans (hi c))
  exact ⟨c, hc, hg ▸ hholds⟩

/-- **An instruction that retires leaves behind the elements of the table.** -/
theorem run_execute_ok {i : VextArithInst} {g : VConf → VecSpec}
    (hi : ∀ c, i.spec s c = some (g c))
    (hrun : i.execute.run s = .ok (.RETIRE_SUCCESS, s')) :
    ∃ c, ConfOf s c ∧ (g c).Holds s s' := by
  cases i with
  | VVTYPE f vm vs2 vs1 vd => exact holds_of_spec (run_executeVVTYPE_ok hrun) (fun _ => rfl) hi
  | NVSTYPE f vm vs2 vs1 vd => exact holds_of_spec (run_executeNVSTYPE_ok hrun) (fun _ => rfl) hi
  | NVTYPE f vm vs2 vs1 vd => exact holds_of_spec (run_executeNVTYPE_ok hrun) (fun _ => rfl) hi
  | MASKTYPEV vs2 vs1 vd =>
      refine holds_of_spec (run_executeMerge_ok ?_ hrun) (fun _ => rfl) hi
      intro t ht c v hv
      rw [run_srcV_ok hv, ht.read]
  | MOVETYPEV vs1 vd =>
      exact holds_of_spec (run_executeMove_ok (fun _ _ hv => run_srcV_ok hv) hrun) (fun _ => rfl) hi
  | VXTYPE f vm vs2 rs1 vd => exact holds_of_spec (run_executeVXTYPE_ok hrun) (fun _ => rfl) hi
  | NXSTYPE f vm vs2 rs1 vd => exact holds_of_spec (run_executeNXSTYPE_ok hrun) (fun _ => rfl) hi
  | NXTYPE f vm vs2 rs1 vd => exact holds_of_spec (run_executeNXTYPE_ok hrun) (fun _ => rfl) hi
  | VXSG f vm vs2 rs1 vd => exact holds_of_spec (run_executeVXSG_ok hrun) (fun _ => rfl) hi
  | MASKTYPEX vs2 rs1 vd =>
      refine holds_of_spec (run_executeMerge_ok ?_ hrun) (fun _ => rfl) hi
      intro t ht c v hv
      rw [run_srcX_ok hv, ht.readX]
  | MOVETYPEX rs1 vd =>
      exact holds_of_spec (run_executeMove_ok (fun _ _ hv => run_srcX_ok hv) hrun) (fun _ => rfl) hi
  | VITYPE f vm vs2 simm vd => exact holds_of_spec (run_executeVITYPE_ok hrun) (fun _ => rfl) hi
  | NISTYPE f vm vs2 simm vd => exact holds_of_spec (run_executeNISTYPE_ok hrun) (fun _ => rfl) hi
  | NITYPE f vm vs2 simm vd => exact holds_of_spec (run_executeNITYPE_ok hrun) (fun _ => rfl) hi
  | VISG f vm vs2 simm vd => exact holds_of_spec (run_executeVISG_ok hrun) (fun _ => rfl) hi
  | MASKTYPEI vs2 simm vd =>
      exact holds_of_spec (run_executeMerge_ok (fun _ _ _ _ hv => run_srcI_ok hv) hrun)
        (fun _ => rfl) hi
  | MOVETYPEI vd simm =>
      exact holds_of_spec (run_executeMove_ok (fun _ _ hv => run_srcI_ok hv) hrun) (fun _ => rfl) hi
  | VMVRTYPE vs2 simm vd => cases hi ⟨0, 0, 0⟩
  | MVVTYPE f vm vs2 vs1 vd => exact holds_of_spec (run_executeMVVTYPE_ok hrun) (fun _ => rfl) hi
  | MVVMATYPE f vm vs2 vs1 vd =>
      exact holds_of_spec (run_executeMVVMATYPE_ok hrun) (fun _ => rfl) hi
  | WVVTYPE f vm vs2 vs1 vd =>
      refine holds_of_spec (run_widening_ok ?_ hrun) (fun _ => rfl) hi
      intro c _ v1 hv1 v2 hv2 i
      obtain ⟨-, rfl⟩ := run_group_ok hv1
      obtain ⟨-, rfl⟩ := run_group_ok hv2
      cases f <;> rfl
  | WVTYPE f vm vs2 vs1 vd =>
      refine holds_of_spec (run_widening_ok ?_ hrun) (fun _ => rfl) hi
      intro c _ v1 hv1 v2 hv2 i
      obtain ⟨-, rfl⟩ := run_group_ok hv1
      obtain ⟨-, rfl⟩ := run_group_ok hv2
      cases f <;> rfl
  | WMVVTYPE f vm vs2 vs1 vd =>
      refine holds_of_spec (run_widening_ok ?_ hrun) (fun _ => rfl) hi
      intro c _ v1 hv1 v2 hv2 i
      obtain ⟨-, rfl⟩ := run_group_ok hv1
      obtain ⟨-, rfl⟩ := run_group_ok hv2
      cases f <;> rfl
  | VEXT2TYPE f vm vs2 vd => exact holds_of_spec (run_extension_ok hrun) (fun _ => rfl) hi
  | VEXT4TYPE f vm vs2 vd => exact holds_of_spec (run_extension_ok hrun) (fun _ => rfl) hi
  | VEXT8TYPE f vm vs2 vd => exact holds_of_spec (run_extension_ok hrun) (fun _ => rfl) hi
  | VMVXS vs2 rd => cases hi ⟨0, 0, 0⟩
  | MVVCOMPRESS vs2 vs1 vd => cases hi ⟨0, 0, 0⟩
  | MVXTYPE f vm vs2 rs1 vd => exact holds_of_spec (run_executeMVXTYPE_ok hrun) (fun _ => rfl) hi
  | MVXMATYPE f vm vs2 rs1 vd =>
      exact holds_of_spec (run_executeMVXMATYPE_ok hrun) (fun _ => rfl) hi
  | WVXTYPE f vm vs2 rs1 vd =>
      refine holds_of_spec (run_widening_ok ?_ hrun) (fun _ => rfl) hi
      intro c _ v1 hv1 v2 hv2 i
      obtain rfl := run_scalar_ok hv1
      obtain ⟨-, rfl⟩ := run_group_ok hv2
      cases f <;> rfl
  | WXTYPE f vm vs2 rs1 vd =>
      refine holds_of_spec (run_widening_ok ?_ hrun) (fun _ => rfl) hi
      intro c _ v1 hv1 v2 hv2 i
      obtain rfl := run_scalar_ok hv1
      obtain ⟨-, rfl⟩ := run_group_ok hv2
      cases f <;> rfl
  | WMVXTYPE f vm vs2 rs1 vd =>
      refine holds_of_spec (run_widening_ok ?_ hrun) (fun _ => rfl) hi
      intro c _ v1 hv1 v2 hv2 i
      obtain rfl := run_scalar_ok hv1
      obtain ⟨-, rfl⟩ := run_group_ok hv2
      cases f <;> rfl
  | VMVSX rs1 vd => cases hi ⟨0, 0, 0⟩

end SailRiscv
