/-
# Vector operations and the floating-point registers

The operations on vector registers and on their elements, apart from floating-point arithmetic,
have nothing to do with the floating-point registers.  They read the vector state, or write it
by steps of four kinds: to the vector registers, to `vstart`, to `vcsr`, and to the status of the
vector context.
-/
import SailRiscv.FpFreeInsts

namespace SailRiscv

open Bits Platform

variable [Platform]

/-! ## Steps of the vector state -/

/-- The vector registers and the vector CSRs other than `vlenb`. -/
structure VecRegs where
  v : Fin 32 → Vregtype
  vstart : BitVec 16
  vl : Xlenbits
  vtype : Xlenbits
  vcsr : BitVec 3

/-- The state with other vector registers. -/
def State.withVec (s : State) (p : VecRegs) : State :=
  { s with
    v := p.v
    vstart := p.vstart
    vl := p.vl
    vtype := p.vtype
    vcsr := p.vcsr }

/-- The vector registers of a state. -/
def State.vecRegs (s : State) : VecRegs where
  v := s.v
  vstart := s.vstart
  vl := s.vl
  vtype := s.vtype
  vcsr := s.vcsr

/-- The state after `dirty_v_context`. -/
def State.dirtyV (s : State) : State :=
  { s with
    mstatus := Mstatus.SD.set (Mstatus.VS.set s.mstatus (extStatusToBits .Dirty)) 1#1 }

/-- The relation contains the writes to the vector state. -/
class VecClosed (W : View) : Prop where
  vec : ∀ s p, W.rel s (State.withVec s p)
  dirty : ∀ s, W.rel s s.dirtyV

/-- The relation contains the writes to `vcsr`. -/
class SatClosed (W : View) : Prop where
  sat : ∀ s c, W.rel s { s with vcsr := c }

/-- The relation contains the writes to `vstart`. -/
class StartClosed (W : View) : Prop where
  start : ∀ s i, W.rel s { s with vstart := i }

instance {W : View} [h : VecClosed W] : SatClosed W where
  sat s c := h.vec s { s.vecRegs with vcsr := c }

instance {W : View} [h : VecClosed W] : StartClosed W where
  start s i := h.vec s { s.vecRegs with vstart := i }

instance : VecClosed Anything where
  vec _ _ := trivial
  dirty _ := trivial

/-! ## Conditions on the state -/

section Conditions

variable {W : View}

instance {α : Type} (a : α) : Exec.Indep W.swap (fun _ : State => a) := ⟨fun _ _ => rfl⟩

instance (f g : State → Bool) [hf : Exec.Indep W.swap f] [hg : Exec.Indep W.swap g] :
    Exec.Indep W.swap (fun s => f s || g s) where
  free p s := by rw [hf.free, hg.free]

instance (f : State → Bool) [hf : Exec.Indep W.swap f] :
    Exec.Indep W.swap (fun s => !f s) where
  free p s := by rw [hf.free]

instance : Exec.Indep W.swap (fun s : State => s.vstart.toNat) := ⟨fun _ _ => rfl⟩

instance : Exec.Indep W.swap (fun s : State => s.vl.toNat) := ⟨fun _ _ => rfl⟩

instance (i : ℕ) : Exec.Indep W.swap (fun s => assertVstart s i) := ⟨fun _ _ => rfl⟩

instance (vd : Regidx) (vm : BitVec 1) : Exec.Indep W.swap (fun s => illegalNormal s vd vm) :=
  ⟨fun _ _ => rfl⟩

instance (vd : Regidx) : Exec.Indep W.swap (fun s => illegalVdMasked s vd) := ⟨fun _ _ => rfl⟩

instance : Exec.Indep W.swap illegalVdUnmasked := ⟨fun _ _ => rfl⟩

instance (vd : Regidx) (vm : BitVec 1) (SEW : ℕ) (LMUL : ℤ) :
    Exec.Indep W.swap (fun s => illegalVariableWidth s vd vm SEW LMUL) := ⟨fun _ _ => rfl⟩

instance : Exec.Indep W.swap illegalReduction := ⟨fun _ _ => rfl⟩

instance (SEW : ℕ) (LMUL : ℤ) : Exec.Indep W.swap (fun s => illegalReductionWiden s SEW LMUL) :=
  ⟨fun _ _ => rfl⟩

instance (vd : Regidx) (vm : BitVec 1) (nf EEW : ℕ) (EMUL : ℤ) :
    Exec.Indep W.swap (fun s => illegalLoad s vd vm nf EEW EMUL) := ⟨fun _ _ => rfl⟩

instance (nf EEW : ℕ) (EMUL : ℤ) : Exec.Indep W.swap (fun s => illegalStore s nf EEW EMUL) :=
  ⟨fun _ _ => rfl⟩

instance (vd : Regidx) (vm : BitVec 1) (nf EEWindex : ℕ) (EMULindex EMULdata : ℤ) :
    Exec.Indep W.swap (fun s => illegalIndexedLoad s vd vm nf EEWindex EMULindex EMULdata) :=
  ⟨fun _ _ => rfl⟩

instance (nf EEWindex : ℕ) (EMULindex EMULdata : ℤ) :
    Exec.Indep W.swap (fun s => illegalIndexedStore s nf EEWindex EMULindex EMULdata) :=
  ⟨fun _ _ => rfl⟩

end Conditions

/-! ## Reads of the vector state -/

section Reads

variable {W : View} [Std.Refl W.rel] [IsTrans State W.rel]

omit [IsTrans State W.rel] in
instance fpFree_rV (r : Regidx) : FpFree W (rV r) := by
  have := indep (W := W) (f := fun s => s.V r) (fun _ _ => rfl)
  unfold rV
  infer_instance

omit [Platform] in
/-- A field of `vtype` that is asserted not to be reserved. -/
theorem orAssert_ne {α : Type} (v : Option α) (msg : String) [h : OtherLabel msg] :
    orAssert v msg ≠ .error fpFault := by
  intro hv
  rcases v with _ | a
  · injection hv with hv
    injection hv with hv
    exact h.ne hv
  · exact absurd hv nofun

omit [IsTrans State W.rel] in
instance : FpFree W getSewPow :=
  fpFree_checks (fun _ _ => rfl) (fun _ => orAssert_ne _ _)

instance : FpFree W getSew := by
  unfold getSew
  infer_instance

omit [IsTrans State W.rel] in
instance : FpFree W getLmulPow :=
  fpFree_checks (fun _ _ => rfl) (fun _ => orAssert_ne _ _)

instance (lmul : ℤ) (SEW : ℕ) : FpFree W (getNumElem lmul SEW) := by
  unfold getNumElem
  infer_instance

instance : FpFree W vconf := by
  unfold vconf
  infer_instance

instance (numElem SEW : ℕ) (vrid : Regidx) : FpFree W (readSingleVreg numElem SEW vrid) := by
  unfold readSingleVreg
  infer_instance

omit [IsTrans State W.rel] in
instance (numElem numElemSingle i : ℕ) : FpFree W (assertInGroup numElem numElemSingle i) := by
  unfold assertInGroup
  infer_instance

instance (numElem SEW : ℕ) (lmul : ℤ) (vrid : Regidx) :
    FpFree W (readVreg numElem SEW lmul vrid) := by
  unfold readVreg
  infer_instance

omit [IsTrans State W.rel] in
instance (n d : ℕ) : FpFree W (divOrError n d) := by
  unfold divOrError
  infer_instance

instance (EEW index : ℕ) (vrid : Regidx) : FpFree W (readSingleElement EEW index vrid) := by
  unfold readSingleElement
  infer_instance

instance (numElem : ℕ) (vm : BitVec 1) (vrid : Regidx) : FpFree W (readVmask numElem vm vrid) := by
  unfold readVmask
  infer_instance

instance (numElem : ℕ) (vm : BitVec 1) (vrid : Regidx) :
    FpFree W (readVmaskCarry numElem vm vrid) := by
  unfold readVmaskCarry
  infer_instance

instance (numElem SEW : ℕ) (lmul : ℤ) (nf : ℕ) (vrid : Regidx) :
    FpFree W (readVregSeg numElem SEW lmul nf vrid) := by
  unfold readVregSeg
  infer_instance

instance (rs1 : Regidx) (SEW : ℕ) : FpFree W (getScalar rs1 SEW) := by
  unfold getScalar
  infer_instance

omit [IsTrans State W.rel] in
instance : FpFree W getEndElement := by
  have := indep (W := W) (f := fun s : State => (s.vl.toNat : ℤ) - 1) (fun _ _ => rfl)
  unfold getEndElement
  infer_instance

instance {n : ℕ} (v : BitVec n) (SEW : ℕ) : FpFree W (getShiftAmount v SEW) := by
  unfold getShiftAmount
  infer_instance

omit [IsTrans State W.rel] in
instance {m : ℕ} (v : BitVec m) (shift : ℕ) : FpFree W (getFixedRoundingIncr v shift) := by
  have := indep (W := W) (f := fun s : State => fixedRoundingIncr (Vcsr.vxrm.get s.vcsr) v shift)
    (fun _ _ => rfl)
  unfold getFixedRoundingIncr
  infer_instance

instance : FpFree W getSewBytes := by
  unfold getSewBytes
  infer_instance

/-! ## Operands -/

omit [IsTrans State W.rel] in
instance {α : Type} (a : α) : FpFree W (just a : M (Option α)) := by
  unfold just
  infer_instance

instance (c : VConf) (r : Regidx) : FpFree W (c.group r) := by
  unfold VConf.group
  infer_instance

instance (c : VConf) (r : Regidx) : FpFree W (c.scalar r) := by
  unfold VConf.scalar
  infer_instance

omit [IsTrans State W.rel] in
instance (c : VConf) (simm : BitVec 5) : FpFree W (c.imm simm) := by
  unfold VConf.imm
  infer_instance

instance (r : Regidx) (c : VConf) : FpFree W (srcV r c) := by
  unfold srcV
  infer_instance

instance (r : Regidx) (c : VConf) : FpFree W (srcX r c) := by
  unfold srcX
  infer_instance

instance (simm : BitVec 5) (c : VConf) : FpFree W (srcI simm c) := by
  unfold srcI
  infer_instance

instance (rs1 : Regidx) : FpFree W (offsetX rs1) := by
  unfold offsetX
  infer_instance

omit [IsTrans State W.rel] in
instance (simm : BitVec 5) : FpFree W (offsetI simm) := by
  unfold offsetI
  infer_instance

end Reads

/-! ## Writes of the vector state -/

section Writes

variable {W : View}

/-- An update of the vector registers. -/
theorem fpFree_vec [VecClosed W] {f : State → State} (h : ∀ s, f s = s.withVec (f s).vecRegs)
    (hf : ∀ p s, f (fpSwap p s) = fpSwap p (f s)) : FpFree W (Exec.update f : M Unit) := by
  refine fpFree_update (fun s => ?_) hf
  rw [h s]
  exact VecClosed.vec _ _

instance (i : ℕ) [VecClosed W] : FpFree W (trimVl i) := fpFree_vec (fun _ => rfl) (fun _ _ => rfl)

instance (i : ℕ) [StartClosed W] : FpFree W (setVstart i) :=
  fpFree_update (fun _ => StartClosed.start _ _) (fun _ _ => rfl)

instance [SatClosed W] : FpFree W setVxsat :=
  fpFree_update (fun _ => SatClosed.sat _ _) (fun _ _ => rfl)

variable [Std.Refl W.rel] [IsTrans State W.rel]

instance [StartClosed W] : FpFree W endVector := by
  have : FpFree W (Exec.update (fun s => { s with vstart := 0#16 }) : M Unit) :=
    fpFree_update (fun _ => StartClosed.start _ _) (fun _ _ => rfl)
  unfold endVector
  infer_instance

instance fpFree_dirtyVContext [VecClosed W] : FpFree W dirtyVContext := by
  have hdirty : FpFree W (Exec.update State.dirtyV : M Unit) :=
    fpFree_update VecClosed.dirty (fun _ _ => rfl)
  unfold dirtyVContext
  exact @Exec.plain_bind _ _ _ _ _ _ _ _ _ _ _ inferInstance (fun _ => hdirty)

instance fpFree_wV [VecClosed W] (r : Regidx) (v : Vregtype) : FpFree W (wV r v) := by
  have := fpFree_vec (W := W) (f := fun s => { s with
    v := Function.update s.v r.toFin v }) (fun _ => rfl) (fun _ _ => rfl)
  unfold wV
  infer_instance

instance [VecClosed W] (numElem SEW : ℕ) (vrid : Regidx) (v : ℕ → BitVec SEW) :
    FpFree W (writeSingleVreg numElem SEW vrid v) := by
  unfold writeSingleVreg
  infer_instance

instance [VecClosed W] (numElem SEW : ℕ) (lmul : ℤ) (vrid : Regidx) (vec : ℕ → BitVec SEW) :
    FpFree W (writeVreg numElem SEW lmul vrid vec) := by
  unfold writeVreg
  infer_instance

instance [VecClosed W] (EEW index : ℕ) (vrid : Regidx) (value : BitVec EEW) :
    FpFree W (writeSingleElement EEW index vrid value) := by
  unfold writeSingleElement
  infer_instance

instance [VecClosed W] (numElem : ℕ) (vrid : Regidx) (v : ℕ → Bool) :
    FpFree W (writeVmask numElem vrid v) := by
  unfold writeVmask
  infer_instance

instance [VecClosed W] (bytes nf : ℕ) (EMUL : ℤ) (vd : Regidx)
    (segment : BitVec (nf * (8 * bytes))) (i : ℕ) :
    FpFree W (writeSkipped bytes nf EMUL vd segment i) := by
  unfold writeSkipped
  infer_instance

/-! ## Elements -/

section Saturation

variable [SatClosed W]

instance (m : ℕ) {n : ℕ} (v : BitVec n) : FpFree W (unsignedSaturation m v) := by
  unfold unsignedSaturation
  infer_instance

instance (m : ℕ) {n : ℕ} (v : BitVec n) : FpFree W (signedSaturation m v) := by
  unfold signedSaturation
  infer_instance

variable {m n : ℕ}

instance (a b : BitVec m) : FpFree W (vsaddu a b) := by
  unfold vsaddu
  infer_instance

instance (a b : BitVec m) : FpFree W (vsadd a b) := by
  unfold vsadd
  infer_instance

instance (a b : BitVec m) : FpFree W (vssubu a b) := by
  unfold vssubu
  infer_instance

instance (a b : BitVec m) : FpFree W (vssub a b) := by
  unfold vssub
  infer_instance

instance (a b : BitVec m) : FpFree W (vsmul a b) := by
  unfold vsmul
  infer_instance

instance (o : ℕ) (a : BitVec m) (b : BitVec n) : FpFree W (vnclipu o a b) := by
  unfold vnclipu
  infer_instance

instance (o : ℕ) (a : BitVec m) (b : BitVec n) : FpFree W (vnclip o a b) := by
  unfold vnclip
  infer_instance

end Saturation

section Rounding

variable {m n : ℕ}

instance (r : BitVec (m + 1)) : FpFree W (average r) := by
  unfold average
  infer_instance

instance (a b : BitVec m) : FpFree W (vaaddu a b) := by
  unfold vaaddu
  infer_instance

instance (a b : BitVec m) : FpFree W (vaadd a b) := by
  unfold vaadd
  infer_instance

instance (a b : BitVec m) : FpFree W (vasubu a b) := by
  unfold vasubu
  infer_instance

instance (a b : BitVec m) : FpFree W (vasub a b) := by
  unfold vasub
  infer_instance

instance (a : BitVec m) (b : BitVec n) : FpFree W (vsll a b) := by
  unfold vsll
  infer_instance

instance (a : BitVec m) (b : BitVec n) : FpFree W (vsrl a b) := by
  unfold vsrl
  infer_instance

instance (a : BitVec m) (b : BitVec n) : FpFree W (vsra a b) := by
  unfold vsra
  infer_instance

instance (a : BitVec m) (b : BitVec n) : FpFree W (vssrl a b) := by
  unfold vssrl
  infer_instance

instance (a : BitVec m) (b : BitVec n) : FpFree W (vssra a b) := by
  unfold vssra
  infer_instance

instance (o : ℕ) (a : BitVec m) (b : BitVec n) : FpFree W (vnsrl o a b) := by
  unfold vnsrl
  infer_instance

instance (o : ℕ) (a : BitVec m) (b : BitVec n) : FpFree W (vnsra o a b) := by
  unfold vnsra
  infer_instance

end Rounding

end Writes

end SailRiscv
