/-
# Floating-point instructions

What floating-point instructions do to the floating-point state, and under which conditions they
do not run into the assertions of the accessors of this state.  A view that asks for the latter
has to make these conditions available (`Ready`).
-/
import SailRiscv.VextFreeInsts

namespace SailRiscv

open Bits Platform

variable [Platform]

/-! ## Steps of the floating-point state -/

/-- The state after `dirty_fd_context`. -/
def State.dirtyFd (s : State) : State :=
  { s with
    mstatus := Mstatus.SD.set (Mstatus.FS.set s.mstatus (extStatusToBits .Dirty)) 1#1 }

/-- The view lets floating-point registers be seen, and its relation contains the writes to the
floating-point state. -/
class FpClosed (W : View) : Prop where
  sees : ¬ W.blind
  fp : ∀ s f fcsr, W.rel s (State.withFp s f fcsr)
  dirty : sysEnableFdext = true → ∀ s, W.rel s s.dirtyFd

omit [Platform] in
/-- Where the view excludes the failures of assertions, `P` holds. -/
class Ready (W : View) (P : Prop) : Prop where
  ready : W.safe → P

/-- The floating-point registers exist. -/
def FRegs : Prop := sysEnableFdext = true ∧ sysEnableZfinx = false

/-- Floating-point values are held in floating-point or in integer registers. -/
def FpBuild : Prop := sysEnableFdext ≠ sysEnableZfinx

/-- Values of a format fit into the registers. -/
def FpFormat.Fits (f : FpFormat) : Prop := f.width ≤ flen

/-- The register `i` can hold a value of the format `f`. -/
def FpUsable (f : FpFormat) (i : Regidx) : Prop :=
  f.Fits ∧ FpBuild ∧ (sysEnableFdext = false → f = .D → xlen < 64 → i.getLsbD 0 = false)

theorem FRegs.fpBuild (h : FRegs) : FpBuild := by
  unfold FpBuild
  rw [h.1, h.2]
  decide

section

variable {W : View}

/-- Every part of the state may be read. -/
instance (priority := low) indep_of_sees [h : FpClosed W] {α : Type} (f : State → α) :
    Exec.Indep W.swap f := ⟨fun p => absurd p.2 h.sees⟩

theorem Ready.mono {P Q : Prop} (h : P → Q) [hP : Ready W P] : Ready W Q :=
  ⟨fun hs => h (hP.ready hs)⟩

variable [Std.Refl W.rel]

/-- An assertion of an accessor that holds when the view is safe. -/
theorem fpFree_access {c : Bool} (h : W.safe → c = true) : FpFree W (assert c fpAccessor) := by
  unfold assert
  refine Exec.plain_of_ite (fun _ => inferInstance) (fun hc => ?_)
  exact Exec.plain_abort (fun hE => hc (h hE.1))

/-- The rest of a computation can rely on an assertion. -/
theorem fpFree_assert_bind [IsTrans State W.rel] {α : Type} {c : Bool} {msg : String}
    [OtherLabel msg] {k : Unit → M α} (h : c = true → FpFree W (k ())) :
    FpFree W (assert c msg >>= k) := by
  by_cases hc : c = true
  · have := h hc
    exact @Exec.plain_bind _ _ _ _ _ _ _ _ _ _ _ inferInstance (fun _ => this)
  · have hrun : (assert c msg >>= k) = Exec.abort (.assertFailed msg) := by
      unfold assert
      rw [if_neg hc]
      rfl
    rw [hrun]
    refine fpFree_abort (fun he => ?_)
    injection he with he
    exact (inferInstance : OtherLabel msg).ne he

end

/-! ## Accessors -/

section Accessors

variable {W : View} [CoreClosed W] [FpClosed W]

instance fpFree_dirtyFdContext [h : Ready W (sysEnableFdext = true)] :
    FpFree W dirtyFdContext := by
  have hassert : FpFree W (assert sysEnableFdext fpAccessor) := fpFree_access h.ready
  unfold dirtyFdContext
  by_cases hf : sysEnableFdext = true
  · have hdirty : FpFree W (Exec.update State.dirtyFd : M Unit) :=
      Exec.plain_update (FpClosed.dirty hf) (fun p => absurd p.2 FpClosed.sees)
    exact @Exec.plain_bind _ _ _ _ _ _ _ _ _ _ _ inferInstance (fun _ => hdirty)
  · -- the assertion fails, and nothing follows it
    rw [show sysEnableFdext = false by simpa using hf] at hassert ⊢
    exact hassert

instance fpFree_dirtyFdContextIfPresent [h : Ready W FpBuild] :
    FpFree W dirtyFdContextIfPresent := by
  have hassert : FpFree W (assert (sysEnableFdext != sysEnableZfinx) fpAccessor) :=
    fpFree_access (fun hs => by simpa [FpBuild] using h.ready hs)
  unfold dirtyFdContextIfPresent
  refine @Exec.plain_bind _ _ _ _ _ _ _ _ _ _ _ inferInstance (fun _ => ?_)
  refine Exec.plain_of_ite (fun hf => ?_) (fun _ => inferInstance)
  have : Ready W (sysEnableFdext = true) := ⟨fun _ => hf⟩
  infer_instance

omit [CoreClosed W] in
/-- An update of the floating-point registers. -/
theorem fpFree_fp {f : State → State} (h : ∀ s, f s = s.withFp (f s).f (f s).fcsr) :
    FpFree W (Exec.update f : M Unit) := by
  refine Exec.plain_update (fun s => ?_) (fun p => absurd p.2 FpClosed.sees)
  rw [h s]
  exact FpClosed.fp _ _ _

instance fpFree_rF (i : Regidx) [h : Ready W (sysEnableFdext = true)] : FpFree W (rF i) := by
  have : FpFree W (assert sysEnableFdext fpAccessor) := fpFree_access h.ready
  unfold rF
  infer_instance

instance fpFree_wF (i : Regidx) (v : BitVec flen) [h : Ready W (sysEnableFdext = true)] :
    FpFree W (wF i v) := by
  have : FpFree W (assert sysEnableFdext fpAccessor) := fpFree_access h.ready
  have := fpFree_fp (W := W) (f := fun s => { s with
    f := Function.update s.f i.toFin v }) (fun _ => rfl)
  unfold wF
  infer_instance

omit [FpClosed W] in
/-- The assertions of the accessors of a format. -/
theorem fpFree_formatAccess {f : FpFormat} (h : W.safe → f.Fits ∧ FRegs) :
    FpFree W (assert (decide (f.width ≤ flen)) fpAccessor)
      ∧ FpFree W (assert (sysEnableFdext && !sysEnableZfinx) fpAccessor)
      ∧ Ready W (sysEnableFdext = true) :=
  ⟨fpFree_access (fun hs => decide_eq_true (h hs).1),
    fpFree_access (fun hs => by rw [(h hs).2.1, (h hs).2.2]; rfl), ⟨fun hs => (h hs).2.1⟩⟩

instance fpFree_rFp (f : FpFormat) (i : Regidx) [hf : Ready W f.Fits] [h : Ready W FRegs] :
    FpFree W (rFp f i) := by
  obtain ⟨h₁, h₂, h₃⟩ := fpFree_formatAccess (W := W) (f := f)
    (fun hs => ⟨hf.ready hs, h.ready hs⟩)
  unfold rFp
  infer_instance

instance fpFree_wFp (f : FpFormat) (i : Regidx) (data : BitVec f.width) [hf : Ready W f.Fits]
    [h : Ready W FRegs] : FpFree W (wFp f i data) := by
  obtain ⟨h₁, h₂, h₃⟩ := fpFree_formatAccess (W := W) (f := f)
    (fun hs => ⟨hf.ready hs, h.ready hs⟩)
  unfold wFp
  infer_instance

omit [FpClosed W] in
/-- The registers that hold the values of a format. -/
theorem fpFree_holder {f : FpFormat} {i : Regidx} (h : Ready W (FpUsable f i)) :
    FpFree W (assert (decide (f.width ≤ flen)) fpAccessor)
      ∧ FpFree W (assert (sysEnableFdext != sysEnableZfinx) fpAccessor)
      ∧ (sysEnableFdext = true → Ready W f.Fits ∧ Ready W FRegs) := by
  refine ⟨fpFree_access (fun hs => decide_eq_true (h.ready hs).1),
    fpFree_access (fun hs => by simpa [FpBuild] using (h.ready hs).2.1),
    fun hx => ⟨⟨fun hs => (h.ready hs).1⟩, ⟨fun hs => ⟨hx, ?_⟩⟩⟩⟩
  have hb : sysEnableFdext ≠ sysEnableZfinx := (h.ready hs).2.1
  rw [hx] at hb
  cases hz : sysEnableZfinx with
  | false => rfl
  | true => exact absurd hz.symm hb

omit [FpClosed W] in
/-- The first register of the pair that holds a double is even. -/
theorem fpFree_evenAccess {i : Regidx} (h : Ready W (FpUsable .D i))
    (hx : sysEnableFdext = false) (hxlen : ¬ xlen ≥ 64) :
    FpFree W (assert (!i.getLsbD 0) fpAccessor) :=
  fpFree_access (fun hs => by rw [(h.ready hs).2.2 hx rfl (by omega)]; rfl)

instance fpFree_rFOrX (f : FpFormat) (i : Regidx) [h : Ready W (FpUsable f i)] :
    FpFree W (rFOrX f i) := by
  obtain ⟨h₁, h₂, h₃⟩ := fpFree_holder h
  unfold rFOrX
  refine @Exec.plain_bind _ _ _ _ _ _ _ _ _ _ _ inferInstance (fun _ => ?_)
  refine @Exec.plain_bind _ _ _ _ _ _ _ _ _ _ _ inferInstance (fun _ => ?_)
  refine Exec.plain_of_ite (fun hx => ?_) (fun hx => ?_)
  · obtain ⟨_, _⟩ := h₃ hx
    infer_instance
  · rcases f
    · unfold rXfp
      infer_instance
    · unfold rXfp
      infer_instance
    · unfold rXfp
      refine Exec.plain_of_ite (fun _ => inferInstance) (fun hxlen => ?_)
      have := fpFree_evenAccess h (by simpa using hx) hxlen
      unfold rXpair
      infer_instance

omit [CoreClosed W] in
/-- A write to integer registers. -/
theorem fpFree_intWrite {f : State → State} (h : ∀ s, W.rel s (f s)) :
    FpFree W (Exec.update f : M Unit) :=
  Exec.plain_update h (fun p => absurd p.2 FpClosed.sees)

instance fpFree_wFOrX (f : FpFormat) (i : Regidx) (data : BitVec f.width)
    [h : Ready W (FpUsable f i)] : FpFree W (wFOrX f i data) := by
  obtain ⟨h₁, h₂, h₃⟩ := fpFree_holder h
  unfold wFOrX
  refine @Exec.plain_bind _ _ _ _ _ _ _ _ _ _ _ inferInstance (fun _ => ?_)
  refine @Exec.plain_bind _ _ _ _ _ _ _ _ _ _ _ inferInstance (fun _ => ?_)
  refine Exec.plain_of_ite (fun hx => ?_) (fun hx => ?_)
  · obtain ⟨_, _⟩ := h₃ hx
    infer_instance
  · rcases f
    · unfold wXfp
      infer_instance
    · unfold wXfp
      infer_instance
    · unfold wXfp
      refine Exec.plain_of_ite (fun _ => inferInstance) (fun hxlen => ?_)
      have := fpFree_evenAccess h (by simpa using hx) hxlen
      unfold wXpair
      refine @Exec.plain_bind _ _ _ _ _ _ _ _ _ _ _ inferInstance (fun _ => ?_)
      refine fpFree_intWrite (fun s => ?_)
      split
      · exact Std.Refl.refl s
      · exact IsTrans.trans _ _ _ (rel_setX _ _ _) (rel_setX _ _ _)

instance fpFree_accrueFflags (flags : Fflags) [Ready W FpBuild] :
    FpFree W (accrueFflags flags) := by
  have (g : State → BitVec 32) := fpFree_fp (W := W) (f := fun s => { s with
    fcsr := g s }) (fun _ => rfl)
  unfold accrueFflags
  infer_instance

variable [TrapClosed W]

instance (k : BitVec 3 → M Retired) (r : Option RoundingMode) [∀ rm, FpFree W (k rm)] :
    FpFree W (onRm k r) := by
  unfold onRm
  rcases r <;> infer_instance

instance (rm : RoundingMode) (k : BitVec 3 → M Retired) [∀ rm, FpFree W (k rm)] :
    FpFree W (withRm rm k) := by
  unfold withRm
  infer_instance

end Accessors

/-! ## Scalar instructions -/

section Scalar

set_option synthInstance.maxSize 4000

variable {W : View} [CoreClosed W] [TrapClosed W] [FpClosed W]

instance (imm : BitVec 12) (rs1 rd : Regidx) (width : WordWidth)
    [Ready W (sysEnableFdext = true)] : FpFree W (executeLoadFp imm rs1 rd width) := by
  have hload (vaddr addr : Xlenbits) : FpFree W (loadFp rd vaddr addr width) := by
    unfold loadFp processFload64 processFload reportInvalidWidth
    cases width <;> infer_instance
  unfold executeLoadFp
  infer_instance

instance (imm : BitVec 12) (rs2 rs1 : Regidx) (width : WordWidth)
    [Ready W (sysEnableFdext = true)] : FpFree W (executeStoreFp imm rs2 rs1 width) := by
  have hea (addr : Xlenbits) : FpFree W (storeFpEa addr width) := by
    unfold storeFpEa
    cases width <;> infer_instance
  have hstore (vaddr addr : Xlenbits) (v : BitVec flen) :
      FpFree W (storeFp vaddr addr v width) := by
    unfold storeFp storeFpBytes reportInvalidWidth
    cases width <;> infer_instance
  unfold executeStoreFp
  infer_instance

variable [SoftFloat]

instance (f : FpFormat) (rd : Regidx) (r : Fflags × BitVec f.width) [Ready W (FpUsable f rd)] :
    FpFree W (retireF f rd r) := by
  have : Ready W FpBuild := Ready.mono (P := FpUsable f rd) (fun h => h.2.1)
  unfold retireF
  infer_instance

instance (rd : Regidx) (fflags : Fflags) (v : Xlenbits) [Ready W FpBuild] :
    FpFree W (retireFlagsX rd fflags v) := by
  unfold retireFlagsX
  infer_instance

instance {n : ℕ} (f : FpFormat) (rs1 : Regidx) (rm : RoundingMode) (rd : Regidx)
    (conv : BitVec 3 → BitVec f.width → Fflags × BitVec n) [Ready W (FpUsable f rs1)] :
    FpFree W (convertToInt f rs1 rm rd conv) := by
  have : Ready W FpBuild := Ready.mono (P := FpUsable f rs1) (fun h => h.2.1)
  unfold convertToInt
  infer_instance

instance {n : ℕ} (f : FpFormat) (rs1 : Regidx) (rm : RoundingMode) (rd : Regidx)
    (conv : BitVec 3 → BitVec n → Fflags × BitVec f.width) [Ready W (FpUsable f rd)] :
    FpFree W (convertOfInt f rs1 rm rd conv) := by
  unfold convertOfInt
  infer_instance

/-- The registers of an operation with a rounding mode can hold its operands and its result. -/
def FUnRmOp.Usable (f : FpFormat) (rs1 rd : Regidx) : FUnRmOp → Prop
  | .FSQRT => FpUsable f rs1 ∧ FpUsable f rd
  | .FCVT_W | .FCVT_WU | .FCVT_L | .FCVT_LU => FpUsable f rs1
  | .FCVT_F_W | .FCVT_F_WU | .FCVT_F_L | .FCVT_F_LU => FpUsable f rd
  | .FCVT_F g => FpUsable f rs1 ∧ FpUsable g rd

/-- The registers of an operation without rounding can hold its operands and its result. -/
def FBinOp.Usable (f : FpFormat) (rs2 rs1 rd : Regidx) : FBinOp → Prop
  | .FEQ | .FLT | .FLE => FpUsable f rs2 ∧ FpUsable f rs1
  | _ => FpUsable f rs2 ∧ FpUsable f rs1 ∧ FpUsable f rd

/-- The registers of an instruction exist and can hold its operands and its result. -/
def FpInst.Usable : FpInst → Prop
  | .LOAD_FP _ _ _ _ | .STORE_FP _ _ _ _ => sysEnableFdext = true
  | .F_MADD_TYPE f rs3 rs2 rs1 _ rd _ =>
      FpUsable f rs3 ∧ FpUsable f rs2 ∧ FpUsable f rs1 ∧ FpUsable f rd
  | .F_BIN_RM_TYPE f rs2 rs1 _ rd _ => FpUsable f rs2 ∧ FpUsable f rs1 ∧ FpUsable f rd
  | .F_UN_RM_TYPE f rs1 _ rd op => op.Usable f rs1 rd
  | .F_BIN_TYPE f rs2 rs1 rd op => op.Usable f rs2 rs1 rd
  | .F_UN_TYPE f rs1 _ .FCLASS => FpUsable f rs1
  | .F_UN_TYPE _ _ _ _ => sysEnableFdext = true

theorem FUnRmOp.fpFree {f : FpFormat} {rs1 rd : Regidx} (rm : RoundingMode) {op : FUnRmOp}
    (h : W.safe → op.Usable f rs1 rd) : FpFree W (executeFUnRm f rs1 rm rd op) := by
  unfold executeFUnRm convertToLong convertOfLong
  cases op
  case FSQRT =>
    have : Ready W (FpUsable f rs1) := ⟨fun hs => (h hs).1⟩
    have : Ready W (FpUsable f rd) := ⟨fun hs => (h hs).2⟩
    infer_instance
  case FCVT_F g =>
    have : Ready W (FpUsable f rs1) := ⟨fun hs => (h hs).1⟩
    have : Ready W (FpUsable g rd) := ⟨fun hs => (h hs).2⟩
    infer_instance
  case FCVT_W | FCVT_WU | FCVT_L | FCVT_LU =>
    have : Ready W (FpUsable f rs1) := ⟨h⟩
    infer_instance
  case FCVT_F_W | FCVT_F_WU | FCVT_F_L | FCVT_F_LU =>
    have : Ready W (FpUsable f rd) := ⟨h⟩
    infer_instance

omit [TrapClosed W] in
theorem FBinOp.fpFree {f : FpFormat} {rs2 rs1 rd : Regidx} {op : FBinOp}
    (h : W.safe → op.Usable f rs2 rs1 rd) :
    FpFree W (do
      let v1 ← rFOrX f rs1
      let v2 ← rFOrX f rs2
      op.finish rd v1 v2) := by
  unfold FBinOp.finish retireSign retireCompare
  cases op
  case FEQ | FLT | FLE =>
    have : Ready W (FpUsable f rs2) := ⟨fun hs => (h hs).1⟩
    have : Ready W (FpUsable f rs1) := ⟨fun hs => (h hs).2⟩
    have : Ready W FpBuild := ⟨fun hs => (h hs).1.2.1⟩
    infer_instance
  case FSGNJ | FSGNJN | FSGNJX | FMIN | FMAX =>
    have : Ready W (FpUsable f rs2) := ⟨fun hs => (h hs).1⟩
    have : Ready W (FpUsable f rs1) := ⟨fun hs => (h hs).2.1⟩
    have : Ready W (FpUsable f rd) := ⟨fun hs => (h hs).2.2⟩
    infer_instance

/-- **Scalar floating-point instructions.** -/
theorem FpInst.fpFree {i : FpInst} (h : W.safe → i.Usable) : FpFree W i.execute := by
  unfold FpInst.execute
  cases i
  case LOAD_FP | STORE_FP =>
    have : Ready W (sysEnableFdext = true) := ⟨h⟩
    infer_instance
  case F_MADD_TYPE f rs3 rs2 rs1 rm rd op =>
    have : Ready W (FpUsable f rs3) := ⟨fun hs => (h hs).1⟩
    have : Ready W (FpUsable f rs2) := ⟨fun hs => (h hs).2.1⟩
    have : Ready W (FpUsable f rs1) := ⟨fun hs => (h hs).2.2.1⟩
    have : Ready W (FpUsable f rd) := ⟨fun hs => (h hs).2.2.2⟩
    infer_instance
  case F_BIN_RM_TYPE f rs2 rs1 rm rd op =>
    have : Ready W (FpUsable f rs2) := ⟨fun hs => (h hs).1⟩
    have : Ready W (FpUsable f rs1) := ⟨fun hs => (h hs).2.1⟩
    have : Ready W (FpUsable f rd) := ⟨fun hs => (h hs).2.2⟩
    infer_instance
  case F_UN_RM_TYPE f rs1 rm rd op => exact FUnRmOp.fpFree rm h
  case F_BIN_TYPE f rs2 rs1 rd op => exact FBinOp.fpFree h
  case F_UN_TYPE f rs1 rd op =>
    have hmove : FpFree W (assertMove f) := by
      unfold assertMove
      rcases f <;> infer_instance
    unfold executeFUn
    cases op
    case FCLASS =>
      have : Ready W (FpUsable f rs1) := ⟨h⟩
      infer_instance
    case FMV_X_F | FMV_F_X =>
      have : Ready W (sysEnableFdext = true) := ⟨h⟩
      infer_instance

omit [SoftFloat] in
/-- **Compressed loads and stores.** -/
theorem ZcfInst.fpFree (i : ZcfInst) (h : W.safe → sysEnableFdext = true) :
    FpFree W i.execute := by
  have : Ready W (sysEnableFdext = true) := ⟨h⟩
  unfold ZcfInst.execute
  cases i <;> infer_instance

/-- The format of an instruction with constants or other operations. -/
def ZfaInst.format : ZfaInst → FpFormat
  | .RISCV_FLI f _ _ | .RISCV_FMINM f _ _ _ | .RISCV_FMAXM f _ _ _ | .RISCV_FROUND f _ _ _
  | .RISCV_FROUNDNX f _ _ _ | .RISCV_FLEQ f _ _ _ | .RISCV_FLTQ f _ _ _ => f
  | .RISCV_FMVH_X_D _ _ | .RISCV_FMVP_D_X _ _ _ | .RISCV_FCVTMOD_W_D _ _ => .D

instance (f : FpFormat) (rd : Regidx) (r : Fflags × BitVec f.width) [Ready W f.Fits]
    [Ready W FRegs] : FpFree W (retireFp f rd r) := by
  have : Ready W FpBuild := Ready.mono (P := FRegs) FRegs.fpBuild
  unfold retireFp
  infer_instance

instance (exact : Bool) (f : FpFormat) (rs1 : Regidx) (rm : RoundingMode) (rd : Regidx)
    [Ready W f.Fits] [Ready W FRegs] : FpFree W (executeFround exact f rs1 rm rd) := by
  unfold executeFround
  infer_instance

/-- **Additional scalar instructions.** -/
theorem ZfaInst.fpFree {i : ZfaInst} (hf : W.safe → i.format.Fits) (h : W.safe → FRegs) :
    FpFree W i.execute := by
  have : Ready W FRegs := ⟨h⟩
  have : Ready W FpBuild := ⟨fun hs => (h hs).fpBuild⟩
  have hfits (f : FpFormat) (hf : W.safe → f.Fits) : Ready W f.Fits := ⟨hf⟩
  have := hfits _ hf
  have hread (i : Regidx) (hD : W.safe → FpFormat.D.Fits) : FpFree W (rFp .D i) := by
    have := hfits _ hD
    exact fpFree_rFp .D i
  unfold ZfaInst.execute retireCompare
  unfold ZfaInst.format at this hf
  cases i
  case RISCV_FMVH_X_D rs1 rd =>
    exact @Exec.plain_bind _ _ _ _ _ _ _ _ _ _ _ (hread rs1 hf) (fun _ => inferInstance)
  case RISCV_FCVTMOD_W_D rs1 rd =>
    exact @Exec.plain_bind _ _ _ _ _ _ _ _ _ _ _ (hread rs1 hf) (fun _ => inferInstance)
  all_goals infer_instance

end Scalar

end SailRiscv
