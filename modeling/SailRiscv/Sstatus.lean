/-
# The view of `mstatus` through `sstatus`

A write of `sstatus` goes through `lift_sstatus` and `legalize_mstatus`.  In the states that
the machine reaches it changes the visible fields as written and nothing else, apart from the
summary bit, which it computes anew: so the value just read can be written back without a
change exactly if the summary was right.
-/
import SailRiscv.ExtContext

namespace SailRiscv

open Bits Platform

variable [Platform]

/-! ## The bits of the view -/

/-- The bits that `sstatus` shows. -/
def SstatusShown (i : ℕ) : Prop :=
  SstatusField i ∨ i = xlen - 1 ∨ (xlen = 64 ∧ 32 ≤ i ∧ i < 34)

instance (i : ℕ) : Decidable (SstatusShown i) := by
  unfold SstatusShown
  infer_instance

theorem getLsbD_lowerMstatus (m : Xlenbits) {i : ℕ} (hi : i < xlen) :
    (lowerMstatus m).getLsbD i = (decide (SstatusShown i) && m.getLsbD i) := by
  have hx := xlen_ge
  have huxl : (setMstatusUXL 0#_ (getMstatusUXL m)).getLsbD i
      = (decide (xlen = 64 ∧ 32 ≤ i ∧ i < 34) && m.getLsbD i) := by
    unfold setMstatusUXL getMstatusUXL
    by_cases h32 : xlen = 32
    · rw [if_pos h32, decide_eq_false (by omega), Bool.false_and]
      exact BitVec.getLsbD_zero
    · have h64 : xlen = 64 := Platform.xlen_eq.resolve_left h32
      rw [if_neg h32, if_neg h32, getLsbD_set_get]
      by_cases hin : i < xlen ∧ 32 ≤ i ∧ i < 32 + 2
      · rw [if_pos hin, decide_eq_true (by omega), Bool.true_and]
      · rw [if_neg hin, decide_eq_false (by omega), Bool.false_and]
        exact BitVec.getLsbD_zero
  unfold lowerMstatus
  simp only [getLsbD_set_get, hi, true_and, huxl, ← ite_or]
  by_cases hf : SstatusField i ∨ i = xlen - 1
  · have hshown : SstatusShown i := hf.imp_right Or.inl
    unfold SstatusField at hf
    rw [decide_eq_true hshown, Bool.true_and, if_pos (by omega)]
  · have hdec : decide (SstatusShown i) = decide (xlen = 64 ∧ 32 ≤ i ∧ i < 34) := by
      apply decide_eq_decide.mpr
      unfold SstatusShown
      tauto
    unfold SstatusField at hf
    rw [hdec, if_neg (by omega)]

/-- The summary is computed from the written value. -/
theorem dirtyWritten_liftSstatus (m v : Xlenbits) :
    dirtyWritten (liftSstatus m v) = dirtyWritten v := by
  unfold dirtyWritten
  rw [get_liftSstatus_FS, get_liftSstatus_XS, get_liftSstatus_VS]

/-- A privilege that `MPP` holds is kept by a write of `sstatus`. -/
theorem mppLegal_liftSstatus {s : State} (h : MstatusLegal s) (v : Xlenbits) :
    mppLegal s (liftSstatus s.mstatus v) = Mstatus.MPP.get s.mstatus := by
  have hx := xlen_ge
  have hMPP : Mstatus.MPP.get (liftSstatus s.mstatus v) = Mstatus.MPP.get s.mstatus := by
    apply BitVec.eq_of_getLsbD_eq
    intro i hi
    simp only at hi
    have hf : ¬ SstatusField (11 + i) := by
      unfold SstatusField
      omega
    rw [Field.getLsbD_get, Field.getLsbD_get, getLsbD_liftSstatus _ _ (by simp only; omega),
      if_neg (by simp only; omega), if_neg hf]
  have hhave : havePrivLevel s (Mstatus.MPP.get s.mstatus) = true := by
    unfold havePrivLevel
    split_ifs with h00 h01 h10
    · exact h.user
    · exact h.supervisor
    · exact absurd h10 h.mstatus.mpp
    · rfl
  unfold mppLegal
  rw [hMPP, if_pos hhave]

/-- **The bits after a write of `sstatus`.** -/
theorem getLsbD_legalizeSstatus {s : State} (h : MstatusLegal s) (v : Xlenbits) {i : ℕ}
    (hi : i < xlen) : (legalizeSstatus s s.mstatus v).getLsbD i
      = if i = xlen - 1 then dirtyWritten v
        else if 13 ≤ i ∧ i < 15 then !sysEnableZfinx && v.getLsbD i
        else if SstatusField i ∧ MstatusPlain i then v.getLsbD i
        else s.mstatus.getLsbD i := by
  have hx := xlen_ge
  have hlift := getLsbD_liftSstatus s.mstatus v hi
  unfold legalizeSstatus
  rw [getLsbD_legalizeMstatus _ _ _ hi]
  by_cases hSD : i = xlen - 1
  · rw [if_neg (by omega), mstatusBit, if_pos hSD, if_pos hSD, dirtyWritten_liftSstatus]
  rw [if_neg hSD] at hlift
  rw [if_neg hSD]
  by_cases hFS : 13 ≤ i ∧ i < 15
  · have hf : SstatusField i := by
      unfold SstatusField
      omega
    rw [if_neg (by omega), mstatusBit, if_neg hSD, if_neg (by omega), if_pos hFS, if_pos hFS,
      hlift, if_pos hf]
  rw [if_neg hFS]
  by_cases hshown : SstatusField i ∧ MstatusPlain i
  · have hlt : i < 23 ∧ i ≠ 17 ∧ ¬ (11 ≤ i ∧ i < 13) := by
      have hp := hshown.2
      unfold MstatusPlain at hp
      omega
    rw [if_neg (by omega), mstatusBit, if_neg hSD, if_neg hlt.2.1, if_neg hFS, if_neg hlt.2.2,
      decide_eq_true hshown.2, Bool.true_and, hlift, if_pos hshown.1, if_pos hshown]
  rw [if_neg hshown]
  by_cases hxl : xlen = 64 ∧ 32 ≤ i ∧ i < 36
  · rw [if_pos hxl]
  rw [if_neg hxl, mstatusBit, if_neg hSD]
  by_cases hMPRV : i = 17
  · have hf : ¬ SstatusField 17 := by decide
    subst hMPRV
    rw [if_pos rfl, h.user, Bool.true_and, hlift, if_neg hf]
  rw [if_neg hMPRV, if_neg hFS]
  by_cases hMPP : 11 ≤ i ∧ i < 13
  · rw [if_pos hMPP, mppLegal_liftSstatus h, Field.getLsbD_get]
    simp [show i - 11 < 2 by omega, show 11 + (i - 11) = i by omega]
  rw [if_neg hMPP]
  by_cases hp : MstatusPlain i
  · rw [decide_eq_true hp, Bool.true_and, hlift, if_neg (fun hf => hshown ⟨hf, hp⟩)]
  · have hw : ¬ MstatusWarl i := by
      rintro (hw | hw | hw | hw | hw)
      · exact hp hw
      · omega
      · exact hMPRV hw
      · exact hSD hw
      · exact hxl hw
    rw [decide_eq_false hp, Bool.false_and]
    symm
    by_contra hbit
    exact hw (h.mstatus.bits i hi (by simpa using hbit))

/-! ## Writes and reads -/

namespace Mstatush
@[reducible] def MBE : Field := ⟨5, 1⟩
@[reducible] def SBE : Field := ⟨4, 1⟩
end Mstatush

/-- `MBE`, which RV32 has in `mstatush`. -/
def mstatusMBE (s : State) : BitVec 1 :=
  if xlen = 32 then Mstatush.MBE.get s.mstatush else Field.get ⟨37, 1⟩ s.mstatus

/-- `SBE`, which RV32 has in `mstatush`. -/
def mstatusSBE (s : State) : BitVec 1 :=
  if xlen = 32 then Mstatush.SBE.get s.mstatush else Field.get ⟨36, 1⟩ s.mstatus

/-- The fields of `mstatus` that `sstatus` does not show, or that it shows and cannot
change. -/
structure SameHidden (s s' : State) : Prop where
  mpp : Mstatus.MPP.get s'.mstatus = Mstatus.MPP.get s.mstatus
  mpie : Mstatus.MPIE.get s'.mstatus = Mstatus.MPIE.get s.mstatus
  mie : Mstatus.MIE.get s'.mstatus = Mstatus.MIE.get s.mstatus
  mprv : Mstatus.MPRV.get s'.mstatus = Mstatus.MPRV.get s.mstatus
  tvm : Mstatus.TVM.get s'.mstatus = Mstatus.TVM.get s.mstatus
  tw : Mstatus.TW.get s'.mstatus = Mstatus.TW.get s.mstatus
  tsr : Mstatus.TSR.get s'.mstatus = Mstatus.TSR.get s.mstatus
  sxl : getMstatusSXL s'.mstatus = getMstatusSXL s.mstatus
  uxl : getMstatusUXL s'.mstatus = getMstatusUXL s.mstatus
  mbe : mstatusMBE s' = mstatusMBE s
  sbe : mstatusSBE s' = mstatusSBE s

/-- The fields that a read of `sstatus` shows as they have been written. -/
structure ShowsWritten (w v : Xlenbits) : Prop where
  sie : Mstatus.SIE.get w = Mstatus.SIE.get v
  spie : Mstatus.SPIE.get w = Mstatus.SPIE.get v
  spp : Mstatus.SPP.get w = Mstatus.SPP.get v
  sum : Mstatus.SUM.get w = Mstatus.SUM.get v
  mxr : Mstatus.MXR.get w = Mstatus.MXR.get v
  vs : Mstatus.VS.get w = Mstatus.VS.get v
  fs : sysEnableZfinx = false → Mstatus.FS.get w = Mstatus.FS.get v

/-- `sstatus` is a view of `mstatus`: a write of `v` leaves the hidden fields alone, the visible
ones are read as written, and writing back what has been read changes nothing. -/
structure SstatusView (s : State) (v : Xlenbits) : Prop where
  write : ∃ r s' w, (writeCSR 0x100#12 v).run s = .ok (r, s') ∧ SameHidden s s'
    ∧ (readCSR 0x100#12).run s' = .ok (w, s') ∧ ShowsWritten w v
  rewrite : ∃ w r s', (readCSR 0x100#12).run s = .ok (w, s)
    ∧ (writeCSR 0x100#12 w).run s = .ok (r, s') ∧ s'.mstatus = s.mstatus

/-! ## The view -/

/-- The bits that a write of `sstatus` leaves alone. -/
def SstatusKept (i : ℕ) : Prop :=
  i ≠ xlen - 1 ∧ ¬ (13 ≤ i ∧ i < 15) ∧ ¬ (SstatusField i ∧ MstatusPlain i)

/-- A field of such bits keeps its value. -/
theorem get_legalizeSstatus_kept {s : State} (h : MstatusLegal s) {f : Field}
    (hf : ∀ i, f.lsb ≤ i → i < f.lsb + f.width → SstatusKept i) (v : Xlenbits) :
    f.get (legalizeSstatus s s.mstatus v) = f.get s.mstatus := by
  apply BitVec.eq_of_getLsbD_eq
  intro i hi
  obtain ⟨hSD, hFS, hshown⟩ := hf (f.lsb + i) (by omega) (by omega)
  rw [Field.getLsbD_get, Field.getLsbD_get]
  by_cases hlt : f.lsb + i < xlen
  · rw [getLsbD_legalizeSstatus h v hlt, if_neg hSD, if_neg hFS, if_neg hshown]
  · rw [BitVec.getLsbD_of_ge _ _ (by omega), BitVec.getLsbD_of_ge _ _ (by omega)]

/-- A single kept bit below the summary. -/
theorem sstatusKept_bit {k : ℕ} (hk : k < 31) (hFS : ¬ (13 ≤ k ∧ k < 15))
    (hshown : ¬ (SstatusField k ∧ MstatusPlain k)) :
    ∀ i, k ≤ i → i < k + 1 → SstatusKept i := by
  have hx := xlen_ge
  intro i hlo hhi
  have hik : i = k := by omega
  subst hik
  exact ⟨by omega, hFS, hshown⟩

/-- Kept bits between the other fields and the summary of RV64. -/
theorem sstatusKept_high {i : ℕ} (hlo : 32 ≤ i) (hhi : i < 38) : SstatusKept i := by
  have hx := Platform.xlen_eq
  refine ⟨by omega, by omega, ?_⟩
  rintro ⟨hf, -⟩
  unfold SstatusField at hf
  omega

/-- A write of `sstatus` leaves the hidden fields alone. -/
theorem sameHidden_write {s : State} (h : MstatusLegal s) (v : Xlenbits) :
    SameHidden s { s with mstatus := legalizeSstatus s s.mstatus v } := by
  have hx := xlen_ge
  have hbit {k : ℕ} (hk : k < 31) (hFS : ¬ (13 ≤ k ∧ k < 15))
      (hshown : ¬ (SstatusField k ∧ MstatusPlain k)) :
      Field.get ⟨k, 1⟩ (legalizeSstatus s s.mstatus v) = Field.get ⟨k, 1⟩ s.mstatus :=
    get_legalizeSstatus_kept h (sstatusKept_bit hk hFS hshown) v
  have hhigh {k w : ℕ} (hlo : 32 ≤ k) (hhi : k + w ≤ 38) :
      Field.get ⟨k, w⟩ (legalizeSstatus s s.mstatus v) = Field.get ⟨k, w⟩ s.mstatus :=
    get_legalizeSstatus_kept h (fun i hi hi' => sstatusKept_high (Nat.le_trans hlo hi)
      (Nat.lt_of_lt_of_le hi' hhi)) v
  constructor
  case mpp =>
    refine get_legalizeSstatus_kept h ?_ v
    intro i hlo hhi
    simp only at hlo hhi
    refine ⟨by omega, by omega, ?_⟩
    rintro ⟨hf, -⟩
    unfold SstatusField at hf
    omega
  case mpie => exact hbit (by decide) (by decide) (by decide)
  case mie => exact hbit (by decide) (by decide) (by decide)
  case mprv => exact hbit (by decide) (by decide) (by decide)
  case tvm => exact hbit (by decide) (by decide) (by decide)
  case tw => exact hbit (by decide) (by decide) (by decide)
  case tsr => exact hbit (by decide) (by decide) (by decide)
  case sxl =>
    unfold getMstatusSXL
    split
    · rfl
    · exact hhigh (by decide) (by decide)
  case uxl =>
    unfold getMstatusUXL
    split
    · rfl
    · exact hhigh (by decide) (by decide)
  case mbe =>
    unfold mstatusMBE
    split
    · rfl
    · exact hhigh (by decide) (by decide)
  case sbe =>
    unfold mstatusSBE
    split
    · rfl
    · exact hhigh (by decide) (by decide)

/-- A visible field is read as it has been written. -/
theorem get_lower_legalizeSstatus {s : State} (h : MstatusLegal s) {f : Field}
    (hf : ∀ i, f.lsb ≤ i → i < f.lsb + f.width → SstatusField i ∧ MstatusPlain i) (v : Xlenbits) :
    f.get (lowerMstatus (legalizeSstatus s s.mstatus v)) = f.get v := by
  have hx := xlen_ge
  apply BitVec.eq_of_getLsbD_eq
  intro i hi
  have hp := hf (f.lsb + i) (by omega) (by omega)
  have hlt : f.lsb + i < 20 ∧ ¬ (13 ≤ f.lsb + i ∧ f.lsb + i < 15) := by
    unfold SstatusField MstatusPlain at hp
    omega
  have hshown : SstatusShown (f.lsb + i) := Or.inl hp.1
  rw [Field.getLsbD_get, Field.getLsbD_get, getLsbD_lowerMstatus _ (by omega),
    getLsbD_legalizeSstatus h v (by omega), if_neg (by omega), if_neg hlt.2, if_pos hp,
    decide_eq_true hshown, Bool.true_and]

/-- A read after a write shows the visible fields as written. -/
theorem showsWritten_write {s : State} (h : MstatusLegal s) (v : Xlenbits) :
    ShowsWritten (lowerMstatus (legalizeSstatus s s.mstatus v)) v := by
  have hx := xlen_ge
  have hbit {k : ℕ} (hk : SstatusField k ∧ MstatusPlain k) :
      Field.get ⟨k, 1⟩ (lowerMstatus (legalizeSstatus s s.mstatus v)) = Field.get ⟨k, 1⟩ v := by
    refine get_lower_legalizeSstatus h ?_ v
    intro i hlo hhi
    simp only at hlo hhi
    have hik : i = k := by omega
    subst hik
    exact hk
  constructor
  case sie => exact hbit (by decide)
  case spie => exact hbit (by decide)
  case spp => exact hbit (by decide)
  case sum => exact hbit (by decide)
  case mxr => exact hbit (by decide)
  case vs =>
    refine get_lower_legalizeSstatus h ?_ v
    intro i hlo hhi
    simp only at hlo hhi
    unfold SstatusField MstatusPlain
    omega
  case fs =>
    intro hz
    apply BitVec.eq_of_getLsbD_eq
    intro i hi
    simp only at hi
    have hf : SstatusShown (13 + i) := by
      unfold SstatusShown SstatusField
      omega
    rw [Field.getLsbD_get, Field.getLsbD_get, getLsbD_lowerMstatus _ (by simp only; omega),
      getLsbD_legalizeSstatus h v (by simp only; omega), if_neg (by simp only; omega),
      if_pos (by simp only; omega), hz, decide_eq_true hf]
    rfl

/-- The summary bit as a bit. -/
theorem sdSummary_iff_getLsbD (m : Xlenbits) :
    SdSummary m ↔ m.getLsbD (xlen - 1) = dirtyWritten m := by
  unfold SdSummary dirtyWritten
  rw [← anyDirty_iff, get_bit_eq_one]
  exact Bool.eq_iff_iff.symm

/-- A read of `sstatus` shows the fields of `mstatus`. -/
theorem get_lowerMstatus {f : Field} (hf : ∀ i, f.lsb ≤ i → i < f.lsb + f.width → SstatusField i)
    (m : Xlenbits) : f.get (lowerMstatus m) = f.get m := by
  have hx := xlen_ge
  apply BitVec.eq_of_getLsbD_eq
  intro i hi
  have hp := hf (f.lsb + i) (by omega) (by omega)
  have hlt : f.lsb + i < 20 := by
    unfold SstatusField at hp
    omega
  have hshown : SstatusShown (f.lsb + i) := Or.inl hp
  rw [Field.getLsbD_get, Field.getLsbD_get, getLsbD_lowerMstatus _ (by omega),
    decide_eq_true hshown, Bool.true_and]

/-- The contexts that a read shows are those of the register. -/
theorem dirtyWritten_lowerMstatus (m : Xlenbits) :
    dirtyWritten (lowerMstatus m) = dirtyWritten m := by
  have hctx {k : ℕ} (hk : k = 9 ∨ k = 13 ∨ k = 15) :
      Field.get ⟨k, 2⟩ (lowerMstatus m) = Field.get ⟨k, 2⟩ m := by
    refine get_lowerMstatus ?_ m
    intro i hlo hhi
    simp only at hlo hhi
    unfold SstatusField
    omega
  have hFS : Mstatus.FS.get (lowerMstatus m) = Mstatus.FS.get m := hctx (by decide)
  have hXS : Mstatus.XS.get (lowerMstatus m) = Mstatus.XS.get m := hctx (by decide)
  have hVS : Mstatus.VS.get (lowerMstatus m) = Mstatus.VS.get m := hctx (by decide)
  unfold dirtyWritten
  rw [hFS, hXS, hVS]

/-- **Writing back what has been read changes nothing exactly if the summary was right.** -/
theorem legalizeSstatus_lower_iff {s : State} (h : MstatusLegal s) :
    legalizeSstatus s s.mstatus (lowerMstatus s.mstatus) = s.mstatus ↔ SdSummary s.mstatus := by
  have hx := xlen_ge
  have hdirty := dirtyWritten_lowerMstatus s.mstatus
  rw [sdSummary_iff_getLsbD]
  constructor
  · intro heq
    have hbit := getLsbD_legalizeSstatus h (lowerMstatus s.mstatus) (i := xlen - 1) (by omega)
    rw [heq, if_pos rfl, hdirty] at hbit
    exact hbit
  · intro hsd
    apply BitVec.eq_of_getLsbD_eq
    intro i hi
    rw [getLsbD_legalizeSstatus h _ hi]
    split_ifs with hSD hFS hshown
    · subst hSD
      rw [hdirty, hsd]
    · have hs : SstatusShown i := by
        unfold SstatusShown SstatusField
        omega
      rw [getLsbD_lowerMstatus _ hi, decide_eq_true hs, Bool.true_and]
      cases hz : sysEnableZfinx with
      | false => exact Bool.true_and _
      | true =>
          have hbit := Field.getLsbD_get Mstatus.FS s.mstatus (i - 13)
          rw [h.mstatus.fs hz] at hbit
          simp only [BitVec.getLsbD_zero] at hbit
          rw [decide_eq_true (by omega), Bool.true_and, Nat.add_sub_cancel' hFS.1] at hbit
          rw [← hbit]
          rfl
    · have hs : SstatusShown i := Or.inl hshown.1
      rw [getLsbD_lowerMstatus _ hi, decide_eq_true hs, Bool.true_and]
    · rfl

/-- A read of `sstatus`. -/
theorem run_readCSR_sstatus (s : State) :
    (readCSR 0x100#12).run s = .ok (lowerMstatus s.mstatus, s) := by
  rw [run_readCSR_status (by decide)]
  rfl

/-- A write of `sstatus`. -/
theorem run_writeCSR_sstatus (s : State) (v : Xlenbits) :
    (writeCSR 0x100#12 v).run s = .ok (legalizeSstatus s s.mstatus v,
      { s with mstatus := legalizeSstatus s s.mstatus v }) := by
  have hclause : writeCSR 0x100#12 v = writeReg (fun s => { s with
      mstatus := legalizeSstatus s s.mstatus v }) State.mstatus := by
    simp [writeCSR]
  rw [hclause]
  rfl

/-- In a legal state `sstatus` is a view of `mstatus` exactly if the summary is right. -/
theorem MstatusLegal.view_iff {s : State} (h : MstatusLegal s) (v : Xlenbits) :
    SstatusView s v ↔ SdSummary s.mstatus := by
  rw [← legalizeSstatus_lower_iff h]
  constructor
  · rintro ⟨-, w, r, s', hread, hwrite, hsame⟩
    rw [run_readCSR_sstatus] at hread
    cases hread
    rw [run_writeCSR_sstatus] at hwrite
    cases hwrite
    exact hsame
  · intro hsame
    constructor
    · exact ⟨_, _, _, run_writeCSR_sstatus s v, sameHidden_write h v, run_readCSR_sstatus _,
        showsWritten_write h v⟩
    · exact ⟨_, _, _, run_readCSR_sstatus s, run_writeCSR_sstatus s _, hsame⟩

section

variable [SoftFloat] {entry : Xlenbits} {s₀ s : State} {path : List (State × Turn × State)}

/-- **In a reachable state `sstatus` is an exact view of `mstatus` if and only if the summary
bit is right**, and it is right in every run that writes no value that is dirty only in fields
that `mstatus` does not keep. -/
theorem sstatus_view_iff (hboot : Boots entry s₀) (h : Trace Turns s₀ path s) :
    (∀ v, SstatusView s v ↔ SdSummary s.mstatus)
      ∧ ((∀ x ∈ path, ¬ WritesOverridden x) → ∀ v, SstatusView s v) := by
  have hlegal := mstatusLegal_of_trace hboot h
  refine ⟨hlegal.view_iff, ?_⟩
  intro hpath v
  rw [hlegal.view_iff]
  exact h.invariant (I := fun t => SdSummary t.mstatus) hboot.sdSummary
    (fun hx hs hturn => hturn.sdStep (hpath _ hx) hs)

end

/-! ## A write that changes the register back -/

omit [Platform] in
/-- After the run of the two instructions, writing back what has been read clears the
summary. -/
theorem sstatus_rewrite_clears_sd :
    ¬ ∀ [Platform] [SoftFloat] (entry : Xlenbits) (s₀ s : State)
      (path : List (State × Turn × State)) (v : Xlenbits), Boots entry s₀ →
      Trace Turns s₀ path s → SstatusView s v := by
  intro h
  let := rv32DirtyUpdate true
  let : SoftFloat := default
  obtain ⟨s₀, s₁, s₂, hboot, hfirst, hsecond, hsd⟩ := run_dirtyXs
  have htrace := Trace.cons (.cons .nil hfirst) hsecond
  exact hsd (((mstatusLegal_of_trace hboot htrace).view_iff 0#_).mp (h _ s₀ s₂ _ 0#_ hboot htrace))

omit [Platform] in
/-- There `sstatus` is no view of `mstatus`. -/
theorem sstatus_view_dirtyXs :
    letI := rv32DirtyUpdate true
    ∃ s, ¬ SstatusView s 0#_ := by
  let := rv32DirtyUpdate true
  let : SoftFloat := default
  obtain ⟨s₀, s₁, s₂, hboot, hfirst, hsecond, hsd⟩ := run_dirtyXs
  refine ⟨s₂, fun hview => ?_⟩
  exact hsd (((sstatus_view_iff hboot (.cons (.cons .nil hfirst) hsecond)).1 0#_).mp hview)

end SailRiscv
