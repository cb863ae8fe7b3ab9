/-
# The summary of the extension contexts

`mstatus.SD` sums up the states of the extension contexts.  A write of `mstatus` or `sstatus`
computes it from the value as it is written, before `XS` and, with Zfinx, `FS` are cleared, so
a written value that is dirty only in these fields leaves `SD` set with no dirty context.  In a
run of the machine the summary is right in every state exactly if no such value is written.
-/
import SailRiscv.Counters
import SailRiscv.MstatusLegal

namespace SailRiscv

open Bits Platform

variable [Platform]

/-! ## The summary -/

/-- `SD` sums up the extension contexts. -/
def SdSummary (m : Xlenbits) : Prop :=
  Mstatus.SD.get m = 1#1 ↔ Mstatus.FS.get m = extStatusToBits .Dirty
    ∨ Mstatus.XS.get m = extStatusToBits .Dirty ∨ Mstatus.VS.get m = extStatusToBits .Dirty

instance (m : Xlenbits) : Decidable (SdSummary m) := by
  unfold SdSummary
  infer_instance

/-- A value with a dirty field that `mstatus` does not keep, and no other dirty field. -/
def OverridesDirty (v : Xlenbits) : Prop :=
  (Mstatus.XS.get v = extStatusToBits .Dirty
      ∨ (sysEnableZfinx = true ∧ Mstatus.FS.get v = extStatusToBits .Dirty))
    ∧ Mstatus.VS.get v ≠ extStatusToBits .Dirty
    ∧ (Mstatus.FS.get v = extStatusToBits .Dirty → sysEnableZfinx = true)

instance (v : Xlenbits) : Decidable (OverridesDirty v) := by
  unfold OverridesDirty
  infer_instance

omit [Platform] in
theorem anyDirty_iff (fs xs vs : BitVec 2) : anyDirty fs xs vs = true
    ↔ fs = extStatusToBits .Dirty ∨ xs = extStatusToBits .Dirty ∨ vs = extStatusToBits .Dirty := by
  revert fs xs vs
  decide

omit [Platform] in
theorem boolToBits_eq_one (b : Bool) : boolToBits b = 1#1 ↔ b = true := by
  cases b <;> decide

/-- Fields with the same values have the same summary. -/
theorem sdSummary_congr {m m' : Xlenbits} (hSD : Mstatus.SD.get m' = Mstatus.SD.get m)
    (hFS : Mstatus.FS.get m' = Mstatus.FS.get m) (hXS : Mstatus.XS.get m' = Mstatus.XS.get m)
    (hVS : Mstatus.VS.get m' = Mstatus.VS.get m) : SdSummary m' ↔ SdSummary m := by
  unfold SdSummary
  rw [hSD, hFS, hXS, hVS]

/-! ## Writes of `mstatus` -/

/-- The fields that a write takes as they are. -/
theorem get_legalizeMstatus {f : Field} (hf : ∀ i, f.lsb ≤ i → i < f.lsb + f.width → MstatusPlain i)
    (s : State) (o v : Xlenbits) : f.get (legalizeMstatus s o v) = f.get v := by
  have hx := xlen_ge
  apply BitVec.eq_of_getLsbD_eq
  intro i hi
  have hp := hf (f.lsb + i) (by omega) (by omega)
  have hlt : f.lsb + i < 23 := by
    unfold MstatusPlain at hp
    omega
  rw [Field.getLsbD_get, Field.getLsbD_get, getLsbD_legalizeMstatus s o v (by omega),
    if_neg (by omega), mstatusBit, if_neg (by omega), if_neg (by unfold MstatusPlain at hp; omega),
    if_neg (by unfold MstatusPlain at hp; omega), if_neg (by unfold MstatusPlain at hp; omega),
    decide_eq_true hp, Bool.true_and]

theorem get_legalizeMstatus_FS (s : State) (o v : Xlenbits) :
    Mstatus.FS.get (legalizeMstatus s o v) = if sysEnableZfinx then 0b00#2 else Mstatus.FS.get v := by
  have hx := xlen_ge
  apply BitVec.eq_of_getLsbD_eq
  intro i hi
  simp only at hi
  rw [Field.getLsbD_get, getLsbD_legalizeMstatus s o v (by simp only; omega)]
  simp only [hi, decide_true, Bool.true_and]
  rw [if_neg (by omega), mstatusBit, if_neg (by omega), if_neg (by omega), if_pos (by omega)]
  cases sysEnableZfinx with
  | true => exact BitVec.getLsbD_zero.symm
  | false =>
      rw [if_neg (by decide), Field.getLsbD_get]
      simp [hi]

theorem get_legalizeMstatus_XS (s : State) (o v : Xlenbits) :
    Mstatus.XS.get (legalizeMstatus s o v) = 0b00#2 := by
  have hx := xlen_ge
  apply BitVec.eq_of_getLsbD_eq
  intro i hi
  simp only at hi
  have hplain : ¬ MstatusPlain (15 + i) := by
    unfold MstatusPlain
    omega
  rw [Field.getLsbD_get, getLsbD_legalizeMstatus s o v (by simp only; omega)]
  simp only [hi, decide_true, Bool.true_and]
  rw [if_neg (by omega), mstatusBit, if_neg (by omega), if_neg (by omega), if_neg (by omega),
    if_neg (by omega), decide_eq_false hplain]
  exact BitVec.getLsbD_zero.symm

theorem get_legalizeMstatus_SD (s : State) (o v : Xlenbits) :
    Mstatus.SD.get (legalizeMstatus s o v) = boolToBits (dirtyWritten v) := by
  have hx := xlen_ge
  rw [Field.get_bit, getLsbD_legalizeMstatus s o v (by omega), if_neg (by omega), mstatusBit,
    if_pos rfl]
  cases dirtyWritten v <;> rfl

/-- **A write leaves the summary right unless it overrides the only dirty fields.** -/
theorem sdSummary_legalize (s : State) (o v : Xlenbits) :
    SdSummary (legalizeMstatus s o v) ↔ ¬ OverridesDirty v := by
  have hVS : Mstatus.VS.get (legalizeMstatus s o v) = Mstatus.VS.get v := by
    refine get_legalizeMstatus ?_ s o v
    intro i hlo hhi
    simp only at hlo hhi
    unfold MstatusPlain
    omega
  unfold SdSummary OverridesDirty
  rw [get_legalizeMstatus_SD, get_legalizeMstatus_FS, get_legalizeMstatus_XS, hVS,
    boolToBits_eq_one, dirtyWritten, anyDirty_iff]
  generalize Mstatus.FS.get v = fs, Mstatus.XS.get v = xs, Mstatus.VS.get v = vs,
    sysEnableZfinx = z
  revert fs xs vs z
  decide

/-! ## Writes of `sstatus` -/

/-- The bits that a write of `sstatus` takes from the written value. -/
def SstatusField (i : ℕ) : Prop :=
  i = 1 ∨ i = 5 ∨ (8 ≤ i ∧ i < 11) ∨ (13 ≤ i ∧ i < 17) ∨ i = 18 ∨ i = 19

instance (i : ℕ) : Decidable (SstatusField i) := by
  unfold SstatusField
  infer_instance

omit [Platform] in
/-- Copying a field. -/
theorem getLsbD_set_get {w : ℕ} (f : Field) (m v : BitVec w) (i : ℕ) :
    (f.set m (f.get v)).getLsbD i
      = if i < w ∧ f.lsb ≤ i ∧ i < f.lsb + f.width then v.getLsbD i else m.getLsbD i := by
  rw [Field.getLsbD_set]
  by_cases hin : i < w ∧ f.lsb ≤ i ∧ i < f.lsb + f.width
  · rw [if_pos hin, if_pos hin, Field.getLsbD_get, decide_eq_true (by omega), Bool.true_and,
      Nat.add_sub_cancel' hin.2.1]
  · rw [if_neg hin, if_neg hin]

theorem getLsbD_liftSstatus (m v : Xlenbits) {i : ℕ} (hi : i < xlen) :
    (liftSstatus m v).getLsbD i = if i = xlen - 1 then dirtyWritten v
      else if SstatusField i then v.getLsbD i else m.getLsbD i := by
  have hx := xlen_ge
  have hone (b : Bool) : (boolToBits b).getLsbD 0 = b := by
    cases b <;> rfl
  unfold liftSstatus
  simp only [getLsbD_set_get, hi, true_and, ← ite_or]
  by_cases hsd : i = xlen - 1
  · subst hsd
    rw [if_neg (by omega), Field.getLsbD_set, if_pos (by simp only; omega), if_pos rfl,
      Nat.sub_self, hone]
    rfl
  rw [if_neg hsd]
  by_cases hf : SstatusField i
  · rw [if_pos hf]
    unfold SstatusField at hf
    rw [if_pos (by omega)]
  · rw [if_neg hf]
    unfold SstatusField at hf
    rw [if_neg (by omega), Field.getLsbD_set, if_neg (by simp only; omega)]

/-- The contexts of a lifted value are those of the written one. -/
theorem get_liftSstatus {f : Field} (hf : ∀ i, f.lsb ≤ i → i < f.lsb + f.width → SstatusField i)
    (m v : Xlenbits) : f.get (liftSstatus m v) = f.get v := by
  have hx := xlen_ge
  apply BitVec.eq_of_getLsbD_eq
  intro i hi
  have hp := hf (f.lsb + i) (by omega) (by omega)
  have hlt : f.lsb + i < 20 := by
    unfold SstatusField at hp
    omega
  rw [Field.getLsbD_get, Field.getLsbD_get, getLsbD_liftSstatus m v (by omega),
    if_neg (by omega), if_pos hp]

theorem get_liftSstatus_FS (m v : Xlenbits) :
    Mstatus.FS.get (liftSstatus m v) = Mstatus.FS.get v := by
  refine get_liftSstatus ?_ m v
  intro i hlo hhi
  simp only at hlo hhi
  unfold SstatusField
  omega

theorem get_liftSstatus_XS (m v : Xlenbits) :
    Mstatus.XS.get (liftSstatus m v) = Mstatus.XS.get v := by
  refine get_liftSstatus ?_ m v
  intro i hlo hhi
  simp only at hlo hhi
  unfold SstatusField
  omega

theorem get_liftSstatus_VS (m v : Xlenbits) :
    Mstatus.VS.get (liftSstatus m v) = Mstatus.VS.get v := by
  refine get_liftSstatus ?_ m v
  intro i hlo hhi
  simp only at hlo hhi
  unfold SstatusField
  omega

/-- A write of `sstatus` leaves the summary right unless it overrides the only dirty fields. -/
theorem sdSummary_legalizeSstatus (s : State) (o v : Xlenbits) :
    SdSummary (legalizeSstatus s o v) ↔ ¬ OverridesDirty v := by
  unfold legalizeSstatus
  rw [sdSummary_legalize]
  unfold OverridesDirty
  rw [get_liftSstatus_FS, get_liftSstatus_XS, get_liftSstatus_VS]

/-! ## Other changes of `mstatus` -/

/-- Changing a field that is neither a context nor the summary. -/
theorem sdSummary_set {f : Field} (hlow : f.lsb + f.width ≤ 31) (hFS : Mstatus.FS.Apart f)
    (hXS : Mstatus.XS.Apart f) (hVS : Mstatus.VS.Apart f) (m : Xlenbits) (x : BitVec f.width) :
    SdSummary (f.set m x) ↔ SdSummary m := by
  have hx := xlen_ge
  have hSD : Mstatus.SD.Apart f := Or.inr (by show f.lsb + f.width ≤ xlen - 1; omega)
  exact sdSummary_congr (Field.get_set_of_apart hSD m x) (Field.get_set_of_apart hFS m x)
    (Field.get_set_of_apart hXS m x) (Field.get_set_of_apart hVS m x)

/-- The summary is right after the floating-point context has been marked as dirty. -/
theorem sdSummary_fsDirtied (m : Xlenbits) : SdSummary (fsDirtied m) := by
  have hx := xlen_ge
  have hapart : Mstatus.FS.Apart Mstatus.SD := Or.inl (by show 13 + 2 ≤ xlen - 1; omega)
  refine iff_of_true (Field.get_set (by show xlen - 1 + 1 ≤ xlen; omega) _ _) (Or.inl ?_)
  unfold fsDirtied
  rw [Field.get_set_of_apart hapart, Field.get_set (by show 13 + 2 ≤ xlen; omega)]

/-- The summary is right after the vector context has been marked as dirty. -/
theorem sdSummary_vsDirtied (m : Xlenbits) : SdSummary (vsDirtied m) := by
  have hx := xlen_ge
  have hapart : Mstatus.VS.Apart Mstatus.SD := Or.inl (by show 9 + 2 ≤ xlen - 1; omega)
  refine iff_of_true (Field.get_set (by show xlen - 1 + 1 ≤ xlen; omega) _ _) (Or.inr (Or.inr ?_))
  unfold vsDirtied
  rw [Field.get_set_of_apart hapart, Field.get_set (by show 9 + 2 ≤ xlen; omega)]

/-- The entry to a trap. -/
theorem sdSummary_trapEntry {intr : Bool} {c : BitVec 8} {info : Option Xlenbits}
    {s s' : State} {p : Privilege} (ht : TrapEntry intr c info s p s') :
    SdSummary s'.mstatus ↔ SdSummary s.mstatus := by
  rcases ht with _ | _
  · unfold trapStateM mstatusTrapM
    dsimp only
    iterate 3 rw [sdSummary_set (by decide) (by decide) (by decide) (by decide)]
  · unfold trapStateS mstatusTrapS
    dsimp only
    iterate 3 rw [sdSummary_set (by decide) (by decide) (by decide) (by decide)]

/-- The returns from traps. -/
theorem sdSummary_mret (m : Xlenbits) (p lowest : Privilege) :
    SdSummary (mstatusMret m p lowest) ↔ SdSummary m := by
  unfold mstatusMret
  dsimp only
  split
  · iterate 4 rw [sdSummary_set (by decide) (by decide) (by decide) (by decide)]
  · iterate 3 rw [sdSummary_set (by decide) (by decide) (by decide) (by decide)]

theorem sdSummary_sret (m : Xlenbits) (p : Privilege) :
    SdSummary (mstatusSret m p) ↔ SdSummary m := by
  unfold mstatusSret
  dsimp only
  split
  · iterate 4 rw [sdSummary_set (by decide) (by decide) (by decide) (by decide)]
  · iterate 3 rw [sdSummary_set (by decide) (by decide) (by decide) (by decide)]

/-- The fields below the summary that a reset clears. -/
theorem get_initMstatus {f : Field} (hlow : f.lsb + f.width ≤ 31) (hMPP : f.Apart Mstatus.MPP)
    (misa : Xlenbits) (p : Privilege) : f.get (initMstatus 0#_ misa p) = 0#_ := by
  have hx := xlen_ge
  have hSD : f.Apart Mstatus.SD := Or.inl (by show f.lsb + f.width ≤ xlen - 1; omega)
  have hzero : f.get (0#_ : Xlenbits) = 0#_ := by
    unfold Field.get
    rw [BitVec.extractLsb'_zero]
  unfold initMstatus setMstatusSXL setMstatusUXL
  rcases Platform.xlen_eq with h32 | h64
  · have hne : ¬ xlen = 64 := by omega
    simp only [if_pos h32, if_neg hne]
    rw [Field.get_set_of_apart hMPP, Field.get_set_of_apart hSD, hzero]
  · have hne : ¬ xlen = 32 := by omega
    simp only [if_neg hne, if_pos h64]
    have hSBE : f.Apart ⟨36, 2⟩ := Or.inl (by show f.lsb + f.width ≤ 36; omega)
    have hUXL : f.Apart Mstatus.UXL := Or.inl (by show f.lsb + f.width ≤ 32; omega)
    have hSXL : f.Apart Mstatus.SXL := Or.inl (by show f.lsb + f.width ≤ 34; omega)
    refine (Field.get_set_of_apart hSBE _ _).trans ?_
    rw [Field.get_set_of_apart hMPP, Field.get_set_of_apart hSD, Field.get_set_of_apart hUXL,
      Field.get_set_of_apart hSXL, hzero]

/-- The summary is clear after a reset. -/
theorem get_initMstatus_SD (misa : Xlenbits) (p : Privilege) :
    Mstatus.SD.get (initMstatus 0#_ misa p) = 0#1 := by
  have hx := xlen_ge
  have hMPP : Mstatus.SD.Apart Mstatus.MPP := Or.inr (by show 11 + 2 ≤ xlen - 1; omega)
  have hfit : Mstatus.SD.Fits xlen := by
    show xlen - 1 + 1 ≤ xlen
    omega
  unfold initMstatus setMstatusSXL setMstatusUXL
  rcases Platform.xlen_eq with h32 | h64
  · have hne : ¬ xlen = 64 := by omega
    simp only [if_pos h32, if_neg hne]
    rw [Field.get_set_of_apart hMPP, Field.get_set hfit]
  · have hne : ¬ xlen = 32 := by omega
    simp only [if_neg hne, if_pos h64]
    have hSBE : Mstatus.SD.Apart ⟨36, 2⟩ := Or.inr (by show 36 + 2 ≤ xlen - 1; omega)
    refine (Field.get_set_of_apart hSBE _ _).trans ?_
    rw [Field.get_set_of_apart hMPP, Field.get_set hfit]

/-- The summary is right after a reset. -/
theorem Boots.sdSummary {entry : Xlenbits} {s : State} (h : Boots entry s) :
    SdSummary s.mstatus := by
  obtain ⟨-, -, hmstatus⟩ := boots_cases h
  unfold SdSummary
  rw [hmstatus, get_initMstatus_SD, get_initMstatus (f := Mstatus.FS) (by decide) (by decide),
    get_initMstatus (f := Mstatus.XS) (by decide) (by decide),
    get_initMstatus (f := Mstatus.VS) (by decide) (by decide)]
  refine iff_of_false (show ¬ (0#1 : BitVec 1) = 1#1 by decide) ?_
  rintro (h | h | h) <;> cases h

/-- A step that keeps the summary right. -/
def SdStep (s s' : State) : Prop := SdSummary s.mstatus → SdSummary s'.mstatus

instance : Std.Refl SdStep := ⟨fun _ h => h⟩

instance : IsTrans State SdStep := ⟨fun _ _ _ h h' hs => h' (h hs)⟩

instance : StepRel SdStep where
  devices _ _ := id
  store _ _ _ _ _ := id
  tlb _ _ _ := id
  x _ _ := id
  jump _ _ _ := id
  trap h := (sdSummary_trapEntry h).mpr
  vec _ _ := id
  dirtyV s := fun _ => sdSummary_vsDirtied s.mstatus
  fp _ _ _ := id
  dirtyFd _ s := fun _ => sdSummary_fsDirtied s.mstatus
  after _ _ := id
  bits _ _ := id

instance : TraceClosed SdStep := ⟨fun _ _ => id⟩

instance : ReservationClosed SdStep := ⟨fun _ _ _ => id⟩

instance : ClockClosed SdStep := ⟨fun _ _ => id⟩

instance : RetClosed SdStep where
  mret s prev _ := (sdSummary_mret s.mstatus prev _).mpr
  sret s _ := (sdSummary_sret s.mstatus _).mpr

/-! ## Runs -/

section

variable [SoftFloat] {s s' : State}

/-- What a read of `mstatus` or `sstatus` returns. -/
def statusRead (s : State) (csr : BitVec 12) : Xlenbits :=
  if csr = 0x300#12 then s.mstatus else lowerMstatus s.mstatus

/-- The turn executes an instruction that writes such a value to `mstatus` or `sstatus`. -/
def WritesOverridden (x : State × Turn × State) : Prop :=
  x.2.1 = .step ∧ ∃ z s₁, Executes x.1 (.CSR z) s₁ ∧ z.csr ∈ [0x300#12, 0x100#12] ∧ z.Writes s₁
    ∧ OverridesDirty (z.newVal (statusRead s₁ z.csr) (z.rs1Val s₁))

omit [SoftFloat] in
/-- Writes to the other CSRs keep the summary right. -/
theorem sdStep_of_written {csr : BitVec 12} {value : Xlenbits}
    (hcsr : csr ∉ [0x300#12, 0x100#12]) (hw : CsrWritten csr value s s') : SdStep s s' := by
  intro h
  simp only [List.mem_cons, List.not_mem_nil, or_false, not_or] at hcsr
  obtain ⟨h300, h100⟩ := hcsr
  rw [hw.mstatus, mstatusWritten, if_neg h300, if_neg h100]
  split_ifs
  · exact sdSummary_fsDirtied _
  · exact h
  · exact sdSummary_vsDirtied _
  · exact h
  · exact h

omit [SoftFloat] in
/-- A write of `mstatus` or `sstatus` decides whether the summary is right. -/
theorem sdSummary_written {csr : BitVec 12} {value : Xlenbits}
    (hcsr : csr ∈ [0x300#12, 0x100#12]) (hw : CsrWritten csr value s s') :
    SdSummary s'.mstatus ↔ ¬ OverridesDirty value := by
  rw [hw.mstatus, mstatusWritten]
  simp only [List.mem_cons, List.not_mem_nil, or_false] at hcsr
  rcases hcsr with rfl | rfl
  · rw [if_pos rfl, sdSummary_legalize]
  · rw [if_neg (by decide), if_pos rfl, sdSummary_legalizeSstatus]

omit [SoftFloat] in
theorem run_readCSR_status {csr : BitVec 12} (hcsr : csr ∈ [0x300#12, 0x100#12]) :
    (readCSR csr).run s = .ok (statusRead s csr, s) := by
  simp only [List.mem_cons, List.not_mem_nil, or_false] at hcsr
  rcases hcsr with rfl | rfl
  · rfl
  · simp [readCSR, statusRead, Exec.run_reads]

omit [SoftFloat] in
/-- What an access to a CSR does to the summary. -/
theorem sdSummary_zicsr {z : ZicsrInst} {r : Retired} (h : z.execute.run s = .ok (r, s')) :
    (z.csr ∈ [0x300#12, 0x100#12] ∧ z.Writes s ∧ (SdSummary s'.mstatus
        ↔ ¬ OverridesDirty (z.newVal (statusRead s z.csr) (z.rs1Val s))))
      ∨ (¬ (z.csr ∈ [0x300#12, 0x100#12] ∧ z.Writes s) ∧ SdStep s s') := by
  rcases zicsr_cases h with ⟨hcheck, -, htrap⟩ | ⟨hcheck, -, old, s₃, s₄, hread, rfl, hwrite⟩
  · refine Or.inr ⟨?_, htrap.rel⟩
    rintro ⟨-, hisw, hallow⟩
    rw [hisw, hallow] at hcheck
    cases hcheck
  · have hx : (s₄.setX z.rd old).mstatus = s₄.mstatus := by
      unfold State.setX
      split <;> rfl
    have hs₃ : SdStep s s₃ := (keeps_readCSR_of (R := SdStep) (fun _ => id) z.csr).rel hread
    rcases hwrite with ⟨hisw, rfl⟩ | ⟨hisw, new, hwrite⟩
    · refine Or.inr ⟨?_, fun hs => ?_⟩
      · rintro ⟨-, hw, -⟩
        rw [hisw] at hw
        cases hw
      · rw [hx]
        exact hs₃ hs
    · rw [hisw] at hcheck
      have hwritten := (csrWritten_writeCSR z.csr _).rel hwrite
      by_cases hcsr : z.csr ∈ [0x300#12, 0x100#12]
      · rw [run_readCSR_status hcsr] at hread
        cases hread
        refine Or.inl ⟨hcsr, ⟨hisw, hcheck⟩, ?_⟩
        rw [hx]
        exact sdSummary_written hcsr hwritten
      · refine Or.inr ⟨fun hw => hcsr hw.1, fun hs => ?_⟩
        rw [hx]
        exact sdStep_of_written hcsr hwritten (hs₃ hs)

omit [SoftFloat] in
/-- The end of a step leaves `mstatus` alone. -/
theorem mstatus_endStep (r : Retired) (s : State) : (endStep r s).mstatus = s.mstatus := by
  unfold endStep
  split <;> rfl

/-- **One turn keeps the summary right unless it writes a value that is dirty only in fields
that the register does not keep.** -/
theorem Turns.sdStep {t : Turn} (h : Turns t s s') (hbad : ¬ WritesOverridden (s, t, s')) :
    SdStep s s' := by
  cases t with
  | tick =>
      have : Exec.Keeps SdStep tickPlatform :=
        keeps_devices (fun _ => rfl)
      have hkeeps : Exec.Keeps SdStep (do tickClock; tickPlatform : M Unit) := inferInstance
      exact hkeeps.rel h
  | step =>
      obtain ⟨stepped, hstep⟩ := h
      obtain ⟨r, s₂, hout, rfl⟩ := step_cases hstep
      have hrel : SdStep s.begin s₂ := by
        refine hout.rel_of (fun {i s₁} hi hrun => ?_)
        by_cases hcsr : ∃ z, i = .CSR z
        · obtain ⟨z, rfl⟩ := hcsr
          rcases sdSummary_zicsr hrun with ⟨hz, hw, hsum⟩ | ⟨-, hsd⟩
          · exact fun _ => hsum.mpr (fun ho => hbad ⟨rfl, z, s₁, hi, hz, hw, ho⟩)
          · exact hsd
        · have hkeeps : Exec.Keeps SdStep i.execute :=
            Ast.keeps_of (fun _ => inferInstance) (fun _ => inferInstance) hi.evenOffset
              (fun _ => inferInstance) (fun _ => inferInstance) (fun z hz => absurd ⟨z, hz⟩ hcsr)
          exact hkeeps.rel hrun
      intro hs
      rw [mstatus_endStep]
      exact hrel hs

/-- After a turn that writes such a value the summary is wrong. -/
theorem WritesOverridden.not_sdSummary {t : Turn} (h : Turns t s s')
    (hbad : WritesOverridden (s, t, s')) : ¬ SdSummary s'.mstatus := by
  obtain ⟨rfl, z, s₁, hi, hcsr, hw, ho⟩ := hbad
  obtain ⟨stepped, hstep⟩ := h
  obtain ⟨r, s₂, hout, rfl⟩ := step_cases hstep
  rw [mstatus_endStep]
  have hrun : z.execute.run s₁ = .ok (r, s₂) := hout.run_of_executes hi
  rcases sdSummary_zicsr hrun with ⟨-, -, hsum⟩ | ⟨hno, -⟩
  · exact fun hs => hsum.mp hs ho
  · exact absurd ⟨hcsr, hw⟩ hno

variable {entry : Xlenbits} {s₀ : State} {path : List (State × Turn × State)}

/-- **The summary is right in every state of a run exactly if the run writes no value that is
dirty only in fields that `mstatus` does not keep.** -/
theorem sd_summary_iff (hboot : Boots entry s₀) (h : Trace Turns s₀ path s) :
    (SdSummary s₀.mstatus ∧ ∀ x ∈ path, SdSummary x.2.2.mstatus)
      ↔ ∀ x ∈ path, ¬ WritesOverridden x := by
  rw [and_iff_right hboot.sdSummary]
  exact h.forall_iff (I := fun s => SdSummary s.mstatus) hboot.sdSummary
    (fun hs hB hI => hs.sdStep hB hI) (fun hs hB => hB.not_sdSummary hs)

end

/-! ## A summary without a dirty context -/

/-- `lui x1, 0x18` and `csrw mstatus, x1`: the written value has `XS` dirty. -/
def dirtyXsMemory : ℕ → BitVec 8 :=
  Bytes.write (Bytes.write (fun _ => 0#8) 0x80000000 4 0x000180b7#32) 0x80000004 4 0x30009073#32

omit [Platform] in
/-- The run of the two instructions. -/
theorem run_dirtyXs :
    letI := rv32DirtyUpdate true
    letI : SoftFloat := default
    ∃ s₀ s₁ s₂, Boots 0x80000000#_ s₀ ∧ Turns .step s₀ s₁ ∧ Turns .step s₁ s₂
      ∧ ¬ SdSummary s₂.mstatus := by
  let := rv32DirtyUpdate true
  let : SoftFloat := default
  have hrun : Exec.passes (do
      initModel
      Exec.update (fun s => { s with
        pc := 0x80000000#_ })
      let _ ← step
      step : M Bool) (State.zero dirtyXsMemory)
      (fun _ s => decide (¬ SdSummary s.mstatus)) = true := by decide
  obtain ⟨b, s₂, h, hsd⟩ := Exec.passes_iff.mp hrun
  obtain ⟨_, s₀, hinit, h⟩ := Exec.run_bind_ok.mp h
  obtain ⟨_, _, hpc, h⟩ := Exec.run_bind_ok.mp h
  cases hpc
  obtain ⟨b₁, s₁, hfirst, hsecond⟩ := Exec.run_bind_ok.mp h
  exact ⟨_, s₁, s₂, ⟨_, s₀, hinit, rfl⟩, ⟨b₁, hfirst⟩, ⟨b, hsecond⟩, of_decide_eq_true hsd⟩

omit [Platform] in
/-- The summary says that a context is dirty, and none is. -/
theorem sd_set_without_dirty_context :
    ¬ ∀ [Platform] [SoftFloat] (entry : Xlenbits) (s₀ s : State)
      (path : List (State × Turn × State)), Boots entry s₀ → Trace Turns s₀ path s →
      SdSummary s.mstatus := by
  intro h
  let := rv32DirtyUpdate true
  let : SoftFloat := default
  obtain ⟨s₀, s₁, s₂, hboot, hfirst, hsecond, hsd⟩ := run_dirtyXs
  exact hsd (h _ s₀ s₂ _ hboot (.cons (.cons .nil hfirst) hsecond))

omit [Platform] in
/-- The run writes such a value. -/
theorem sd_summary_dirtyXs :
    letI := rv32DirtyUpdate true
    letI : SoftFloat := default
    ∃ s₀ s₁ s₂, ¬ ∀ x ∈ [(s₁, Turn.step, s₂), (s₀, Turn.step, s₁)], ¬ WritesOverridden x := by
  let := rv32DirtyUpdate true
  let : SoftFloat := default
  obtain ⟨s₀, s₁, s₂, hboot, hfirst, hsecond, hsd⟩ := run_dirtyXs
  refine ⟨s₀, s₁, s₂, fun hno => ?_⟩
  have hall := (sd_summary_iff hboot (.cons (.cons .nil hfirst) hsecond)).mpr hno
  exact hsd (hall.2 (s₁, .step, s₂) (List.mem_cons_self ..))

end SailRiscv
