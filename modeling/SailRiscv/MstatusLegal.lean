/-
# What `mstatus` can hold

`legalize_mstatus`, bit by bit, and the values of `mstatus` in the states that runs of the
machine reach: no bit outside the fields of the register is set, `MPP` is a privilege, and the
summary bit `SD` changes only together with the fields it sums up, or with a write of a value
whose own fields are dirty.
-/
import SailRiscv.Interrupts
import SailRiscv.StepRel

namespace SailRiscv

open Bits Platform

variable [Platform]

/-! ## The bits of a legalised value -/

/-- The bits of `mstatus` that `legalize_mstatus` leaves as written. -/
def MstatusPlain (i : ℕ) : Prop :=
  i = 1 ∨ i = 3 ∨ i = 5 ∨ (7 ≤ i ∧ i < 11) ∨ (18 ≤ i ∧ i < 23)

instance (i : ℕ) : Decidable (MstatusPlain i) := by
  unfold MstatusPlain
  infer_instance

omit [Platform] in
/-- The mask of the writable bits. -/
theorem testBit_writable (i : ℕ) :
    Nat.testBit 0x7fffaa i = decide (MstatusPlain i ∨ (11 ≤ i ∧ i < 18)) := by
  by_cases hi : i < 23
  · interval_cases i <;> decide
  · have hlt : 0x7fffaa < 2 ^ i :=
      lt_of_lt_of_le (by decide) (Nat.pow_le_pow_right (by decide) (Nat.le_of_not_lt hi))
    rw [Nat.testBit_lt_two_pow hlt]
    symm
    unfold MstatusPlain
    rw [decide_eq_false_iff_not]
    omega

theorem getLsbD_writable {i : ℕ} (hi : i < xlen) (v : Xlenbits) :
    (mstatusWritable v).getLsbD i
      = (v.getLsbD i && decide (MstatusPlain i ∨ (11 ≤ i ∧ i < 18))) := by
  unfold mstatusWritable
  rw [BitVec.getLsbD_and, BitVec.getLsbD_ofNat, testBit_writable]
  simp [hi]

/-- `MPP` after a write, legalised. -/
def mppLegal (s : State) (v : Xlenbits) : BitVec 2 :=
  if havePrivLevel s (Mstatus.MPP.get v) then Mstatus.MPP.get v
  else privLevelToBits (lowestSupportedPrivLevel s)

theorem get_writable {f : Field} (hf : 7 ≤ f.lsb ∧ f.lsb + f.width ≤ 23) (v : Xlenbits) :
    f.get (mstatusWritable v) = f.get v := by
  have hx := xlen_ge
  apply BitVec.eq_of_getLsbD_eq
  intro i hi
  rw [Field.getLsbD_get, Field.getLsbD_get, getLsbD_writable (by omega)]
  unfold MstatusPlain
  simp only [hi, decide_true, Bool.true_and]
  rw [decide_eq_true (by omega), Bool.and_true]

/-- The summary bit computed from a written value. -/
def dirtyWritten (v : Xlenbits) : Bool :=
  anyDirty (Mstatus.FS.get v) (Mstatus.XS.get v) (Mstatus.VS.get v)

/-- `mstatus` after a write of `v`, without the fields that only RV64 has. -/
def mstatusCore (s : State) (v : Xlenbits) : Xlenbits :=
  let m := Mstatus.MPP.set (mstatusWritable v) (mppLegal s v)
  let m := Mstatus.XS.set m (extStatusToBits .Off)
  let m := Mstatus.SD.set m (boolToBits (dirtyWritten v))
  let m := Mstatus.FS.set m (if sysEnableZfinx then extStatusToBits .Off else Mstatus.FS.get v)
  Mstatus.MPRV.set m (if extensionEnabled s .U then Mstatus.MPRV.get v else 0#1)

/-- Its bits. -/
def mstatusBit (s : State) (v : Xlenbits) (i : ℕ) : Bool :=
  if i = xlen - 1 then dirtyWritten v
  else if i = 17 then extensionEnabled s .U && v.getLsbD 17
  else if 13 ≤ i ∧ i < 15 then !sysEnableZfinx && v.getLsbD i
  else if 11 ≤ i ∧ i < 13 then (mppLegal s v).getLsbD (i - 11)
  else decide (MstatusPlain i) && v.getLsbD i

theorem getLsbD_mstatusCore (s : State) (v : Xlenbits) {i : ℕ} (hi : i < xlen) :
    (mstatusCore s v).getLsbD i = mstatusBit s v i := by
  have hx := xlen_ge
  have hone (b : Bool) : (boolToBits b).getLsbD 0 = b := by
    cases b <;> rfl
  unfold mstatusCore mstatusBit
  simp only [Field.getLsbD_set, getLsbD_writable hi, hi, true_and]
  by_cases hSD : i = xlen - 1
  · subst hSD
    rw [if_neg (by omega), if_neg (by omega), if_pos (by omega), if_pos rfl, Nat.sub_self, hone]
  rw [if_neg hSD]
  by_cases hMPRV : i = 17
  · subst hMPRV
    rw [if_pos (by omega), if_pos rfl, Nat.sub_self]
    cases extensionEnabled s .U with
    | false =>
        rw [if_neg (by decide)]
        rfl
    | true =>
        rw [if_pos rfl, Field.getLsbD_get]
        rfl
  rw [if_neg (by omega), if_neg hMPRV]
  by_cases hFS : 13 ≤ i ∧ i < 15
  · rw [if_pos (by omega), if_pos hFS]
    cases sysEnableZfinx with
    | true => exact BitVec.getLsbD_zero
    | false =>
        rw [if_neg (by decide), Field.getLsbD_get]
        simp [show i - 13 < 2 by omega, show 13 + (i - 13) = i by omega]
  rw [if_neg (by omega), if_neg hFS, if_neg (by omega)]
  by_cases hXS : 15 ≤ i ∧ i < 17
  · have hplain : ¬ MstatusPlain i := by
      unfold MstatusPlain
      omega
    rw [if_pos (by omega), if_neg (by omega), decide_eq_false hplain]
    exact BitVec.getLsbD_zero
  rw [if_neg (by omega)]
  by_cases hMPP : 11 ≤ i ∧ i < 13
  · rw [if_pos (by omega), if_pos hMPP]
  rw [if_neg (by omega), if_neg hMPP, Bool.and_comm]
  congr 2
  have : ¬ (11 ≤ i ∧ i < 18) := by omega
  simp [this]

theorem legalizeMstatus_eq (s : State) (o v : Xlenbits) :
    legalizeMstatus s o v = if xlen = 64
      then setRange (Mstatus.UXL.set (Mstatus.SXL.set (mstatusCore s v) (Mstatus.SXL.get o))
        (Mstatus.UXL.get o)) 36 (0b00#2)
      else mstatusCore s v := by
  have hFS : Mstatus.FS.get (mstatusWritable v) = Mstatus.FS.get v := get_writable (by decide) v
  have hXS : Mstatus.XS.get (mstatusWritable v) = Mstatus.XS.get v := get_writable (by decide) v
  have hVS : Mstatus.VS.get (mstatusWritable v) = Mstatus.VS.get v := get_writable (by decide) v
  have hMPP : Mstatus.MPP.get (mstatusWritable v) = Mstatus.MPP.get v := get_writable (by decide) v
  have hMPRV : Mstatus.MPRV.get (mstatusWritable v) = Mstatus.MPRV.get v :=
    get_writable (by decide) v
  unfold legalizeMstatus setMstatusSXL setMstatusUXL getMstatusSXL getMstatusUXL
  simp only [hFS, hXS, hVS, hMPP, hMPRV]
  rcases Platform.xlen_eq with hx | hx
  · have h64 : ¬ xlen = 64 := by omega
    simp only [if_pos hx, if_neg h64]
    rfl
  · have h32 : ¬ xlen = 32 := by omega
    simp only [if_pos hx, if_neg h32]
    rfl
/-- The fields that only RV64 has are taken from the old value. -/
theorem getLsbD_legalizeMstatus (s : State) (o v : Xlenbits) {i : ℕ} (hi : i < xlen) :
    (legalizeMstatus s o v).getLsbD i
      = if xlen = 64 ∧ 32 ≤ i ∧ i < 36 then o.getLsbD i else mstatusBit s v i := by
  rw [legalizeMstatus_eq]
  by_cases hx : xlen = 64
  swap
  · rw [if_neg hx, if_neg (fun h => hx h.1), getLsbD_mstatusCore s v hi]
  rw [if_pos hx, getLsbD_setRange]
  by_cases hmbe : 36 ≤ i ∧ i < 38
  · have hplain : ¬ MstatusPlain i := by
      unfold MstatusPlain
      omega
    rw [if_pos (by omega), if_neg (by omega), mstatusBit, if_neg (by omega), if_neg (by omega),
      if_neg (by omega), if_neg (by omega), decide_eq_false hplain]
    exact BitVec.getLsbD_zero
  rw [if_neg (by omega)]
  simp only [Field.getLsbD_set]
  by_cases huxl : 32 ≤ i ∧ i < 34
  · rw [if_pos (by omega), if_pos (by omega), Field.getLsbD_get]
    simp [show i - 32 < 2 by omega, show 32 + (i - 32) = i by omega]
  rw [if_neg (by omega)]
  by_cases hsxl : 34 ≤ i ∧ i < 36
  · rw [if_pos (by omega), if_pos (by omega), Field.getLsbD_get]
    simp [show i - 34 < 2 by omega, show 34 + (i - 34) = i by omega]
  rw [if_neg (by omega), if_neg (by omega), getLsbD_mstatusCore s v hi]

/-! ## Legal values -/

/-- The bits of the fields of `mstatus`, apart from `XS`. -/
def MstatusWarl (i : ℕ) : Prop :=
  MstatusPlain i ∨ (11 ≤ i ∧ i < 15) ∨ i = 17 ∨ i = xlen - 1 ∨ (xlen = 64 ∧ 32 ≤ i ∧ i < 36)

/-- A value that `mstatus` can hold. -/
structure LegalMstatus (m : Xlenbits) : Prop where
  bits : ∀ i < xlen, m.getLsbD i = true → MstatusWarl i
  mpp : Mstatus.MPP.get m ≠ 0b10#2
  fs : sysEnableZfinx = true → Mstatus.FS.get m = 0b00#2

/-- Changing a field other than `MPP` and `FS`. -/
theorem LegalMstatus.set {m : Xlenbits} (h : LegalMstatus m) {f : Field}
    (hbits : ∀ i, f.lsb ≤ i → i < f.lsb + f.width → MstatusWarl i) (hmpp : Mstatus.MPP.Apart f)
    (hfs : Mstatus.FS.Apart f) (x : BitVec f.width) : LegalMstatus (f.set m x) := by
  constructor
  · intro i hi hbit
    rw [Field.getLsbD_set] at hbit
    split at hbit
    · next hin => exact hbits i hin.2.1 hin.2.2
    · exact h.bits i hi hbit
  · rw [Field.get_set_of_apart hmpp]
    exact h.mpp
  · intro hz
    rw [Field.get_set_of_apart hfs]
    exact h.fs hz

/-- Changing `MPP` to a privilege. -/
theorem LegalMstatus.setMPP {m : Xlenbits} (h : LegalMstatus m) (p : Privilege) :
    LegalMstatus (Mstatus.MPP.set m (privLevelToBits p)) := by
  have hx := xlen_ge
  constructor
  · intro i hi hbit
    rw [Field.getLsbD_set] at hbit
    split at hbit
    · next hin =>
        simp only at hin
        exact Or.inr (Or.inl (by omega))
    · exact h.bits i hi hbit
  · rw [Field.get_set (by show 11 + 2 ≤ xlen; omega)]
    cases p <;> decide
  · intro hz
    rw [Field.get_set_of_apart (f := Mstatus.FS) (g := Mstatus.MPP) (by decide)]
    exact h.fs hz

/-- Marking the floating-point context as dirty, which no build with Zfinx does. -/
theorem LegalMstatus.fsDirtied {m : Xlenbits} (h : LegalMstatus m) (hz : sysEnableZfinx = false) :
    LegalMstatus (fsDirtied m) := by
  have hx := xlen_ge
  have hfs : LegalMstatus (Mstatus.FS.set m (extStatusToBits .Dirty)) := by
    constructor
    · intro i hi hbit
      rw [Field.getLsbD_set] at hbit
      split at hbit
      · next hin =>
          simp only at hin
          exact Or.inr (Or.inl (by omega))
      · exact h.bits i hi hbit
    · rw [Field.get_set_of_apart (f := Mstatus.MPP) (g := Mstatus.FS) (by decide)]
      exact h.mpp
    · intro ht
      rw [hz] at ht
      cases ht
  refine hfs.set ?_ (Or.inl (by show 11 + 2 ≤ xlen - 1; omega))
    (Or.inl (by show 13 + 2 ≤ xlen - 1; omega)) _
  intro i hlo hhi
  simp only at hlo hhi
  exact Or.inr (Or.inr (Or.inr (Or.inl (by omega))))

/-- Marking the vector context as dirty. -/
theorem LegalMstatus.vsDirtied {m : Xlenbits} (h : LegalMstatus m) :
    LegalMstatus (vsDirtied m) := by
  have hx := xlen_ge
  refine (h.set ?_ (by decide) (by decide) _).set ?_ (Or.inl (by show 11 + 2 ≤ xlen - 1; omega))
    (Or.inl (by show 13 + 2 ≤ xlen - 1; omega)) _
  · intro i hlo hhi
    simp only at hlo hhi
    exact Or.inl (by unfold MstatusPlain; omega)
  · intro i hlo hhi
    simp only at hlo hhi
    exact Or.inr (Or.inr (Or.inr (Or.inl (by omega))))

/-- A write makes the register legal if the privileges of the machine are. -/
theorem legalMstatus_legalize {s : State} (hU : extensionEnabled s .U = true) {o : Xlenbits}
    (v : Xlenbits) : LegalMstatus (legalizeMstatus s o v) := by
  have hx := xlen_ge
  constructor
  · intro i hi hbit
    rw [getLsbD_legalizeMstatus s o v hi] at hbit
    unfold MstatusWarl
    by_contra hw
    simp only [not_or] at hw
    obtain ⟨hplain, hfsmpp, h17, hsd, h64⟩ := hw
    rw [if_neg h64, mstatusBit, if_neg hsd, if_neg h17, if_neg (by omega), if_neg (by omega),
      decide_eq_false hplain] at hbit
    cases hbit
  · have hmpp : Mstatus.MPP.get (legalizeMstatus s o v) = mppLegal s v := by
      apply BitVec.eq_of_getLsbD_eq
      intro i hi
      simp only at hi
      rw [Field.getLsbD_get, getLsbD_legalizeMstatus s o v (by simp only; omega)]
      simp only [hi, decide_true, Bool.true_and]
      rw [if_neg (by omega), mstatusBit, if_neg (by omega), if_neg (by omega), if_neg (by omega),
        if_pos (by omega), Nat.add_sub_cancel_left]
    rw [hmpp]
    unfold mppLegal
    split
    · next hhave =>
        intro h10
        rw [h10] at hhave
        cases hhave
    · unfold lowestSupportedPrivLevel
      rw [if_pos hU]
      decide
  · intro hz
    apply BitVec.eq_of_getLsbD_eq
    intro i hi
    simp only at hi
    rw [Field.getLsbD_get, getLsbD_legalizeMstatus s o v (by simp only; omega)]
    simp only [hi, decide_true, Bool.true_and]
    rw [if_neg (by omega), mstatusBit, if_neg (by omega), if_neg (by omega), if_pos (by omega), hz]
    exact BitVec.getLsbD_zero.symm

/-! ## Legal states -/

/-- What holds of `misa` and `mstatus` in every reachable state. -/
structure MstatusLegal (s : State) : Prop where
  user : extensionEnabled s .U = true
  supervisor : extensionEnabled s .S = true
  build : sysEnableFdext = true → sysEnableZfinx = false
  mstatus : LegalMstatus s.mstatus

/-- A step between legal states. -/
def LegalStep (s s' : State) : Prop := MstatusLegal s → MstatusLegal s'

instance : Std.Refl LegalStep := ⟨fun _ h => h⟩

instance : IsTrans State LegalStep := ⟨fun _ _ _ h h' hs => h' (h hs)⟩

/-- A step that changes `mstatus` only. -/
theorem legalStep_of_mstatus {s s' : State} (hmisa : s'.misa = s.misa)
    (h : MstatusLegal s → LegalMstatus s'.mstatus) : LegalStep s s' := by
  intro hs
  refine ⟨?_, ?_, hs.build, h hs⟩
  · have hU := hs.user
    unfold extensionEnabled at hU ⊢
    rw [hmisa]
    exact hU
  · have hS := hs.supervisor
    unfold extensionEnabled at hS ⊢
    rw [hmisa]
    exact hS

/-- The bits of the single fields. -/
theorem warl_bit {k : ℕ} (h : MstatusPlain k ∨ k = 17) :
    ∀ i, k ≤ i → i < k + 1 → MstatusWarl i := by
  intro i hlo hhi
  have hik : i = k := by omega
  subst hik
  rcases h with h | h
  · exact Or.inl h
  · exact Or.inr (Or.inr (Or.inl h))

/-- The entry to a trap. -/
theorem LegalMstatus.trapEntry {intr : Bool} {c : BitVec 8} {info : Option Xlenbits}
    {s s' : State} {p : Privilege} (h : LegalMstatus s.mstatus)
    (ht : TrapEntry intr c info s p s') : LegalMstatus s'.mstatus := by
  rcases ht with _ | _
  · refine LegalMstatus.setMPP ?_ s.curPrivilege
    refine LegalMstatus.set ?_ (warl_bit (by decide)) (by decide) (by decide) _
    exact h.set (warl_bit (by decide)) (by decide) (by decide) _
  · refine LegalMstatus.set ?_ (warl_bit (by decide)) (by decide) (by decide) _
    refine LegalMstatus.set ?_ (warl_bit (by decide)) (by decide) (by decide) _
    exact h.set (warl_bit (by decide)) (by decide) (by decide) _

/-- The returns from traps. -/
theorem LegalMstatus.mret {m : Xlenbits} (h : LegalMstatus m) (p lowest : Privilege) :
    LegalMstatus (mstatusMret m p lowest) := by
  have hmpp : LegalMstatus (Mstatus.MPP.set (Mstatus.MPIE.set (Mstatus.MIE.set m
      (Mstatus.MPIE.get m)) 1#1) (privLevelToBits lowest)) := by
    refine LegalMstatus.setMPP ?_ lowest
    refine LegalMstatus.set ?_ (warl_bit (by decide)) (by decide) (by decide) _
    exact h.set (warl_bit (by decide)) (by decide) (by decide) _
  unfold mstatusMret
  dsimp only
  split
  · exact hmpp.set (warl_bit (by decide)) (by decide) (by decide) _
  · exact hmpp

theorem LegalMstatus.sret {m : Xlenbits} (h : LegalMstatus m) (p : Privilege) :
    LegalMstatus (mstatusSret m p) := by
  have hspp : LegalMstatus (Mstatus.SPP.set (Mstatus.SPIE.set (Mstatus.SIE.set m
      (Mstatus.SPIE.get m)) 1#1) 0#1) := by
    refine LegalMstatus.set ?_ (warl_bit (by decide)) (by decide) (by decide) _
    refine LegalMstatus.set ?_ (warl_bit (by decide)) (by decide) (by decide) _
    exact h.set (warl_bit (by decide)) (by decide) (by decide) _
  unfold mstatusSret
  dsimp only
  split
  · exact hspp.set (warl_bit (by decide)) (by decide) (by decide) _
  · exact hspp

instance : StepRel LegalStep where
  devices _ _ := legalStep_of_mstatus rfl MstatusLegal.mstatus
  store _ _ _ _ _ := legalStep_of_mstatus rfl MstatusLegal.mstatus
  tlb _ _ _ := legalStep_of_mstatus rfl MstatusLegal.mstatus
  x _ _ := legalStep_of_mstatus rfl MstatusLegal.mstatus
  jump _ _ _ := legalStep_of_mstatus rfl MstatusLegal.mstatus
  trap h := legalStep_of_mstatus (by rcases h with _ | _ <;> rfl) (fun hs => hs.mstatus.trapEntry h)
  vec _ _ := legalStep_of_mstatus rfl MstatusLegal.mstatus
  dirtyV _ := legalStep_of_mstatus rfl (fun hs => hs.mstatus.vsDirtied)
  fp _ _ _ := legalStep_of_mstatus rfl MstatusLegal.mstatus
  dirtyFd hf _ := legalStep_of_mstatus rfl (fun hs => hs.mstatus.fsDirtied (hs.build hf))
  after _ _ := legalStep_of_mstatus rfl MstatusLegal.mstatus
  bits _ _ := legalStep_of_mstatus rfl MstatusLegal.mstatus

instance : TraceClosed LegalStep := ⟨fun _ _ => legalStep_of_mstatus rfl MstatusLegal.mstatus⟩

instance : ReservationClosed LegalStep :=
  ⟨fun _ _ _ => legalStep_of_mstatus rfl MstatusLegal.mstatus⟩

instance : ClockClosed LegalStep := ⟨fun _ _ => legalStep_of_mstatus rfl MstatusLegal.mstatus⟩

instance : RetClosed LegalStep where
  mret _ prev _ := legalStep_of_mstatus rfl (fun hs => hs.mstatus.mret prev _)
  sret _ _ := legalStep_of_mstatus rfl (fun hs => hs.mstatus.sret _)

/-! ## Writes of CSRs -/

/-- `mstatus` after a write to any CSR. -/
theorem MstatusLegal.written {s : State} (h : MstatusLegal s) (csr : BitVec 12)
    (value : Xlenbits) : LegalMstatus (mstatusWritten s csr value) := by
  unfold mstatusWritten
  split_ifs with _ _ _ hf
  · exact legalMstatus_legalize h.user _
  · exact legalMstatus_legalize h.user _
  · exact h.mstatus.fsDirtied (h.build hf)
  · exact h.mstatus
  · exact h.mstatus.vsDirtied
  · exact h.mstatus
  · exact h.mstatus

theorem legalStep_of_written {csr : BitVec 12} {value : Xlenbits} {s s' : State}
    (hw : CsrWritten csr value s s') : LegalStep s s' := by
  intro h
  constructor
  · have hU := h.user
    unfold extensionEnabled at hU ⊢
    rw [hw.misa]
    split_ifs
    · rw [get_legalizeMisa (f := Misa.U) (by decide) (by decide) (by decide)]
      exact hU
    · exact hU
  · have hS := h.supervisor
    unfold extensionEnabled at hS ⊢
    rw [hw.misa]
    split_ifs
    · rw [get_legalizeMisa (f := Misa.S) (by decide) (by decide) (by decide)]
      exact hS
    · exact hS
  · exact h.build
  · rw [hw.mstatus]
    exact h.written csr value

instance keeps_legal_zicsr (i : ZicsrInst) : Exec.Keeps LegalStep i.execute :=
  keeps_zicsr (keeps_readCSR_of (R := LegalStep) (fun _ => legalStep_of_mstatus rfl MstatusLegal.mstatus) i.csr)
    (fun v => ⟨fun h => legalStep_of_written ((csrWritten_writeCSR i.csr v).rel h)⟩)

/-! ## Reachable states -/

/-- The reset enables user mode. -/
theorem initMisa_U (m : Xlenbits) : Misa.U.get (initMisa m) = 1#1 := by
  have hx := xlen_ge
  unfold initMisa
  simp only
  rw [Field.get_set_of_apart (f := Misa.U) (g := Misa.D) (by decide),
    Field.get_set_of_apart (f := Misa.U) (g := Misa.F) (by decide),
    Field.get_set_of_apart (f := Misa.U) (g := Misa.V) (by decide),
    Field.get_set_of_apart (f := Misa.U) (g := Misa.S) (by decide),
    Field.get_set (by show 20 + 1 ≤ xlen; omega)]

/-- The register is legal when it is zero. -/
theorem legalMstatus_zero : LegalMstatus (0#_ : Xlenbits) := by
  have hget (f : Field) : f.get (0#_ : Xlenbits) = 0#_ := by
    unfold Field.get
    rw [BitVec.extractLsb'_zero]
  constructor
  · intro i hi hbit
    rw [BitVec.getLsbD_zero] at hbit
    cases hbit
  · rw [hget]
    decide
  · intro _
    exact hget _

/-- Clearing a range that holds neither `MPP` nor `FS`. -/
theorem LegalMstatus.clear {m : Xlenbits} (h : LegalMstatus m) {f : Field}
    (hmpp : Mstatus.MPP.Apart f) (hfs : Mstatus.FS.Apart f) : LegalMstatus (f.set m 0#_) := by
  constructor
  · intro i hi hbit
    rw [Field.getLsbD_set] at hbit
    split at hbit
    · rw [BitVec.getLsbD_zero] at hbit
      cases hbit
    · exact h.bits i hi hbit
  · rw [Field.get_set_of_apart hmpp]
    exact h.mpp
  · intro hz
    rw [Field.get_set_of_apart hfs]
    exact h.fs hz

/-- `mstatus` is legal after a reset. -/
theorem legalMstatus_initMstatus (misa : Xlenbits) :
    LegalMstatus (initMstatus 0#_ misa .User) := by
  have hx := xlen_ge
  have hsd {m : Xlenbits} (h : LegalMstatus m) : LegalMstatus
      (Mstatus.MPP.set (Mstatus.SD.set m 0#1) (privLevelToBits .User)) :=
    (h.clear (f := Mstatus.SD) (Or.inl (by show 11 + 2 ≤ xlen - 1; omega))
      (Or.inl (by show 13 + 2 ≤ xlen - 1; omega))).setMPP .User
  unfold initMstatus setMstatusSXL setMstatusUXL
  rcases Platform.xlen_eq with h32 | h64
  · have hne : ¬ xlen = 64 := by omega
    simp only [if_pos h32, if_neg hne]
    exact hsd legalMstatus_zero
  · have hne : ¬ xlen = 32 := by omega
    have hxl {i : ℕ} (hlo : 32 ≤ i) (hhi : i < 36) : MstatusWarl i :=
      Or.inr (Or.inr (Or.inr (Or.inr ⟨h64, hlo, hhi⟩)))
    simp only [if_neg hne, if_pos h64]
    refine LegalMstatus.clear (f := ⟨36, 2⟩) (hsd ?_) (by decide) (by decide)
    refine LegalMstatus.set (LegalMstatus.set legalMstatus_zero ?_ (by decide) (by decide) _) ?_
      (by decide) (by decide) _
    · intro i hlo hhi
      simp only at hlo hhi
      exact hxl (by omega) (by omega)
    · intro i hlo hhi
      simp only at hlo hhi
      exact hxl (by omega) (by omega)

/-- The registers that the reset sets. -/
theorem boots_cases {entry : Xlenbits} {s : State} (h : Boots entry s) :
    (sysEnableFdext && sysEnableZfinx) = false ∧ s.misa = initMisa 0#_
      ∧ s.mstatus = initMstatus 0#_ (initMisa 0#_) .User := by
  obtain ⟨mem, s₀, hinit, rfl⟩ := h
  unfold initModel initPlatform at hinit
  rw [Exec.run_bind_of_ok rfl] at hinit
  unfold initSys at hinit
  cases hboth : sysEnableFdext && sysEnableZfinx with
  | true =>
      rw [hboth] at hinit
      cases hinit
  | false =>
      rw [hboth] at hinit
      unfold initPmp initTLB at hinit
      obtain ⟨_, s₁, hsys, hrest⟩ := Exec.run_bind_ok.mp hinit
      cases hrest
      rw [if_neg (by decide), Exec.run_bind_of_ok rfl, Exec.run_bind_of_ok rfl] at hsys
      obtain ⟨_, s₂, hcount, hpmp⟩ := Exec.run_bind_ok.mp hsys
      obtain ⟨-, rfl⟩ := run_assert_ok.mp hcount
      cases hpmp
      have hlowest : lowestSupportedPrivLevel
          { State.zero mem with misa := initMisa 0#_ } = .User :=
        if_pos (beq_iff_eq.mpr (initMisa_U _))
      refine ⟨rfl, rfl, ?_⟩
      exact congrArg (initMstatus 0#_ (initMisa 0#_)) hlowest

/-- A state in which the machine starts is legal. -/
theorem Boots.legal {entry : Xlenbits} {s : State} (h : Boots entry s) : MstatusLegal s := by
  obtain ⟨hboth, hmisa, hmstatus⟩ := boots_cases h
  constructor
  · unfold extensionEnabled
    rw [hmisa]
    exact beq_iff_eq.mpr (initMisa_U _)
  · unfold extensionEnabled
    rw [hmisa]
    exact beq_iff_eq.mpr (initMisa_S _)
  · intro hf
    rw [hf, Bool.true_and] at hboth
    exact hboth
  · rw [hmstatus]
    exact legalMstatus_initMstatus _

section

variable [SoftFloat] {s s' : State}

omit [SoftFloat] in
/-- The end of a step leaves `misa` and `mstatus` alone. -/
theorem legalStep_endStep (r : Retired) (s : State) : LegalStep s (endStep r s) := by
  refine legalStep_of_mstatus ?_ (fun h => ?_)
  · unfold endStep
    split <;> rfl
  · unfold endStep
    split <;> exact h.mstatus

/-- **Every turn of the loop keeps `mstatus` legal.** -/
theorem Turns.legalStep {t : Turn} (h : Turns t s s') : LegalStep s s' := by
  have hbegin (s : State) : LegalStep s s.begin := legalStep_of_mstatus rfl MstatusLegal.mstatus
  exact h.rel_of hbegin legalStep_endStep keeps_legal_zicsr

/-- `mstatus` is legal in every reachable state. -/
theorem mstatusLegal_of_trace {entry : Xlenbits} {s₀ : State}
    {path : List (State × Turn × State)} (hboot : Boots entry s₀)
    (h : Trace Turns s₀ path s) : MstatusLegal s :=
  h.invariant hboot.legal (fun _ hs hstep => hstep.legalStep hs)

end

end SailRiscv
