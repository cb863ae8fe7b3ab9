/-
# Atomic memory operations

An AMO translates, announces its address, reads and writes, each with its own checks.
`amo_atomic` says what comes of it: if the read succeeds the write does, so the instruction has
either updated its target or changed no data at all, apart from the write-back of a PTE by the
translation.
-/
import SailRiscv.Aliasing
import SailRiscv.FpFree
import SailRiscv.LrSc
import SailRiscv.PmpRule

namespace SailRiscv

open Bits Platform

variable [Platform]

/-! ## The target -/

/-- What the memory or the device at `pa` holds. -/
def target (s : State) (pa : Xlenbits) (n : ℕ) : Option (BitVec (8 * n)) :=
  if withinMmioReadable pa n then
    match mmioRead s .ReadWrite pa n with
    | .MemValue v => some v
    | .MemException _ => none
  else if withinPhysMem pa n then some (Bytes.read s.mem pa.toNat n)
  else none

/-- A store to the memory or the device at `pa`. -/
def storeTarget (pa : Xlenbits) (n : ℕ) (v : BitVec (8 * n)) : M (MemoryOpResult Bool) :=
  if withinMmioWritable pa n then mmioWrite pa n v else physMemWrite pa n v

/-- The target is the software interrupt of the CLINT. -/
def IsMsip (pa : Xlenbits) (n : ℕ) : Prop :=
  withinClint pa n = true ∧ pa - platClintBase = msipBase

instance (pa : Xlenbits) (n : ℕ) : Decidable (IsMsip pa n) := inferInstanceAs (Decidable (_ ∧ _))

/-- The target is the port of the host interface, and the store completes a command to the
terminal. -/
def ToTerminal (s : State) (pa : Xlenbits) (n : ℕ) (v : BitVec (8 * n)) : Prop :=
  (withinMmioReadable pa n = true ∧ withinClint pa n = false)
    ∧ htifReady (htifWritePort pa n v s) = true
    ∧ HtifCmd.device.get (htifWritePort pa n v s).htifTohost = 0x01#8

instance (s : State) (pa : Xlenbits) (n : ℕ) (v : BitVec (8 * n)) :
    Decidable (ToTerminal s pa n v) := inferInstanceAs (Decidable (_ ∧ _ ∧ _))

/-- What the target holds after a store: the software interrupt is one bit, and the port is
empty again after a command to the terminal. -/
def kept (s : State) (pa : Xlenbits) (n : ℕ) (v : BitVec (8 * n)) : BitVec (8 * n) :=
  if IsMsip pa n then (v.extractLsb' 0 1).setWidth _
  else if ToTerminal s pa n v then 0#_
  else v

section Target

variable {s s' : State} {pa : Xlenbits} {n : ℕ} {v old : BitVec (8 * n)}

/-- A device that can be read can be written. -/
theorem withinMmio_eq (h₁ : 1 ≤ n) (h₈ : n ≤ 8) :
    withinMmioWritable pa n = withinMmioReadable pa n := by
  unfold withinMmioWritable withinMmioReadable
  rw [decide_eq_true h₁, decide_eq_true h₈]

/-- Offsets of the CLINT are told apart by their numbers. -/
theorem offset_ne {a b : ℕ} (ha : a < 2 ^ 32) (hb : b < 2 ^ 32) (h : a ≠ b) :
    (BitVec.ofNat xlen a : Xlenbits) ≠ BitVec.ofNat xlen b := by
  intro heq
  have hpow : 2 ^ 32 ≤ 2 ^ xlen := Nat.pow_le_pow_right (by omega) xlen_ge
  have hnat := congrArg BitVec.toNat heq
  rw [BitVec.toNat_ofNat, BitVec.toNat_ofNat, Nat.mod_eq_of_lt (by omega),
    Nat.mod_eq_of_lt (by omega)] at hnat
  exact h hnat

/-- The registers of the CLINT lie at different offsets. -/
theorem offsets_ne : (mtimecmpBase ≠ msipBase ∧ mtimecmpBaseHi ≠ msipBase
      ∧ mtimeBase ≠ msipBase ∧ mtimeBaseHi ≠ msipBase)
    ∧ (mtimecmpBaseHi ≠ mtimecmpBase ∧ mtimeBase ≠ mtimecmpBase ∧ mtimeBaseHi ≠ mtimecmpBase)
    ∧ (mtimeBase ≠ mtimecmpBaseHi ∧ mtimeBaseHi ≠ mtimecmpBaseHi) ∧ mtimeBaseHi ≠ mtimeBase := by
  refine ⟨⟨?_, ?_, ?_, ?_⟩, ⟨?_, ?_, ?_⟩, ⟨?_, ?_⟩, ?_⟩ <;>
    exact offset_ne (by decide) (by decide) (by decide)

omit [Platform] in
/-- A range reads as it was written. -/
theorem extractLsb'_setRange {w k lo : ℕ} (h : lo + k ≤ w) (x : BitVec w) (y : BitVec k) :
    (setRange x lo y).extractLsb' lo k = y := by
  apply BitVec.eq_of_getLsbD_eq
  intro i hi
  rw [BitVec.getLsbD_extractLsb', getLsbD_setRange]
  simp [hi]
  omega

/-- The software interrupt after a store to it. -/
theorem get_msi_of_dispatch (s : State) (x b : BitVec 1) :
    Minterrupts.MSI.get (Minterrupts.MTI.set (Minterrupts.MSI.set s.mip x) b) = x := by
  have hfits : Minterrupts.MSI.Fits xlen := by
    have hx := xlen_ge
    unfold Field.Fits
    simp only
    omega
  rw [Field.get_set_of_apart (by decide), Field.get_set hfits]

/-- A register of the CLINT that can be read can be written, and holds the value. -/
theorem run_clintStore_of_load (hin : withinClint pa n = true) (v : BitVec (8 * n))
    (h : clintLoad s .ReadWrite pa n = .MemValue old) :
    ∃ s', (clintStore pa n v).run s = .ok (.MemValue true, s')
      ∧ clintLoad s' .ReadWrite pa n = .MemValue (kept s pa n v) := by
  have hkept : kept s pa n v = if pa - platClintBase = msipBase
      then (v.extractLsb' 0 1).setWidth _ else v := by
    unfold kept IsMsip ToTerminal
    simp only [hin, true_and, Bool.true_eq_false, and_false, false_and, if_false]
  rw [hkept]
  obtain ⟨⟨h₁, h₂, h₃, h₄⟩, ⟨h₅, h₆, h₇⟩, ⟨h₈, h₉⟩, h₁₀⟩ := offsets_ne
  unfold clintLoad at h ⊢
  unfold clintStore
  simp only at h ⊢
  generalize pa - platClintBase = d at *
  split_ifs at h with hc₁ hc₂ hc₃ hc₄ hc₅ hc₆ hc₇
  · obtain ⟨rfl, hn⟩ := hc₁
    simp only [hn, and_self, if_true]
    refine ⟨_, rfl, ?_⟩
    rw [get_msi_of_dispatch]
  · obtain ⟨rfl, rfl⟩ := hc₂
    simp only [h₁, or_true, Nat.reduceEqDiff, and_true, and_false, and_self, if_true, if_false,
      Nat.reduceMul, BitVec.setWidth_eq, MemoryOpResult.MemValue.injEq]
    exact ⟨_, rfl, extractLsb'_setRange (by decide) _ _⟩
  · obtain ⟨rfl, rfl⟩ := hc₃
    simp only [h₁, or_false, Nat.reduceEqDiff, and_true, and_false, and_self, if_true, if_false,
      Nat.reduceMul, BitVec.setWidth_eq, MemoryOpResult.MemValue.injEq]
    exact ⟨_, rfl, rfl⟩
  · obtain ⟨rfl, rfl⟩ := hc₄
    simp only [h₂, h₅, or_true, Nat.reduceEqDiff, and_true, and_false, and_self, if_true, if_false,
      Nat.reduceMul, BitVec.setWidth_eq, MemoryOpResult.MemValue.injEq]
    exact ⟨_, rfl, extractLsb'_setRange (by decide) _ _⟩
  · obtain ⟨rfl, rfl⟩ := hc₅
    simp only [h₃, h₆, h₈, or_true, Nat.reduceEqDiff, and_true, and_false, and_self, if_true, if_false,
      Nat.reduceMul, BitVec.setWidth_eq, MemoryOpResult.MemValue.injEq]
    exact ⟨_, rfl, extractLsb'_setRange (by decide) _ _⟩
  · obtain ⟨rfl, rfl⟩ := hc₆
    simp only [h₃, h₆, or_false, Nat.reduceEqDiff, and_true, and_false, and_self, if_true, if_false,
      Nat.reduceMul, BitVec.setWidth_eq, MemoryOpResult.MemValue.injEq]
    exact ⟨_, rfl, rfl⟩
  · obtain ⟨rfl, rfl⟩ := hc₇
    simp only [h₄, h₇, h₉, h₁₀, or_true, Nat.reduceEqDiff, and_true, and_self, if_true, if_false,
      Nat.reduceMul, BitVec.setWidth_eq, MemoryOpResult.MemValue.injEq]
    exact ⟨_, rfl, extractLsb'_setRange (by decide) _ _⟩

/-- The port after a command. -/
theorem htifTohost_execute (s : State) : (htifExecute s).htifTohost
    = if HtifCmd.device.get s.htifTohost = 0x01#8 then 0#64 else s.htifTohost := by
  unfold htifExecute
  dsimp only
  by_cases h₀ : HtifCmd.device.get s.htifTohost = 0x00#8
  · have h₁ : HtifCmd.device.get s.htifTohost ≠ 0x01#8 := by
      rw [h₀]
      decide
    rw [if_pos h₀, if_neg h₁]
    split_ifs <;> rfl
  · rw [if_neg h₀]
    split_ifs <;> rfl

/-- The port of the host interface that can be read can be written, and holds the value. -/
theorem run_htifStore_of_load (hin : withinMmioReadable pa n = true) (hout : withinClint pa n = false)
    (v : BitVec (8 * n)) (h : htifLoad s .ReadWrite pa n = .MemValue old) :
    ∃ s', (htifStore pa n v).run s = .ok (.MemValue true, s')
      ∧ htifLoad s' .ReadWrite pa n = .MemValue (kept s pa n v) := by
  have hkept : kept s pa n v
      = if htifReady (htifWritePort pa n v s) = true
          ∧ HtifCmd.device.get (htifWritePort pa n v s).htifTohost = 0x01#8 then 0#_ else v := by
    unfold kept IsMsip ToTerminal
    simp only [hin, hout, true_and, Bool.false_eq_true, false_and, if_false]
  refine ⟨_, rfl, ?_⟩
  rw [hkept]
  have hport : htifLoad (htifWritePort pa n v s) .ReadWrite pa n = .MemValue v := by
    unfold htifLoad at h
    unfold htifLoad htifWritePort
    split_ifs at h with hc₁ hc₂ hc₃
    · obtain ⟨rfl, rfl⟩ := hc₁
      simp only [and_self, if_true, Nat.reduceMul, BitVec.setWidth_eq]
    · obtain ⟨rfl, rfl⟩ := hc₂
      simp only [and_self, Nat.reduceEqDiff, and_true, if_false, if_true, Nat.reduceMul,
        BitVec.setWidth_eq, MemoryOpResult.MemValue.injEq]
      exact extractLsb'_setRange (by decide) _ _
    · obtain ⟨rfl, rfl⟩ := hc₃
      have hne : platHtifTohost + 4#_ ≠ platHtifTohost := fun he => hc₂ ⟨rfl, he⟩
      simp only [hne, and_self, Nat.reduceEqDiff, and_false, if_false, if_true, Nat.reduceMul,
        BitVec.setWidth_eq, MemoryOpResult.MemValue.injEq]
      exact extractLsb'_setRange (by decide) _ _
  generalize htifWritePort pa n v s = t at hport ⊢
  have htohost : (if htifReady t then htifExecute t else t).htifTohost
      = if htifReady t = true ∧ HtifCmd.device.get t.htifTohost = 0x01#8 then 0#64
        else t.htifTohost := by
    by_cases hready : htifReady t = true
    · rw [if_pos hready, htifTohost_execute]
      simp only [hready, true_and]
    · rw [if_neg hready, if_neg (fun hc => hready hc.1)]
  unfold htifLoad at hport ⊢
  rw [htohost]
  by_cases hc : htifReady t = true ∧ HtifCmd.device.get t.htifTohost = 0x01#8
  · rw [if_pos hc, if_pos hc]
    split_ifs at hport ⊢
    · rw [BitVec.setWidth_zero]
    · rw [BitVec.extractLsb'_zero, BitVec.setWidth_zero]
    · rw [BitVec.extractLsb'_zero, BitVec.setWidth_zero]
  · rw [if_neg hc, if_neg hc]
    exact hport

/-- **What can be read can be written**, and holds what it keeps of the value. -/
theorem run_storeTarget (h₁ : 1 ≤ n) (h₈ : n ≤ 8) (h : target s pa n = some old)
    (v : BitVec (8 * n)) :
    ∃ s', (storeTarget pa n v).run s = .ok (.MemValue true, s')
      ∧ target s' pa n = some (kept s pa n v) := by
  unfold storeTarget
  unfold target at h ⊢
  rw [withinMmio_eq h₁ h₈]
  cases hmmio : withinMmioReadable pa n with
  | false =>
      rw [hmmio, if_neg (by simp)] at h
      rw [if_neg (by simp)]
      cases hmem : withinPhysMem pa n with
      | false => rw [hmem, if_neg (by simp)] at h; cases h
      | true =>
          have hkept : kept s pa n v = v := by
            have hclint : withinClint pa n = false := by
              unfold withinMmioReadable at hmmio
              simp only [Bool.or_eq_false_iff] at hmmio
              exact hmmio.1
            unfold kept IsMsip ToTerminal
            simp only [hmmio, hclint, Bool.false_eq_true, false_and, if_false]
          refine ⟨_, rfl, ?_⟩
          rw [if_neg (by simp), if_pos rfl, hkept]
          exact congrArg some (Bytes.read_write _ _ _ _)
  | true =>
      rw [hmmio, if_pos rfl] at h
      rw [if_pos rfl]
      unfold mmioRead at h ⊢
      unfold mmioWrite
      cases hclint : withinClint pa n with
      | true =>
          rw [hclint, if_pos rfl] at h
          cases hload : clintLoad s .ReadWrite pa n with
          | MemException e => rw [hload] at h; cases h
          | MemValue w =>
              obtain ⟨s', hrun, hkept⟩ := run_clintStore_of_load hclint v hload
              refine ⟨s', hrun, ?_⟩
              rw [if_pos rfl, if_pos rfl, hkept]
      | false =>
          have hhtif : withinHtif pa n = true := by
            unfold withinMmioReadable at hmmio
            rw [hclint] at hmmio
            simp only [Bool.false_or, Bool.and_eq_true] at hmmio
            exact hmmio.1
          rw [hclint, hhtif, decide_eq_true h₁] at h
          rw [hhtif, decide_eq_true h₁, decide_eq_true h₈]
          simp only [Bool.false_eq_true, Bool.and_self, if_false, if_true] at h ⊢
          cases hload : htifLoad s .ReadWrite pa n with
          | MemException e => rw [hload] at h; cases h
          | MemValue w =>
              obtain ⟨s', hrun, hkept⟩ := run_htifStore_of_load hmmio hclint v hload
              refine ⟨s', hrun, ?_⟩
              rw [hkept]

end Target

/-! ## The checks -/

section Checks

variable {s s' : State} {pa : Xlenbits} {n : ℕ} {old : BitVec (8 * n)} {priv : Privilege}
  {aq rl : Bool} {e : ExceptionType}

omit [Platform] in
/-- An entry that admits a read and a write admits the write. -/
theorem pmpCheckPerms_write {cfg : BitVec 8} (h : pmpCheckPerms cfg .ReadWrite priv = true) :
    pmpCheckPerms cfg .Write priv = true := by
  unfold pmpCheckPerms pmpCheckRWX at h ⊢
  cases priv <;> simp only [Bool.and_eq_true] at h ⊢
  · exact h.2
  · exact h.2
  · split_ifs at h ⊢
    · exact (Bool.and_eq_true_iff.mp h).2
    · rfl

/-- A region that admits a read and a write admits the write. -/
theorem pmpCheckFrom_write {addr width : Xlenbits} {is : List (Fin 64)}
    (h : pmpCheckFrom s addr width .ReadWrite priv is = .ok none) :
    pmpCheckFrom s addr width .Write priv is = .ok none := by
  induction is with
  | nil =>
      unfold pmpCheckFrom at h ⊢
      split_ifs at h ⊢
      · rfl
      · cases h
  | cons i is ih =>
      rw [pmpCheckFrom, pmpMatchEntry_eq] at h ⊢
      cases hentry : entryMatch s i addr width with
      | error e => rw [hentry] at h; cases h
      | ok m =>
          rw [hentry] at h
          cases m with
          | PMP_NoMatch => exact ih h
          | PMP_PartialMatch => cases h
          | PMP_Match =>
              simp only [Except.map, matchVerdict, bind, Except.bind] at h ⊢
              by_cases hperm : pmpCheckPerms (s.pmpcfg i) .ReadWrite priv = true
              · rw [pmpCheckPerms_write hperm]
                rfl
              · rw [if_neg hperm] at h
                cases h

/-- The check of the write follows from that of the read. -/
theorem physAccessCheck_write (h : physAccessCheck s .ReadWrite priv pa n = .ok none) :
    physAccessCheck s .Write priv pa n = .ok none := by
  unfold physAccessCheck at h ⊢
  split_ifs at h ⊢ with hcount
  · rfl
  · exact pmpCheckFrom_write h

/-- The exceptions of stores and AMOs. -/
def IsSamo (e : ExceptionType) : Prop :=
  e = .E_SAMO_Addr_Align ∨ e = .E_SAMO_Access_Fault ∨ e = .E_SAMO_Page_Fault

/-- The check of a read and a write reports a fault of an AMO. -/
theorem isSamo_of_physAccessCheck (h : physAccessCheck s .ReadWrite priv pa n = .ok (some e)) :
    IsSamo e := by
  have hfrom {addr width : Xlenbits} {is : List (Fin 64)}
      (h : pmpCheckFrom s addr width .ReadWrite priv is = .ok (some e)) :
      e = .E_SAMO_Access_Fault := by
    induction is with
    | nil =>
        unfold pmpCheckFrom at h
        split_ifs at h
        · cases h
        · cases h
          rfl
    | cons i is ih =>
        rw [pmpCheckFrom, pmpMatchEntry_eq] at h
        cases hentry : entryMatch s i addr width with
        | error e => rw [hentry] at h; cases h
        | ok m =>
            rw [hentry] at h
            simp only [Except.map, bind, Except.bind] at h
            generalize matchVerdict (s.pmpcfg i) .ReadWrite priv m = verdict at h
            cases verdict with
            | PMP_Success => cases h
            | PMP_Continue => exact ih h
            | PMP_Fail => cases h; rfl
  unfold physAccessCheck at h
  split_ifs at h
  · cases h
  · exact Or.inr (Or.inl (hfrom h))

/-- A device reports a fault of an AMO. -/
theorem fault_of_mmioRead (h : mmioRead s .ReadWrite pa n = .MemException e) :
    e = .E_SAMO_Access_Fault := by
  unfold mmioRead clintLoad htifLoad at h
  simp only at h
  split_ifs at h
  all_goals cases h; rfl

/-- What the read of an AMO returns when its address is aligned. -/
theorem run_memRead (hal : isAlignedAddr pa n = true)
    (hpriv : effectivePrivilege .ReadWrite s.mstatus s.curPrivilege = .ok priv) :
    (memRead .ReadWrite pa n aq (aq && rl) true).run s
      = (physAccessCheck s .ReadWrite priv pa n).map (fun c => (match c with
          | some e => .MemException e
          | none => match target s pa n with
            | some v => .MemValue v
            | none => .MemException .E_SAMO_Access_Fault, s)) := by
  have hflags : (!aq && (aq && rl)) = false := by
    cases aq <;> rfl
  unfold memRead
  rw [Exec.run_checks, hpriv]
  simp only [bind, Except.bind]
  unfold memReadPriv checkedMemRead physMemRead readKindOfFlags target
  simp only [hal, hflags, Bool.not_true, Bool.and_false, Bool.false_eq_true, if_false]
  cases physAccessCheck s .ReadWrite priv pa n with
  | error e => rfl
  | ok c =>
      cases c with
      | some e => rfl
      | none =>
          simp only [Except.map]
          cases withinMmioReadable pa n with
          | true =>
              simp only [if_true]
              cases hread : mmioRead s .ReadWrite pa n with
              | MemValue v => rfl
              | MemException e => rw [fault_of_mmioRead hread]; rfl
          | false => cases withinPhysMem pa n <;> rfl

/-- What a read of an AMO that completes has checked. -/
theorem memRead_cases {m : MemoryOpResult (BitVec (8 * n))} (hal : isAlignedAddr pa n = true)
    (h : (memRead .ReadWrite pa n aq (aq && rl) true).run s = .ok (m, s')) :
    s' = s ∧ ((∃ e, IsSamo e ∧ m = .MemException e)
      ∨ ∃ old priv, m = .MemValue old
        ∧ effectivePrivilege .ReadWrite s.mstatus s.curPrivilege = .ok priv
        ∧ physAccessCheck s .ReadWrite priv pa n = .ok none ∧ target s pa n = some old) := by
  have hpriv : ∃ priv, effectivePrivilege .ReadWrite s.mstatus s.curPrivilege = .ok priv := by
    cases hp : effectivePrivilege .ReadWrite s.mstatus s.curPrivilege with
    | ok priv => exact ⟨priv, rfl⟩
    | error e =>
        unfold memRead at h
        rw [Exec.run_checks, hp] at h
        cases h
  obtain ⟨priv, hpriv⟩ := hpriv
  rw [run_memRead hal hpriv] at h
  cases hcheck : physAccessCheck s .ReadWrite priv pa n with
  | error e => rw [hcheck] at h; cases h
  | ok c =>
      rw [hcheck] at h
      cases h
      refine ⟨rfl, ?_⟩
      cases c with
      | some e => exact Or.inl ⟨e, isSamo_of_physAccessCheck hcheck, rfl⟩
      | none =>
          cases hold : target s pa n with
          | none => exact Or.inl ⟨_, Or.inr (Or.inl rfl), rfl⟩
          | some old => exact Or.inr ⟨old, priv, rfl, hpriv, hcheck, rfl⟩

/-- **After the read of an AMO its write is not refused.** -/
theorem run_memWriteValue (hal : isAlignedAddr pa n = true)
    (hpriv : effectivePrivilege .ReadWrite s.mstatus s.curPrivilege = .ok priv)
    (hcheck : physAccessCheck s .ReadWrite priv pa n = .ok none)
    (h₁ : 1 ≤ n) (h₈ : n ≤ 8) (h : target s pa n = some old) (v : BitVec (8 * n)) :
    (memWriteValue pa n v (aq && rl) rl true).run s = (storeTarget pa n v).run s := by
  have hwrite : effectivePrivilege .Write s.mstatus s.curPrivilege = .ok priv := by
    unfold effectivePrivilege at hpriv ⊢
    simpa using hpriv
  have hflags : ((aq && rl) && !rl) = false := by
    cases rl <;> simp
  have hp : (Exec.checks (fun s => effectivePrivilege .Write s.mstatus s.curPrivilege)
      : M Privilege).run s = .ok (priv, s) := Exec.run_checks_ok.mpr ⟨hwrite, rfl⟩
  have hc : (Exec.checks (fun s => physAccessCheck s .Write priv pa n)
      : M (Option ExceptionType)).run s = .ok (none, s) :=
    Exec.run_checks_ok.mpr ⟨physAccessCheck_write hcheck, rfl⟩
  have hk : (Exec.checks (fun _ => writeKindOfFlags (aq && rl) rl true) : M Unit).run s
      = .ok ((), s) := by
    refine Exec.run_checks_ok.mpr ⟨?_, rfl⟩
    unfold writeKindOfFlags
    rw [hflags]
    rfl
  unfold memWriteValue memWriteValuePrivMeta checkedMemWrite storeTarget
  rw [Exec.run_bind_of_ok hp, hal, if_neg (by simp), Exec.run_bind_of_ok hc]
  simp only
  cases hmmio : withinMmioWritable pa n with
  | true => rfl
  | false =>
      have hmem : withinPhysMem pa n = true := by
        unfold target at h
        rw [← withinMmio_eq h₁ h₈, hmmio] at h
        by_contra hno
        rw [if_neg (by simp), if_neg hno] at h
        cases h
      rw [hmem, if_neg (by simp), if_pos rfl, if_neg (by simp), Exec.run_bind_of_ok hk]

end Checks

/-! ## What a translation changes -/

/-- The memory and the devices are the same. -/
structure SameData (s s' : State) : Prop where
  mem : s'.mem = s.mem
  mip : s'.mip = s.mip
  mtime : s'.mtime = s.mtime
  mtimecmp : s'.mtimecmp = s.mtimecmp
  htifTohost : s'.htifTohost = s.htifTohost
  htifDone : s'.htifDone = s.htifDone
  htifExitCode : s'.htifExitCode = s.htifExitCode
  htifCmdWrite : s'.htifCmdWrite = s.htifCmdWrite
  htifPayloadWrites : s'.htifPayloadWrites = s.htifPayloadWrites
  termOutput : s'.termOutput = s.termOutput

/-- The translation of an access stores its copy of the PTE that it uses over it, with A and, for a
write, D set. -/
def StoresCopy (s s' : State) (va : Xlenbits) (ac : AccessType) : Prop :=
  ∃ p pte a x t s₁ b, UsesCopy s va ac p pte a ∧ updatePTEBits pte ac = some x
    ∧ (writePte p a x).run (s.withTlb t) = .ok (.MemValue b, s₁) ∧ SameData s₁ s'

/-- The translation of an access writes its PTE back.  Unless it uses the copy of a stale entry,
this sets at most A and D of the PTE in memory. -/
structure PteWrittenBack (s s' : State) (va : Xlenbits) (ac : AccessType) : Prop where
  stores : StoresCopy s s' va ac
  noLost : ¬ WritesStale s va ac → NoLostUpdate s s' va ac

section Translation

variable {s s' : State} {p : SVParams} {va : Xlenbits} {ac : AccessType} {priv : Privilege}
  {e : ExceptionType} {r : TRResult (BitVec 64) PTWError}

theorem SameData.refl (s : State) : SameData s s :=
  ⟨rfl, rfl, rfl, rfl, rfl, rfl, rfl, rfl, rfl, rfl⟩

theorem SameData.trans {s₁ s₂ s₃ : State} (h : SameData s₁ s₂) (h' : SameData s₂ s₃) :
    SameData s₁ s₃ :=
  ⟨h'.mem.trans h.mem, h'.mip.trans h.mip, h'.mtime.trans h.mtime,
    h'.mtimecmp.trans h.mtimecmp, h'.htifTohost.trans h.htifTohost,
    h'.htifDone.trans h.htifDone, h'.htifExitCode.trans h.htifExitCode,
    h'.htifCmdWrite.trans h.htifCmdWrite, h'.htifPayloadWrites.trans h.htifPayloadWrites,
    h'.termOutput.trans h.termOutput⟩

/-- The look-aside buffer is no data. -/
theorem sameData_withTlb (s : State) (t : Fin 64 → Option TLBEntry) : SameData s (s.withTlb t) :=
  ⟨rfl, rfl, rfl, rfl, rfl, rfl, rfl, rfl, rfl, rfl⟩

/-- An exception changes no data. -/
theorem TrapEntry.sameData {intr : Bool} {c : BitVec 8} {info : Option Xlenbits} {q : Privilege}
    (h : TrapEntry intr c info s q s') : SameData s s' := by
  rcases h with _ | _ <;> exact ⟨rfl, rfl, rfl, rfl, rfl, rfl, rfl, rfl, rfl, rfl⟩

theorem SyncTrap.sameData (h : SyncTrap s s') : SameData s s' := by
  obtain ⟨e, h⟩ := h
  exact (handleSync_cases h).sameData

/-- A write that faults changes nothing. -/
theorem state_of_writePte {pa : Xlenbits} {x : BitVec 64}
    (h : (writePte p pa x).run s = .ok (.MemException e, s')) : s' = s := by
  have hthen {f : State → State} {m : M Unit} {s₁ : State}
      (h : (do Exec.update f; m; pure (.MemValue true) : M (MemoryOpResult Bool)).run s₁
        = .ok (.MemException e, s')) : s' = s₁ := by
    obtain ⟨_, _, -, h₁⟩ := Exec.run_bind_ok.mp h
    obtain ⟨_, _, -, h₂⟩ := Exec.run_bind_ok.mp h₁
    cases h₂
  unfold writePte memWriteValuePriv memWriteValuePrivMeta checkedMemWrite at h
  rw [if_neg (by simp)] at h
  obtain ⟨c, s₁, hcheck, hdo⟩ := Exec.run_bind_ok.mp h
  obtain ⟨-, rfl⟩ := Exec.run_checks_ok.mp hcheck
  cases c with
  | some e => cases hdo; rfl
  | none =>
      simp only at hdo
      split at hdo
      · unfold mmioWrite at hdo
        split at hdo
        · unfold clintStore at hdo
          simp only at hdo
          split_ifs at hdo
          all_goals first | exact hthen hdo | (cases hdo; rfl)
        · split at hdo
          · exact hthen hdo
          · cases hdo
            rfl
      · split at hdo
        · obtain ⟨_, _, -, hphys⟩ := Exec.run_bind_ok.mp hdo
          obtain ⟨_, _, -, hend⟩ := Exec.run_bind_ok.mp hphys
          cases hend
        · cases hdo
          rfl

/-- What a miss changes. -/
theorem data_of_miss (htr : Translates s va ac p priv) (hlook : lookupIn s va = none)
    (h : (translateIn s p va ac priv).run s = .ok (r, s')) :
    SameData s s' ∨ (∃ a, r = .TR_Address a) ∧ StoresCopy s s' va ac := by
  have hp := htr.valid
  unfold translateIn at h
  rw [run_translate_miss hlook] at h
  cases hwalk : walkIn s p va ac priv with
  | error e => rw [run_miss_of_error hwalk] at h; cases h
  | ok w =>
      cases w with
      | PTW_Failure f =>
          rw [run_miss_of_failure hwalk] at h
          cases h
          exact Or.inl (.refl s)
      | PTW_Success o =>
          cases hx : updatePTEBits o.pte ac with
          | none =>
              rw [run_miss_clean hp hwalk hx] at h
              cases h
              exact Or.inl (sameData_withTlb s _)
          | some x =>
              cases hd : platEnableDirtyUpdate with
              | false =>
                  rw [run_miss_fixed hwalk hx hd] at h
                  cases h
                  exact Or.inl (.refl s)
              | true =>
                  rw [run_miss_of_success hwalk, hx] at h
                  simp only [hd, Bool.not_true, Bool.false_eq_true, if_false] at h
                  obtain ⟨w, s₁, hwrite, hrest⟩ := Exec.run_bind_ok.mp h
                  cases w with
                  | MemException f =>
                      cases hrest
                      rw [state_of_writePte hwrite]
                      exact Or.inl (.refl s)
                  | MemValue b =>
                      simp only at hrest
                      rw [Exec.run_bind_of_ok (run_addToTLB hp (level_le_of_ptWalk hwalk) x)]
                        at hrest
                      cases hrest
                      have ha : UsesCopy s va ac p o.pte (o.pteAddr.setWidth xlen) :=
                        ⟨priv, htr, Or.inr ⟨hlook, o, hwalk, rfl, rfl⟩⟩
                      exact Or.inr ⟨⟨_, rfl⟩, p, o.pte, _, x, s.tlb, s₁, b, ha, hx, hwrite,
                        sameData_withTlb s₁ _⟩

/-- What a hit changes. -/
theorem data_of_hit {i : Fin 64} {ent : TLBEntry} (htr : Translates s va ac p priv)
    (hlook : lookupIn s va = some (i, ent))
    (h : (translateIn s p va ac priv).run s = .ok (r, s')) :
    SameData s s' ∨ (∃ a, r = .TR_Address a) ∧ StoresCopy s s' va ac := by
  unfold translateIn at h
  rw [run_translate_hit hlook] at h
  cases hgrant : grantsIn s ac priv ent.pte with
  | error f =>
      unfold translateTLBHit at h
      obtain ⟨b, s₁, hb, -⟩ := Exec.run_bind_ok.mp h
      obtain ⟨hok, -⟩ := Exec.run_checks_ok.mp hb
      exact absurd (hok.symm.trans hgrant) (by simp)
  | ok granted =>
      cases granted with
      | false =>
          rw [run_hit_of_denied hgrant] at h
          cases h
          exact Or.inl (.refl s)
      | true =>
          cases hx : updatePTEBits ent.pte ac with
          | none =>
              rw [run_hit_clean hgrant hx] at h
              cases h
              exact Or.inl (.refl s)
          | some x =>
              cases hd : platEnableDirtyUpdate with
              | false =>
                  rw [run_hit_fixed hgrant hx hd] at h
                  cases h
                  exact Or.inl (.refl s)
              | true =>
                  rw [run_hit_of_allowed hgrant, hx] at h
                  simp only [hd, Bool.not_true, Bool.false_eq_true, if_false] at h
                  obtain ⟨u, s₁, htlb, hrest⟩ := Exec.run_bind_ok.mp h
                  cases htlb
                  obtain ⟨w, s₂, hwrite, hend⟩ := Exec.run_bind_ok.mp hrest
                  cases w with
                  | MemException f => cases hend
                  | MemValue b =>
                      cases hend
                      have ha : UsesCopy s va ac p ent.pte (ent.pteAddr.setWidth xlen) :=
                        ⟨priv, htr, Or.inl ⟨i, ent, hlook, rfl, rfl⟩⟩
                      exact Or.inr ⟨⟨_, rfl⟩, p, ent.pte, _, x, _, _, b, ha, hx, hwrite, .refl _⟩

/-- **What a translation changes**: nothing, unless it writes its PTE back and succeeds. -/
theorem data_of_translateAddr {r : TRResult Xlenbits ExceptionType}
    (h : (translateAddr va ac).run s = .ok (r, s')) :
    SameData s s' ∨ (∃ pa, r = .TR_Address pa) ∧ PteWrittenBack s s' va ac := by
  rcases translateAddr_cases h with ⟨rfl, -, -⟩ | ⟨p, priv, r', htr, hrun, rfl⟩
  · exact Or.inl (.refl _)
  · have hdata : SameData s s' ∨ (∃ a, r' = .TR_Address a) ∧ StoresCopy s s' va ac := by
      cases hlook : lookupIn s va with
      | none => exact data_of_miss htr hlook hrun
      | some x => exact data_of_hit htr hlook hrun
    rcases hdata with hsame | ⟨⟨a, rfl⟩, hstores⟩
    · exact Or.inl hsame
    · exact Or.inr ⟨⟨_, rfl⟩, hstores, noLostUpdate_of_fresh h⟩

/-- The failures of a translation are the exceptions of the access. -/
theorem exception_of_translateAddr
    (h : (translateAddr va ac).run s = .ok (.TR_Failure e, s')) :
    ∃ f, e = translationException ac f := by
  rcases translateAddr_cases h with ⟨-, -, ⟨-, ha⟩ | ⟨f, hf⟩⟩ | ⟨p, priv, r, -, -, hr⟩
  · cases ha
  · cases hf
    exact ⟨f, rfl⟩
  · cases r with
    | TR_Address a => cases hr
    | TR_Failure f => cases hr; exact ⟨f, rfl⟩

end Translation

/-! ## What is not implemented -/

section Implemented

omit [Platform] in
/-- A case that the model leaves out. -/
def IsNotImplemented (e : ModelError) : Prop := ∃ msg, e = .notImplemented msg

/-- The computation does not run into a case that is left out. -/
abbrev Implemented {α : Type} (m : M α) : Prop :=
  Exec.Plain (fun _ _ : State => True) (fun (i : Empty) (_ : State) => i.elim) IsNotImplemented m

instance : Std.Refl (fun _ _ : State => True) := ⟨fun _ => trivial⟩

instance : IsTrans State (fun _ _ => True) := ⟨fun _ _ _ _ _ => trivial⟩

instance {α : Type} (f : State → α) :
    Exec.Indep (fun (i : Empty) (_ : State) => i.elim) f := ⟨fun i => i.elim⟩

variable {msg : String}

/-- A check that implements its cases. -/
theorem implemented_checks {α : Type} {f : State → Except ModelError α}
    (h : ∀ s msg, f s ≠ .error (.notImplemented msg)) : Implemented (Exec.checks f) :=
  Exec.plain_checks (fun i => i.elim) (fun s _ ⟨msg, he⟩ => he ▸ h s msg)

instance (f : State → State) : Implemented (Exec.update f : M Unit) :=
  Exec.plain_update (fun _ => trivial) (fun i => i.elim)

instance {α : Type} (msg : String) : Implemented (internalError msg : M α) :=
  Exec.plain_abort (fun ⟨_, h⟩ => by cases h)

instance (c : Bool) (msg : String) : Implemented (assert c msg) := by
  unfold assert
  split
  · infer_instance
  · exact Exec.plain_abort (fun ⟨_, h⟩ => by cases h)

theorem physAccessCheck_implemented (s : State) (t : AccessType) (priv : Privilege)
    (pa : Xlenbits) (n : ℕ) : physAccessCheck s t priv pa n ≠ .error (.notImplemented msg) := by
  have hentry (i : Fin 64) (width : Xlenbits) :
      entryMatch s i pa width ≠ .error (.notImplemented msg) := by
    unfold entryMatch entryRange pmpAddrRange
    split <;> [skip; skip; split_ifs; skip] <;> rintro ⟨⟩
  have hfrom (width : Xlenbits) (is : List (Fin 64)) :
      pmpCheckFrom s pa width t priv is ≠ .error (.notImplemented msg) := by
    induction is with
    | nil => rintro ⟨⟩
    | cons i is ih =>
        rw [pmpCheckFrom, pmpMatchEntry_eq]
        refine bind_ne_error ?_ (fun v => ?_)
        · have h := hentry i width
          cases hm : entryMatch s i pa width with
          | ok m => rintro ⟨⟩
          | error e =>
              rw [hm] at h
              exact fun he => h (by cases he; rfl)
        · cases v
          · rintro ⟨⟩
          · exact ih
          · rintro ⟨⟩
  unfold physAccessCheck
  split_ifs
  · rintro ⟨⟩
  · exact hfrom _ _

theorem effectivePrivilege_implemented (t : AccessType) (m : Xlenbits) (priv : Privilege) :
    effectivePrivilege t m priv ≠ .error (.notImplemented msg) := by
  unfold effectivePrivilege privLevelOfBits
  split_ifs <;> rintro ⟨⟩

theorem memReadPriv_implemented {aq rl : Bool} (hflags : (!aq && rl) = false) (s : State)
    (t : AccessType) (priv : Privilege) (pa : Xlenbits) (n : ℕ) (res : Bool) :
    memReadPriv s t priv pa n aq rl res ≠ .error (.notImplemented msg) := by
  unfold memReadPriv
  split
  · rintro ⟨⟩
  · rw [hflags, if_neg (by simp)]
    unfold checkedMemRead
    refine bind_ne_error (physAccessCheck_implemented _ _ _ _ _) (fun c => ?_)
    cases c <;> rintro ⟨⟩

theorem ptWalk_implemented (s : State) (p : SVParams) (va : BitVec 64) (ac : AccessType)
    (priv : Privilege) (mxr doSum : Bool) (base : BitVec 64) (level : ℕ) (global : Bool) :
    ptWalk s p va ac priv mxr doSum base level global ≠ .error (.notImplemented msg) := by
  have hvpn (n : ℕ) : vpnJOfVa p va n ≠ .error (.notImplemented msg) := by
    unfold vpnJOfVa
    dsimp only
    split_ifs <;> rintro ⟨⟩
  have hread (a : BitVec 64) : readPTE s p a ≠ .error (.notImplemented msg) := by
    unfold readPTE
    refine bind_ne_error (memReadPriv_implemented rfl _ _ _ _ _ _) (fun r => ?_)
    cases r <;> rintro ⟨⟩
  have hleaf (pte a : BitVec 64) (n : ℕ) (g : Bool) :
      ptwLeaf p va ac priv mxr doSum pte a n g ≠ .error (.notImplemented msg) := by
    unfold ptwLeaf
    refine bind_ne_error ?_ (fun b => ?_)
    · unfold checkPTEPermission
      dsimp only
      split <;> rintro ⟨⟩
    · dsimp only
      split_ifs <;> rintro ⟨⟩
  induction level generalizing base global with
  | zero =>
      unfold ptWalk
      refine bind_ne_error (hvpn _) (fun v => bind_ne_error (hread _) (fun r => ?_))
      cases r with
      | none => rintro ⟨⟩
      | some pte =>
          dsimp only
          split_ifs
          · rintro ⟨⟩
          · rintro ⟨⟩
          · exact hleaf _ _ _ _
  | succ level ih =>
      unfold ptWalk
      refine bind_ne_error (hvpn _) (fun v => bind_ne_error (hread _) (fun r => ?_))
      cases r with
      | none => rintro ⟨⟩
      | some pte =>
          dsimp only
          split_ifs
          · rintro ⟨⟩
          · exact ih _ _
          · exact hleaf _ _ _ _

/-- A store implements the flags of an AMO. -/
theorem implemented_memWriteValuePrivMeta {pa : Xlenbits} {n : ℕ} {v : BitVec (8 * n)}
    {t : AccessType} {priv : Privilege} {aq rl con : Bool} (hflags : (aq && !rl) = false) :
    Implemented (memWriteValuePrivMeta pa n v t priv aq rl con) := by
  have hmmio : Implemented (mmioWrite pa n v) := by
    unfold mmioWrite clintStore htifStore clintDispatch
    infer_instance
  have hcheck : Implemented (Exec.checks (fun s => physAccessCheck s t priv pa n)) :=
    implemented_checks (fun _ _ => physAccessCheck_implemented _ _ _ _ _)
  have hkind : Implemented (Exec.checks (fun _ => writeKindOfFlags aq rl con)) := by
    refine implemented_checks (fun _ _ => ?_)
    unfold writeKindOfFlags
    rw [hflags]
    rintro ⟨⟩
  unfold memWriteValuePrivMeta checkedMemWrite physMemWrite
  refine @Exec.plain_ite _ _ _ _ _ _ _ _ _ _ _ inferInstance ?_
  refine @Exec.plain_bind _ _ _ _ _ _ _ _ _ _ _ hcheck (fun c => ?_)
  cases c <;> infer_instance

/-- A translation implements its cases. -/
instance implemented_translateAddr (va : Xlenbits) (ac : AccessType) :
    Implemented (translateAddr va ac) := by
  have hpriv : Implemented (Exec.checks (fun s => effectivePrivilege ac s.mstatus s.curPrivilege)) :=
    implemented_checks (fun _ _ => effectivePrivilege_implemented _ _ _)
  have hmode (priv : Privilege) : Implemented (Exec.checks (fun s => translationMode s priv)) := by
    refine implemented_checks (fun _ _ => ?_)
    unfold translationMode
    split_ifs
    · rintro ⟨⟩
    · rintro ⟨⟩
    · split
      · split <;> rintro ⟨⟩
      · rintro ⟨⟩
      · rintro ⟨⟩
  have hwrite (p : SVParams) (a : Xlenbits) (x : BitVec 64) : Implemented (writePte p a x) := by
    unfold writePte memWriteValuePriv
    exact implemented_memWriteValuePrivMeta (by decide)
  have hadd (asid : BitVec 16) (vAddr pa pte a : BitVec 64) (level n : ℕ) (g : Bool) :
      Implemented (addToTLB asid vAddr pa pte a level g n) := by
    unfold addToTLB
    exact @Exec.plain_bind _ _ _ _ _ _ _ _ _ _ _ inferInstance (fun _ => inferInstance)
  have hhit (p : SVParams) (vAddr : BitVec 64) (priv : Privilege) (mxr doSum : Bool) (i : Fin 64)
      (e : TLBEntry) : Implemented (translateTLBHit p vAddr ac priv mxr doSum i e) := by
    have hperm : Implemented (Exec.checks (fun _ => checkPTEPermission ac priv mxr doSum
        (pteFlags e.pte))) := by
      refine implemented_checks (fun _ _ => ?_)
      unfold checkPTEPermission
      dsimp only
      split <;> rintro ⟨⟩
    unfold translateTLBHit writeTLB
    refine @Exec.plain_bind _ _ _ _ _ _ _ _ _ _ _ hperm (fun b => ?_)
    refine @Exec.plain_ite _ _ _ _ _ _ _ _ _ _ _ inferInstance ?_
    cases updatePTEBits e.pte ac with
    | none => infer_instance
    | some x =>
        refine @Exec.plain_ite _ _ _ _ _ _ _ _ _ _ _ inferInstance ?_
        refine @Exec.plain_bind _ _ _ _ _ _ _ _ _ _ _ inferInstance (fun _ => ?_)
        refine @Exec.plain_bind _ _ _ _ _ _ _ _ _ _ _ (hwrite ..) (fun r => ?_)
        cases r <;> infer_instance
  have hmiss (p : SVParams) (asid : BitVec 16) (ptb vAddr : BitVec 64) (priv : Privilege)
      (mxr doSum : Bool) : Implemented (translateTLBMiss p asid ptb vAddr ac priv mxr doSum) := by
    have hwalk : Implemented (Exec.checks (fun s => ptWalk s p vAddr ac priv mxr doSum ptb
        (p.levels - 1) false)) :=
      implemented_checks (fun _ _ => ptWalk_implemented _ _ _ _ _ _ _ _ _ _)
    unfold translateTLBMiss
    refine @Exec.plain_bind _ _ _ _ _ _ _ _ _ _ _ hwalk (fun w => ?_)
    cases w with
    | PTW_Failure f => infer_instance
    | PTW_Success o =>
        simp only
        cases updatePTEBits o.pte ac with
        | none => exact @Exec.plain_bind _ _ _ _ _ _ _ _ _ _ _ (hadd ..) inferInstance
        | some x =>
            refine @Exec.plain_ite _ _ _ _ _ _ _ _ _ _ _ inferInstance ?_
            refine @Exec.plain_bind _ _ _ _ _ _ _ _ _ _ _ (hwrite ..) (fun r => ?_)
            cases r with
            | MemException e => infer_instance
            | MemValue b => exact @Exec.plain_bind _ _ _ _ _ _ _ _ _ _ _ (hadd ..) inferInstance
  unfold translateAddr
  refine @Exec.plain_bind _ _ _ _ _ _ _ _ _ _ _ hpriv (fun priv => ?_)
  refine @Exec.plain_bind _ _ _ _ _ _ _ _ _ _ _ (hmode priv) (fun mode => ?_)
  cases svParams mode with
  | none => infer_instance
  | some p =>
      refine @Exec.plain_ite _ _ _ _ _ _ _ _ _ _ _ inferInstance ?_
      refine Exec.plain_get_bind (fun s => ?_) (fun i => i.elim)
      refine @Exec.plain_bind _ _ _ _ _ _ _ _ _ _ _ ?_ (fun r => ?_)
      · unfold translate
        refine @Exec.plain_bind _ _ _ _ _ _ _ _ _ _ _ inferInstance (fun l => ?_)
        rcases l with _ | ⟨i, e⟩
        · exact hmiss ..
        · exact hhit ..
      · cases r <;> infer_instance

/-- An exception implements its cases. -/
instance implemented_memFault (vaddr : Xlenbits) (e : ExceptionType) :
    Implemented (memFault vaddr e) := by
  have hvec (p : Privilege) (f : State → Xlenbits) :
      Implemented (Exec.checks (fun s => prepareTrapVector s p (f s))) := by
    refine implemented_checks (fun s msg => ?_)
    have hmode (tvec cause : Xlenbits) : (match tvecAddr tvec cause with
        | some epc => pure epc
        | none => .error (.internalError "Invalid tvec mode") : Except ModelError Xlenbits)
          ≠ .error (.notImplemented msg) := by
      split <;> rintro ⟨⟩
    unfold prepareTrapVector
    cases p with
    | User => rintro ⟨⟩
    | Supervisor => exact hmode _ _
    | Machine => exact hmode _ _
  have htrap (p : Privilege) (c : BitVec 8) (pc : Xlenbits) (info : Option Xlenbits) :
      Implemented (trapHandler p false c pc info) := by
    have hM := hvec .Machine State.mcause
    have hS := hvec .Supervisor State.scause
    unfold trapHandler
    cases p with
    | User => infer_instance
    | Machine => infer_instance
    | Supervisor =>
        simp only
        refine @Exec.plain_bind _ _ _ _ _ _ _ _ _ _ _ inferInstance (fun b => ?_)
        refine @Exec.plain_bind _ _ _ _ _ _ _ _ _ _ _ inferInstance (fun _ => ?_)
        refine @Exec.plain_bind _ _ _ _ _ _ _ _ _ _ _ inferInstance (fun q => ?_)
        cases q <;> infer_instance
  unfold memFault handleMemException handleSync exceptionHandler setNextPc
  infer_instance

end Implemented

/-! ## The instruction -/

section Instruction

variable (op : Amoop) (aq rl : Bool) (rs2 rs1 : Regidx) (width : WordWidth) (rd : Regidx)

/-- The AMO has updated its target, and `rd` holds the old value. -/
def AmoUpdates (s s' : State) : Prop :=
  ∃ pa s₁ s₂ old, (translateAddr (s.X rs1) .ReadWrite).run s = .ok (.TR_Address pa, s₁)
    ∧ target s₁ pa (sizeBytes width) = some old
    ∧ (storeTarget pa (sizeBytes width) (op.result ((s.X rs2).extractLsb' 0 _) old)).run s₁
      = .ok (.MemValue true, s₂)
    ∧ s' = s₂.setX rd (old.signExtend xlen)
    ∧ target s' pa (sizeBytes width)
      = some (kept s₁ pa (sizeBytes width) (op.result ((s.X rs2).extractLsb' 0 _) old))
    ∧ (rd ≠ 0#5 → s'.X rd = old.signExtend xlen)

/-- The AMO has taken an exception of stores and AMOs.  It has changed no register and no data,
unless the translation has succeeded and has written its PTE back. -/
def AmoFaults (s s' : State) : Prop :=
  ∃ s₁ e, IsSamo e ∧ (memFault (s.X rs1) e).run s₁ = .ok (.RETIRE_FAIL, s') ∧ SameX s s'
    ∧ SameData s₁ s'
    ∧ (SameData s s₁ ∨ (∃ pa, (translateAddr (s.X rs1) .ReadWrite).run s = .ok (.TR_Address pa, s₁))
      ∧ PteWrittenBack s s₁ (s.X rs1) .ReadWrite)

/-- The AMO at an address that is translated. -/
def amoAt (vaddr pa : Xlenbits) (rs2Val : BitVec (8 * sizeBytes width)) : M Retired := do
  onMemValue (memFault vaddr) (← memRead .ReadWrite pa (sizeBytes width) aq (aq && rl) true)
    fun loaded => do
      onStored (memFault vaddr)
        (← memWriteValue pa (sizeBytes width) (op.result rs2Val loaded) (aq && rl) rl true)
        "AMO got false from mem_write_value" (retireX rd (loaded.signExtend xlen))

variable {op aq rl rs2 rs1 width rd} {s s₁ s' : State} {pa : Xlenbits} {r : Retired}

/-- An AMO whose address is translated. -/
theorem run_executeAmo_of_address (hw : sizeBytes width ≤ xlenBytes)
    (hal : isAligned (s.X rs1) width = true)
    (htr : (translateAddr (s.X rs1) .ReadWrite).run s = .ok (.TR_Address pa, s₁)) :
    (executeAmo op aq rl rs2 rs1 width rd).run s
      = (if isAlignedAddr pa (sizeBytes width)
          then amoAt op aq rl width rd (s.X rs1) pa ((s₁.X rs2).extractLsb' 0 _)
          else memFault (s.X rs1) .E_SAMO_Addr_Align).run s₁ := by
  have hassert : (assert (decide (sizeBytes width ≤ xlenBytes)) "").run s = .ok ((), s) :=
    run_assert_ok.mpr ⟨decide_eq_true hw, rfl⟩
  have hflags : ((aq && rl) && !rl) = false := by
    cases rl <;> simp
  have hea : (Exec.checks (fun _ => memWriteEa pa (sizeBytes width) (aq && rl) rl true)
      : M (MemoryOpResult Unit)).run s₁
      = .ok (if isAlignedAddr pa (sizeBytes width) then .MemValue ()
          else .MemException .E_SAMO_Addr_Align, s₁) := by
    refine Exec.run_checks_ok.mpr ⟨?_, rfl⟩
    unfold memWriteEa writeKindOfFlags
    rw [hflags, Bool.or_true, Bool.true_and]
    cases isAlignedAddr pa (sizeBytes width) <;> rfl
  unfold executeAmo
  rw [Exec.run_bind_of_ok hassert, Exec.run_bind_of_ok run_extDataGetAddr_zero, hal,
    if_neg (by simp), Exec.run_bind_of_ok htr]
  simp only [onAddress]
  rw [Exec.run_bind_of_ok hea]
  unfold rX
  rw [Exec.run_bind_of_ok (Exec.run_reads _ _)]
  cases isAlignedAddr pa (sizeBytes width) <;> rfl

/-- The part of an AMO after the translation, once its read has succeeded. -/
theorem run_amoAt_of_read {vaddr : Xlenbits} {rs2Val : BitVec (8 * sizeBytes width)}
    (hal : isAlignedAddr pa (sizeBytes width) = true) {old : BitVec (8 * sizeBytes width)}
    (hread : (memRead .ReadWrite pa (sizeBytes width) aq (aq && rl) true).run s
      = .ok (.MemValue old, s₁)) :
    ∃ s₂, (amoAt op aq rl width rd vaddr pa rs2Val).run s
        = .ok (.RETIRE_SUCCESS, s₂.setX rd (old.signExtend xlen))
      ∧ target s pa (sizeBytes width) = some old
      ∧ (storeTarget pa (sizeBytes width) (op.result rs2Val old)).run s = .ok (.MemValue true, s₂)
      ∧ target s₂ pa (sizeBytes width)
        = some (kept s pa (sizeBytes width) (op.result rs2Val old)) := by
  obtain ⟨h₁, h₈⟩ := sizeBytes_bounds width
  obtain ⟨rfl, ⟨e, -, hm⟩ | ⟨old', priv, hm, hpriv, hcheck, hold⟩⟩ := memRead_cases hal hread
  · cases hm
  cases hm
  obtain ⟨s₂, hstore, hkept⟩ := run_storeTarget h₁ h₈ hold (op.result rs2Val old)
  refine ⟨s₂, ?_, hold, hstore, hkept⟩
  unfold amoAt
  rw [Exec.run_bind_of_ok hread]
  simp only [onMemValue]
  rw [Exec.run_bind_of_ok ((run_memWriteValue hal hpriv hcheck h₁ h₈ hold _).trans hstore)]
  rfl

/-- **What comes of the part after the translation.** -/
theorem run_amoAt_cases {vaddr : Xlenbits} {rs2Val : BitVec (8 * sizeBytes width)}
    (hal : isAlignedAddr pa (sizeBytes width) = true)
    (h : (amoAt op aq rl width rd vaddr pa rs2Val).run s = .ok (r, s')) :
    (∃ old, (memRead .ReadWrite pa (sizeBytes width) aq (aq && rl) true).run s
        = .ok (.MemValue old, s))
      ∨ ∃ e, IsSamo e ∧ (memFault vaddr e).run s = .ok (r, s') := by
  unfold amoAt at h
  obtain ⟨m, s₁, hread, hrest⟩ := Exec.run_bind_ok.mp h
  obtain ⟨rfl, ⟨e, he, rfl⟩ | ⟨old, priv, rfl, -⟩⟩ := memRead_cases hal hread
  · exact Or.inr ⟨e, he, hrest⟩
  · exact Or.inl ⟨old, hread⟩

/-- A store that does not refuse keeps the data of the target in sight of a register write. -/
theorem target_setX (s : State) (rd : Regidx) (v pa : Xlenbits) (n : ℕ) :
    target (s.setX rd v) pa n = target s pa n := by
  unfold State.setX
  split <;> rfl

/-- An AMO that faults with an exception of its own. -/
theorem amoFaults_of_memFault {e : ExceptionType} (he : IsSamo e)
    (h : (memFault (s.X rs1) e).run s₁ = .ok (r, s')) (hx : SameX s s₁)
    (hdata : SameData s s₁ ∨ (∃ pa, (translateAddr (s.X rs1) .ReadWrite).run s
        = .ok (.TR_Address pa, s₁)) ∧ PteWrittenBack s s₁ (s.X rs1) .ReadWrite) :
    r = .RETIRE_FAIL ∧ AmoFaults rs1 s s' := by
  obtain ⟨rfl, htrap⟩ := run_memFault h
  exact ⟨rfl, s₁, e, he, h, IsTrans.trans _ _ _ hx htrap.sameX.1, htrap.sameData, hdata⟩

/-- The exceptions of the translation of an AMO. -/
theorem isSamo_of_translateAddr {va : Xlenbits} {e : ExceptionType}
    (h : (translateAddr va .ReadWrite).run s = .ok (.TR_Failure e, s₁)) : IsSamo e := by
  obtain ⟨f, rfl⟩ := exception_of_translateAddr h
  cases f <;> simp [translationException, IsSamo]

/-- **An AMO updates its target or takes an exception.** -/
theorem executeAmo_cases (h : (executeAmo op aq rl rs2 rs1 width rd).run s = .ok (r, s')) :
    (r = .RETIRE_SUCCESS ∧ AmoUpdates op rs2 rs1 width rd s s')
      ∨ (r = .RETIRE_FAIL ∧ AmoFaults rs1 s s') := by
  have hinv := h
  unfold executeAmo at hinv
  obtain ⟨u, s₀, hassert, hrest⟩ := Exec.run_bind_ok.mp hinv
  obtain ⟨hw, rfl⟩ := run_assert_ok.mp hassert
  rw [Exec.run_bind_of_ok run_extDataGetAddr_zero] at hrest
  cases hal : isAligned (s₀.X rs1) width with
  | false =>
      rw [hal, if_pos (by rfl)] at hrest
      exact Or.inr (amoFaults_of_memFault (Or.inl rfl) hrest (Std.Refl.refl _) (Or.inl (.refl _)))
  | true =>
      rw [hal, if_neg (by simp)] at hrest
      obtain ⟨tr, s₁, htr, hmem⟩ := Exec.run_bind_ok.mp hrest
      have hx : SameX s₀ s₁ := (keeps_translateAddr _ _).rel htr
      have hdata := data_of_translateAddr htr
      cases tr with
      | TR_Failure e =>
          refine Or.inr (amoFaults_of_memFault (isSamo_of_translateAddr htr) hmem hx ?_)
          rcases hdata with hsame | ⟨⟨pa, hpa⟩, -⟩
          · exact Or.inl hsame
          · cases hpa
      | TR_Address pa =>
          have hback : SameData s₀ s₁ ∨ (∃ pa, (translateAddr (s₀.X rs1) .ReadWrite).run s₀
              = .ok (.TR_Address pa, s₁)) ∧ PteWrittenBack s₀ s₁ (s₀.X rs1) .ReadWrite :=
            hdata.imp id (fun hb => ⟨⟨pa, htr⟩, hb.2⟩)
          rw [run_executeAmo_of_address (of_decide_eq_true hw) hal htr] at h
          cases hpa : isAlignedAddr pa (sizeBytes width) with
          | false =>
              rw [hpa, if_neg (by simp)] at h
              exact Or.inr (amoFaults_of_memFault (Or.inl rfl) h hx hback)
          | true =>
              rw [hpa, if_pos rfl] at h
              rcases run_amoAt_cases hpa h with ⟨old, hread⟩ | ⟨e, he, hfault⟩
              · obtain ⟨s₂, hrun, hold, hstore, hkept⟩ := run_amoAt_of_read hpa hread
                rw [hrun] at h
                cases h
                have hrs2 : s₁.X rs2 = s₀.X rs2 := by
                  unfold State.X
                  rw [hx]
                rw [hrs2] at hstore hkept
                refine Or.inl ⟨rfl, pa, s₁, s₂, old, htr, hold, hstore, rfl, ?_, fun hrd => ?_⟩
                · rw [target_setX, hkept]
                · rw [State.X_setX, if_pos ⟨rfl, hrd⟩]
              · exact Or.inr (amoFaults_of_memFault he hfault hx hback)

/-- **No setting of `aq` and `rl` reaches a case that is left out.** -/
theorem implemented_executeAmo : Implemented (executeAmo op aq rl rs2 rs1 width rd) := by
  have hrl : ((aq && rl) && !rl) = false := by
    cases rl <;> simp
  have haq : (!aq && (aq && rl)) = false := by
    cases aq <;> rfl
  have hpriv (t : AccessType) : Implemented (Exec.checks (fun s =>
      effectivePrivilege t s.mstatus s.curPrivilege)) :=
    implemented_checks (fun _ _ => effectivePrivilege_implemented _ _ _)
  have hea (pa : Xlenbits) : Implemented (Exec.checks (fun _ =>
      memWriteEa pa (sizeBytes width) (aq && rl) rl true)) := by
    refine implemented_checks (fun _ _ => ?_)
    unfold memWriteEa writeKindOfFlags
    rw [hrl]
    split
    · rintro ⟨⟩
    · rintro ⟨⟩
  have hread (pa : Xlenbits) :
      Implemented (memRead .ReadWrite pa (sizeBytes width) aq (aq && rl) true) := by
    unfold memRead
    refine implemented_checks (fun _ _ => bind_ne_error ?_ (fun _ => ?_))
    · exact effectivePrivilege_implemented _ _ _
    · exact memReadPriv_implemented haq _ _ _ _ _ _
  have hwrite (pa : Xlenbits) (v : BitVec (8 * sizeBytes width)) :
      Implemented (memWriteValue pa (sizeBytes width) v (aq && rl) rl true) := by
    unfold memWriteValue
    exact @Exec.plain_bind _ _ _ _ _ _ _ _ _ _ _ (hpriv _)
      (fun _ => implemented_memWriteValuePrivMeta hrl)
  have hX (v : Xlenbits) : Implemented (retireX rd v) := by
    unfold retireX wX
    infer_instance
  unfold executeAmo extDataGetAddr rX
  refine @Exec.plain_bind _ _ _ _ _ _ _ _ _ _ _ inferInstance (fun _ => ?_)
  refine @Exec.plain_bind _ _ _ _ _ _ _ _ _ _ _ inferInstance (fun vaddr => ?_)
  refine @Exec.plain_ite _ _ _ _ _ _ _ _ _ _ _ inferInstance ?_
  refine @Exec.plain_bind _ _ _ _ _ _ _ _ _ _ _ inferInstance (fun tr => ?_)
  cases tr with
  | TR_Failure e => exact implemented_memFault _ _
  | TR_Address pa =>
      refine @Exec.plain_bind _ _ _ _ _ _ _ _ _ _ _ (hea pa) (fun ea => ?_)
      refine @Exec.plain_bind _ _ _ _ _ _ _ _ _ _ _ inferInstance (fun v => ?_)
      cases ea with
      | MemException e => exact implemented_memFault _ _
      | MemValue u =>
          refine @Exec.plain_bind _ _ _ _ _ _ _ _ _ _ _ (hread pa) (fun m => ?_)
          cases m with
          | MemException e => exact implemented_memFault _ _
          | MemValue old =>
              refine @Exec.plain_bind _ _ _ _ _ _ _ _ _ _ _ (hwrite pa _) (fun w => ?_)
              cases w with
              | MemException e => exact implemented_memFault _ _
              | MemValue b => cases b <;> simp only [onStored, onMemValue] <;> infer_instance

/-- An AMO that aborts does so before its read has succeeded, or in the trap handler. -/
theorem executeAmo_aborts {e : ModelError}
    (h : (executeAmo op aq rl rs2 rs1 width rd).run s = .error e) :
    xlenBytes < sizeBytes width ∨ (translateAddr (s.X rs1) .ReadWrite).run s = .error e
      ∨ (∃ pa s₁, (translateAddr (s.X rs1) .ReadWrite).run s = .ok (.TR_Address pa, s₁)
        ∧ (memRead .ReadWrite pa (sizeBytes width) aq (aq && rl) true).run s₁ = .error e)
      ∨ ∃ s₁ f, (memFault (s.X rs1) f).run s₁ = .error e := by
  by_cases hw : sizeBytes width ≤ xlenBytes
  swap
  · exact Or.inl (by omega)
  refine Or.inr ?_
  have hassert : (assert (decide (sizeBytes width ≤ xlenBytes)) "").run s = .ok ((), s) :=
    run_assert_ok.mpr ⟨decide_eq_true hw, rfl⟩
  have hstart := h
  unfold executeAmo at hstart
  rw [Exec.run_bind_of_ok hassert, Exec.run_bind_of_ok run_extDataGetAddr_zero] at hstart
  cases hal : isAligned (s.X rs1) width with
  | false =>
      rw [hal, if_pos (by rfl)] at hstart
      exact Or.inr (Or.inr ⟨s, _, hstart⟩)
  | true =>
      rw [hal, if_neg (by simp)] at hstart
      cases htr : (translateAddr (s.X rs1) .ReadWrite).run s with
      | error f =>
          rw [Exec.run_bind_of_error htr] at hstart
          cases hstart
          exact Or.inl rfl
      | ok x =>
          rcases x with ⟨pa | f, s₁⟩
          swap
          · rw [Exec.run_bind_of_ok htr] at hstart
            exact Or.inr (Or.inr ⟨s₁, f, hstart⟩)
          rw [run_executeAmo_of_address hw hal htr] at h
          cases hpa : isAlignedAddr pa (sizeBytes width) with
          | false =>
              rw [hpa, if_neg (by simp)] at h
              exact Or.inr (Or.inr ⟨s₁, _, h⟩)
          | true =>
              rw [hpa, if_pos rfl] at h
              cases hread : (memRead .ReadWrite pa (sizeBytes width) aq (aq && rl) true).run s₁ with
              | error f =>
                  unfold amoAt at h
                  rw [Exec.run_bind_of_error hread] at h
                  cases h
                  exact Or.inr (Or.inl ⟨pa, s₁, rfl, hread⟩)
              | ok y =>
                  obtain ⟨m, s₂⟩ := y
                  obtain ⟨rfl, ⟨f, -, rfl⟩ | ⟨old, priv, rfl, -⟩⟩ := memRead_cases hpa hread
                  · unfold amoAt at h
                    rw [Exec.run_bind_of_ok hread] at h
                    exact Or.inr (Or.inr ⟨_, f, h⟩)
                  · obtain ⟨s₃, hrun, -⟩ := run_amoAt_of_read hpa hread
                    rw [hrun] at h
                    cases h

variable (op aq rl rs2 rs1 width rd)

/-- What is asked of an AMO: it updates its target or takes an exception of stores and AMOs; once
its read has succeeded it retires; and it aborts in none of the cases that are left out, and
nowhere after the read but in the trap handler. -/
structure AmoAtomic (s : State) : Prop where
  outcome : ∀ r s', (executeAmo op aq rl rs2 rs1 width rd).run s = .ok (r, s') →
    (r = .RETIRE_SUCCESS ∧ AmoUpdates op rs2 rs1 width rd s s')
      ∨ (r = .RETIRE_FAIL ∧ AmoFaults rs1 s s')
  retires : ∀ pa s₁ old, sizeBytes width ≤ xlenBytes → isAligned (s.X rs1) width = true →
    (translateAddr (s.X rs1) .ReadWrite).run s = .ok (.TR_Address pa, s₁) →
    isAlignedAddr pa (sizeBytes width) = true →
    (memRead .ReadWrite pa (sizeBytes width) aq (aq && rl) true).run s₁
      = .ok (.MemValue old, s₁) →
    ∃ s', (executeAmo op aq rl rs2 rs1 width rd).run s = .ok (.RETIRE_SUCCESS, s')
  implemented : ∀ msg, (executeAmo op aq rl rs2 rs1 width rd).run s
    ≠ .error (.notImplemented msg)
  aborts : ∀ e, (executeAmo op aq rl rs2 rs1 width rd).run s = .error e →
    xlenBytes < sizeBytes width ∨ (translateAddr (s.X rs1) .ReadWrite).run s = .error e
      ∨ (∃ pa s₁, (translateAddr (s.X rs1) .ReadWrite).run s = .ok (.TR_Address pa, s₁)
        ∧ (memRead .ReadWrite pa (sizeBytes width) aq (aq && rl) true).run s₁ = .error e)
      ∨ ∃ s₁ f, (memFault (s.X rs1) f).run s₁ = .error e

/-- **An AMO is atomic**, for every target, width and setting of `aq` and `rl`. -/
theorem amo_atomic (s : State) : AmoAtomic op aq rl rs2 rs1 width rd s where
  outcome _ _ := executeAmo_cases
  retires pa s₁ old hw hal htr hpa hread := by
    rw [run_executeAmo_of_address hw hal htr, hpa, if_pos rfl]
    obtain ⟨s₂, hrun, -⟩ := run_amoAt_of_read hpa hread
    exact ⟨_, hrun⟩
  implemented msg := implemented_executeAmo.avoids s _ ⟨msg, rfl⟩
  aborts _ := executeAmo_aborts

end Instruction

/-! ## Devices -/

/-- An `AMOOR.W` of 2 to the software interrupt. -/
def orMsip : State := ((State.zero (fun _ => 0#8)).setX 1#5 platClintBase).setX 2#5 2#_

/-- The PTE of address 0 is in `mtimecmp`, with D clear, and names a page without memory. -/
def tableInClint : State :=
  { State.zero (fun _ => 0#8) with
    curPrivilege := .Supervisor
    satp := 0x80002004#_
    mtimecmp := 0x1000004F#64 }

omit [Platform] in
/-- A target need not hold the result of the operation, and an AMO that traps may have changed a
device. -/
theorem amo_changes_devices :
    (¬ ∀ [Platform] (op : Amoop) (aq rl : Bool) (rs2 rs1 : Regidx) (width : WordWidth)
      (rd : Regidx) (s s' : State),
      (executeAmo op aq rl rs2 rs1 width rd).run s = .ok (.RETIRE_SUCCESS, s') →
      ∃ pa s₁ old, (translateAddr (s.X rs1) .ReadWrite).run s = .ok (.TR_Address pa, s₁)
        ∧ target s₁ pa (sizeBytes width) = some old
        ∧ target s' pa (sizeBytes width) = some (op.result ((s.X rs2).extractLsb' 0 _) old))
      ∧ ¬ ∀ [Platform] (op : Amoop) (aq rl : Bool) (rs2 rs1 : Regidx) (width : WordWidth)
        (rd : Regidx) (s s' : State),
        (executeAmo op aq rl rs2 rs1 width rd).run s = .ok (.RETIRE_FAIL, s') → SameData s s' := by
  let := rv32DirtyUpdate true
  constructor
  · intro h
    have hrun : (executeAmo .AMOOR false false 2#5 1#5 .WORD 0#5).passes orMsip (fun r s' =>
        r == .RETIRE_SUCCESS && decide (target s' platClintBase 4 = some 0#32)) = true := by decide
    obtain ⟨r, s', hs, htest⟩ := Exec.passes_iff.mp hrun
    rw [Bool.and_eq_true, beq_iff_eq, decide_eq_true_iff] at htest
    obtain ⟨rfl, hkept⟩ := htest
    obtain ⟨pa, s₁, old, htr, hold, hholds⟩ := h _ _ _ _ _ _ _ _ _ hs
    have hoff : TranslationOff orMsip .ReadWrite :=
      ⟨.User, .Sbare, by decide, by decide, by decide⟩
    rw [run_translateAddr_of_off hoff] at htr
    cases htr
    have hzero : target orMsip (orMsip.X 1#5) (sizeBytes .WORD) = some 0#_ := by
      decide
    rw [hzero] at hold
    cases hold
    have hnow : target s' (orMsip.X 1#5) (sizeBytes .WORD) = some 0#_ := hkept
    rw [hnow] at hholds
    exact absurd hholds (by decide)
  · intro h
    have hrun : (executeAmo .AMOADD false false 2#5 1#5 .WORD 0#5).passes tableInClint (fun r s' =>
        r == .RETIRE_FAIL && decide (s'.mtimecmp ≠ tableInClint.mtimecmp)) = true := by
      decide +kernel
    obtain ⟨r, s', hs, htest⟩ := Exec.passes_iff.mp hrun
    rw [Bool.and_eq_true, beq_iff_eq, decide_eq_true_iff] at htest
    obtain ⟨rfl, hne⟩ := htest
    exact absurd (h _ _ _ _ _ _ _ _ _ hs).mtimecmp hne

end SailRiscv
