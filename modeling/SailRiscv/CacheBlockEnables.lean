/-
# The enables of the cache-block instructions

Outside machine mode the cache-block instructions are legal when fields of `menvcfg` and `senvcfg`
enable them.  This file follows these fields from the writes of the two registers to the
instructions.
-/
import SailRiscv.CsrWrites
import SailRiscv.Insts.Zext

namespace SailRiscv

open Bits Platform

variable [Platform]

/-! ## The instructions and their enables -/

/-- The check at the beginning of a clause. -/
def CacheBlockInst.enabled (s : State) (p : Privilege) : CacheBlockInst → Bool
  | .RISCV_ZICBOM .CBO_CLEAN _ => cboCleanFlushEnabled s p
  | .RISCV_ZICBOM .CBO_FLUSH _ => cboCleanFlushEnabled s p
  | .RISCV_ZICBOM .CBO_INVAL _ => cboInvalEnabled s p
  | .RISCV_ZICBOZ _ => cboZeroEnabled s p

/-- An instruction that is not enabled raises the exception of an illegal instruction. -/
theorem run_execute_of_disabled {i : CacheBlockInst} {s : State}
    (h : i.enabled s s.curPrivilege = false) : i.execute.run s = illegal.run s := by
  rcases i with ⟨cbop, rs1⟩ | rs1
  · rcases cbop
    all_goals
      show (if _ then _ else illegal : M Retired).run s = illegal.run s
      rw [if_neg (by rw [Bool.not_eq_true]; exact h)]
  · show (if cboZeroEnabled s s.curPrivilege then _ else illegal : M Retired).run s = illegal.run s
    rw [if_neg (by rw [Bool.not_eq_true]; exact h)]

/-- The field that enables an instruction is set in the value of an `envcfg` register. -/
def CacheBlockInst.SetIn {w : ℕ} (v : BitVec w) : CacheBlockInst → Prop
  | .RISCV_ZICBOM .CBO_CLEAN _ => Envcfg.CBCFE.get v = 1#1
  | .RISCV_ZICBOM .CBO_FLUSH _ => Envcfg.CBCFE.get v = 1#1
  | .RISCV_ZICBOM .CBO_INVAL _ => Envcfg.CBIE.get v ≠ 0#2
  | .RISCV_ZICBOZ _ => Envcfg.CBZE.get v = 1#1

/-- When an instruction is to be legal in the mode `p`, by the values `m` and `v` of `menvcfg` and
`senvcfg`. -/
def CacheBlockInst.LegalBy (s : State) (m : BitVec 64) (v : Xlenbits) (i : CacheBlockInst) :
    Privilege → Prop
  | .Machine => True
  | .Supervisor => i.SetIn m
  | .User => i.SetIn m ∧ (extensionEnabled s .S = true → i.SetIn v)

/-! ## Writes -/

/-- A write of one of the registers. -/
inductive EnvWrite
  | menvcfg (v : Xlenbits)
  | menvcfgh (v : Xlenbits) (h : xlen = 32)
  | senvcfg (v : Xlenbits)

/-- The register. -/
def EnvWrite.csr : EnvWrite → BitVec 12
  | .menvcfg _ => 0x30A#12
  | .menvcfgh _ _ => 0x31A#12
  | .senvcfg _ => 0x10A#12

/-- The value. -/
def EnvWrite.value : EnvWrite → Xlenbits
  | .menvcfg v => v
  | .menvcfgh v _ => v
  | .senvcfg v => v

/-- The values of `menvcfg` and `senvcfg` that were written last. -/
structure EnvWritten where
  m : BitVec 64
  s : Xlenbits

/-- The values after another write. -/
def EnvWritten.add (h : EnvWritten) : EnvWrite → EnvWritten
  | .menvcfg v => { h with m := setRange h.m 0 v }
  | .menvcfgh v _ => { h with m := setRange h.m 32 v }
  | .senvcfg v => { h with s := v }

/-- The writes one after the other. -/
def writeEnv : List EnvWrite → M Unit
  | [] => pure ()
  | w :: ws => do
      let _ ← writeCSR w.csr w.value
      writeEnv ws

/-- The values that a sequence of writes leaves, from those of the reset. -/
def lastWritten (ws : List EnvWrite) : EnvWritten := ws.foldl EnvWritten.add ⟨0#64, 0#_⟩

/-! ## The fields -/

/-- The fields of the cache-block instructions in the value of an `envcfg` register. -/
def cacheBits {w : ℕ} (v : BitVec w) : BitVec 4 := v.extractLsb' 4 4

/-- What the writes are to achieve: the instructions are legal as the last values say, and the
registers read as they were written. -/
structure EnablesTakeEffect (s : State) (h : EnvWritten) : Prop where
  legal : ∀ (i : CacheBlockInst) (p : Privilege), i.enabled s p = true ↔ i.LegalBy s h.m h.s p
  menvcfg : ∃ v, (readCSR 0x30A#12).run s = .ok (v, s) ∧ cacheBits v = cacheBits h.m
  senvcfg : ∃ v, (readCSR 0x10A#12).run s = .ok (v, s) ∧ cacheBits v = cacheBits h.s

/-- A write changes nothing but `FIOM`. -/
theorem cacheBits_legalize {w : ℕ} (o v : BitVec w) : cacheBits (legalizeEnvcfg o v) = cacheBits o := by
  apply BitVec.eq_of_getLsbD_eq
  intro i hi
  unfold cacheBits legalizeEnvcfg
  rw [BitVec.getLsbD_extractLsb', BitVec.getLsbD_extractLsb', Field.getLsbD_set,
    if_neg (by simp)]

/-- On RV32, the write of `menvcfgh`. -/
theorem writeCSR_menvcfgh (h : xlen = 32) (v : Xlenbits) :
    writeCSR 0x31A#12 v = writeReg
      (fun s => { s with menvcfg := legalizeMenvcfg s.menvcfg (setRange s.menvcfg 32 v) })
      (fun s => upperHalf s.menvcfg) := by
  simp [writeCSR, h]

/-- A write leaves the fields of the cache-block instructions as they are, and the rest of the
state too. -/
theorem run_writeCSR_env (w : EnvWrite) (s : State) :
    ∃ v m e, (writeCSR w.csr w.value).run s = .ok (v, { s with menvcfg := m, senvcfg := e })
      ∧ cacheBits m = cacheBits s.menvcfg ∧ cacheBits e = cacheBits s.senvcfg := by
  rcases w with v | ⟨v, h32⟩ | v
  · exact ⟨_, _, _, rfl, cacheBits_legalize _ _, rfl⟩
  · refine ⟨upperHalf (legalizeMenvcfg s.menvcfg (setRange s.menvcfg 32 v)), _, _, ?_,
      cacheBits_legalize _ (setRange s.menvcfg 32 v), rfl⟩
    show (writeCSR 0x31A#12 v).run s = _
    rw [writeCSR_menvcfgh h32]
    rfl
  · exact ⟨_, _, _, rfl, rfl, cacheBits_legalize _ _⟩

/-- The same of a sequence of writes. -/
theorem run_writeEnv (ws : List EnvWrite) :
    ∀ s : State, ∃ m e, (writeEnv ws).run s = .ok ((), { s with menvcfg := m, senvcfg := e })
      ∧ cacheBits m = cacheBits s.menvcfg ∧ cacheBits e = cacheBits s.senvcfg := by
  induction ws with
  | nil => exact fun s => ⟨s.menvcfg, s.senvcfg, rfl, rfl, rfl⟩
  | cons w ws ih =>
      intro s
      obtain ⟨v, m, e, hrun, hm, he⟩ := run_writeCSR_env w s
      obtain ⟨m', e', hruns, hm', he'⟩ := ih { s with menvcfg := m, senvcfg := e }
      refine ⟨m', e', ?_, hm'.trans hm, he'.trans he⟩
      unfold writeEnv
      rw [Exec.run_bind_of_ok hrun]
      exact hruns

/-! ## The instructions when the fields are clear -/

omit [Platform] in
/-- A field among the cache bits is clear with them. -/
theorem field_eq_zero_of_cacheBits {w : ℕ} {v : BitVec w} (h : cacheBits v = 0#4) {f : Field}
    (hlo : 4 ≤ f.lsb) (hhi : f.lsb + f.width ≤ 8) : f.get v = 0#_ := by
  apply BitVec.eq_of_getLsbD_eq
  intro i hi
  have hbit : (cacheBits v).getLsbD (f.lsb - 4 + i) = false := by
    rw [h]
    exact BitVec.getLsbD_zero
  unfold cacheBits at hbit
  rw [BitVec.getLsbD_extractLsb', decide_eq_true (by omega), Bool.true_and,
    show 4 + (f.lsb - 4 + i) = f.lsb + i by omega] at hbit
  unfold Field.get
  rw [BitVec.getLsbD_extractLsb', hbit, Bool.and_false, BitVec.getLsbD_zero]

omit [Platform] in
/-- No instruction is enabled by a value with clear cache bits. -/
theorem CacheBlockInst.not_setIn {w : ℕ} {v : BitVec w} (h : cacheBits v = 0#4)
    (i : CacheBlockInst) : ¬ i.SetIn v := by
  have hz : Envcfg.CBZE.get v = 0#1 := field_eq_zero_of_cacheBits h (by decide) (by decide)
  have hc : Envcfg.CBCFE.get v = 0#1 := field_eq_zero_of_cacheBits h (by decide) (by decide)
  have hi : Envcfg.CBIE.get v = 0#2 := field_eq_zero_of_cacheBits h (by decide) (by decide)
  rcases i with ⟨cbop, rs1⟩ | rs1
  · rcases cbop
    · exact fun hs => absurd (hc.symm.trans hs) (by decide)
    · exact fun hs => absurd (hc.symm.trans hs) (by decide)
    · exact fun hs => hs hi
  · exact fun hs => absurd (hz.symm.trans hs) (by decide)

/-- While the cache bits of `menvcfg` are clear, the instructions are enabled in machine mode
only. -/
theorem CacheBlockInst.enabled_of_clear {s : State} (h : cacheBits s.menvcfg = 0#4)
    (i : CacheBlockInst) (p : Privilege) : i.enabled s p = true ↔ p = .Machine := by
  have hz : Envcfg.CBZE.get s.menvcfg = 0#1 :=
    field_eq_zero_of_cacheBits h (by decide) (by decide)
  have hc : Envcfg.CBCFE.get s.menvcfg = 0#1 :=
    field_eq_zero_of_cacheBits h (by decide) (by decide)
  have hi : Envcfg.CBIE.get s.menvcfg = 0#2 :=
    field_eq_zero_of_cacheBits h (by decide) (by decide)
  have hcf : cboCleanFlushEnabled s p = true ↔ p = .Machine := by
    unfold cboCleanFlushEnabled featureEnabledForPriv
    rw [hc]
    rcases p <;> simp
  have hin : cboInvalEnabled s p = true ↔ p = .Machine := by
    unfold cboInvalEnabled featureEnabledForPriv
    rw [hi]
    rcases p <;> simp
  have hze : cboZeroEnabled s p = true ↔ p = .Machine := by
    unfold cboZeroEnabled featureEnabledForPriv
    rw [hz]
    rcases p <;> simp
  rcases i with ⟨cbop, rs1⟩ | rs1
  · rcases cbop
    · exact hcf
    · exact hcf
    · exact hin
  · exact hze

omit [Platform] in
/-- Reading a register of clear cache bits through its lower half gives clear cache bits. -/
theorem cacheBits_setWidth {w n : ℕ} (v : BitVec w) (h : 8 ≤ n) :
    cacheBits (v.setWidth n) = cacheBits v := by
  apply BitVec.eq_of_getLsbD_eq
  intro i hi
  unfold cacheBits
  rw [BitVec.getLsbD_extractLsb', BitVec.getLsbD_extractLsb', BitVec.getLsbD_setWidth,
    decide_eq_true (show 4 + i < n by omega), Bool.true_and]

/-- While the cache bits of both registers are clear, the enables are what was written exactly
when the fields that were written are clear too. -/
theorem enablesTakeEffect_iff_of_clear {s : State} (hm : cacheBits s.menvcfg = 0#4)
    (hs : cacheBits s.senvcfg = 0#4) (h : EnvWritten) :
    EnablesTakeEffect s h ↔ cacheBits h.m = 0#4 ∧ cacheBits h.s = 0#4 := by
  have hx := xlen_ge
  have hread : cacheBits (s.menvcfg.setWidth xlen) = 0#4 := by
    rw [cacheBits_setWidth _ (by omega), hm]
  constructor
  · rintro ⟨-, ⟨v, hv, hvm⟩, ⟨u, hu, hus⟩⟩
    have hrun : (readCSR 0x30A#12).run s = .ok (s.menvcfg.setWidth xlen, s) := rfl
    have hrun' : (readCSR 0x10A#12).run s = .ok (s.senvcfg, s) := rfl
    rw [hrun] at hv
    rw [hrun'] at hu
    obtain ⟨rfl, -⟩ := Prod.mk.inj (Except.ok.inj hv)
    obtain ⟨rfl, -⟩ := Prod.mk.inj (Except.ok.inj hu)
    exact ⟨hvm.symm.trans hread, hus.symm.trans hs⟩
  · rintro ⟨hm', hs'⟩
    refine ⟨?_, ⟨_, rfl, hread.trans hm'.symm⟩, ⟨_, rfl, hs.trans hs'.symm⟩⟩
    intro i p
    rw [i.enabled_of_clear hm]
    have hno := i.not_setIn hm'
    rcases p
    · exact ⟨nofun, fun hi => absurd hi.1 hno⟩
    · exact ⟨nofun, fun hi => absurd hi hno⟩
    · exact ⟨fun _ => trivial, fun _ => rfl⟩

/-- The reset clears the registers. -/
theorem envcfg_of_reset {mem : ℕ → BitVec 8} {s : State}
    (h : initSys.run (State.zero mem) = .ok ((), s)) : s.menvcfg = 0#64 ∧ s.senvcfg = 0#_ := by
  unfold initSys at h
  rw [Exec.run_bind_of_ok rfl] at h
  rcases hboth : sysEnableFdext && sysEnableZfinx with _ | _
  · rw [hboth, if_neg (by decide), Exec.run_bind_of_ok rfl] at h
    unfold initPmp at h
    obtain ⟨_, s₁, hcount, h⟩ := Exec.run_bind_ok.mp h
    obtain ⟨-, rfl⟩ := run_assert_ok.mp hcount
    cases h
    exact ⟨rfl, rfl⟩
  · rw [hboth] at h
    cases h

/-- **The enables of the cache-block instructions.**  After the reset, every sequence of writes of
`menvcfg`, `menvcfgh` and `senvcfg` succeeds.  The instructions are then legal as the values that
were written last say, and the registers read as they were written, exactly when these values
have the fields clear: the writes never reach the fields.  Outside machine mode every cache-block
instruction stays illegal. -/
theorem enables_take_effect_iff {mem : ℕ → BitVec 8} {s : State}
    (h : initSys.run (State.zero mem) = .ok ((), s)) (ws : List EnvWrite) :
    ∃ s', (writeEnv ws).run s = .ok ((), s')
      ∧ (EnablesTakeEffect s' (lastWritten ws)
        ↔ cacheBits (lastWritten ws).m = 0#4 ∧ cacheBits (lastWritten ws).s = 0#4)
      ∧ ∀ (i : CacheBlockInst) (s'' : State), s''.menvcfg = s'.menvcfg →
        s''.curPrivilege ≠ .Machine → i.execute.run s'' = illegal.run s'' := by
  obtain ⟨hm, hs⟩ := envcfg_of_reset h
  obtain ⟨m, e, hrun, hm', he'⟩ := run_writeEnv ws s
  rw [hm] at hm'
  rw [hs] at he'
  have hclear : cacheBits m = 0#4 := hm'.trans BitVec.extractLsb'_zero
  refine ⟨_, hrun, enablesTakeEffect_iff_of_clear hclear (he'.trans BitVec.extractLsb'_zero) _, ?_⟩
  intro i s'' hs'' hp
  refine run_execute_of_disabled (Bool.eq_false_iff.mpr (fun hi => hp ?_))
  exact (i.enabled_of_clear (by rw [hs'']; exact hclear) _).mp hi

omit [Platform] in
/-- On RV64, with `menvcfg.CBCFE` written from the reset. -/
theorem enables_take_effect_iff_clean :
    letI : Platform := rv64CacheBlock
    ∃ s, initSys.run (State.zero (fun _ => 0#8)) = .ok ((), s)
      ∧ ∃ s', (writeEnv [.menvcfg 0x40#64]).run s = .ok ((), s')
        ∧ (EnablesTakeEffect s' (lastWritten [.menvcfg 0x40#64])
          ↔ cacheBits (lastWritten [.menvcfg 0x40#64]).m = 0#4
            ∧ cacheBits (lastWritten [.menvcfg 0x40#64]).s = 0#4)
        ∧ ∀ (i : CacheBlockInst) (s'' : State), s''.menvcfg = s'.menvcfg →
          s''.curPrivilege ≠ .Machine → i.execute.run s'' = illegal.run s'' := by
  let : Platform := rv64CacheBlock
  exact ⟨_, rfl, enables_take_effect_iff rfl _⟩

omit [Platform] in
/-- On RV64, `menvcfg.CBCFE` is written after the reset: `menvcfg` does not read as written. -/
theorem menvcfg_ignores_cbcfe :
    letI : Platform := rv64CacheBlock
    ¬ ∀ (mem : ℕ → BitVec 8) (s : State), initSys.run (State.zero mem) = .ok ((), s) →
      ∀ ws : List EnvWrite, ∃ s', (writeEnv ws).run s = .ok ((), s')
        ∧ EnablesTakeEffect s' (lastWritten ws) := by
  let : Platform := rv64CacheBlock
  intro h
  obtain ⟨s', hrun, heffect⟩ := h (fun _ => 0#8) _ rfl [.menvcfg 0x40#64]
  cases hrun
  have hbits := ((enablesTakeEffect_iff_of_clear (by decide +kernel) (by decide +kernel) _).mp
    heffect).1
  exact absurd hbits (by decide)

end SailRiscv
