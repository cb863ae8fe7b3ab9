/-
# Accesses outside Machine mode

`effectivePrivilege` does not ask for the mode of the hart: it follows `MPRV` wherever this bit is
set. Outside Machine mode the bit is clear in every reachable state, as the returns from traps clear
it, no trap lowers the privilege, and only Machine mode can write it
(`effectivePrivilege_of_trace`).
-/
import SailRiscv.TrapReturn
import SailRiscv.Sstatus

namespace SailRiscv

open Bits Platform

variable [Platform]

/-! ## The invariant -/

/-- Outside Machine mode `MPRV` is clear. -/
def MprvOff (s : State) : Prop := s.curPrivilege ≠ .Machine → Mstatus.MPRV.get s.mstatus = 0#1

/-- The step keeps `MPRV` clear outside Machine mode. -/
def MprvStep (s s' : State) : Prop := MprvOff s → MprvOff s'

instance : Std.Refl MprvStep := ⟨fun _ h => h⟩

instance : IsTrans State MprvStep := ⟨fun _ _ _ h h' hs => h' (h hs)⟩

/-- A step that leaves `MPRV` and the privilege alone. -/
theorem mprvStep_of_eq {s s' : State}
    (hm : Mstatus.MPRV.get s'.mstatus = Mstatus.MPRV.get s.mstatus)
    (hp : s'.curPrivilege = s.curPrivilege) : MprvStep s s' := by
  intro h hne
  rw [hm]
  exact h (hp ▸ hne)

/-- A step that ends with `MPRV` clear. -/
theorem mprvStep_of_clear {s s' : State} (h : Mstatus.MPRV.get s'.mstatus = 0#1) :
    MprvStep s s' := fun _ _ => h

/-- A step that ends in Machine mode. -/
theorem mprvStep_of_machine {s s' : State} (h : s'.curPrivilege = .Machine) : MprvStep s s' :=
  fun _ hne => absurd h hne

/-- The dirty bits are no part of `MPRV`. -/
theorem mprv_set {m : Xlenbits} {f : Field} (hf : Mstatus.MPRV.Apart f) (x : BitVec f.width) :
    Mstatus.MPRV.get (f.set m x) = Mstatus.MPRV.get m := Field.get_set_of_apart hf m x

theorem mprv_apart_SD : Mstatus.MPRV.Apart Mstatus.SD := by
  have hx := xlen_ge
  exact Or.inl (by show 17 + 1 ≤ xlen - 1; omega)

theorem mprv_vsDirtied (m : Xlenbits) : Mstatus.MPRV.get (vsDirtied m) = Mstatus.MPRV.get m := by
  unfold vsDirtied
  rw [mprv_set mprv_apart_SD, mprv_set (f := Mstatus.VS) (by decide)]

theorem mprv_fsDirtied (m : Xlenbits) : Mstatus.MPRV.get (fsDirtied m) = Mstatus.MPRV.get m := by
  unfold fsDirtied
  rw [mprv_set mprv_apart_SD, mprv_set (f := Mstatus.FS) (by decide)]

/-- A return clears `MPRV` unless it is to Machine mode. -/
theorem mprv_clear (m : Xlenbits) : Mstatus.MPRV.get (Mstatus.MPRV.set m 0#1) = 0#1 := by
  have hx := xlen_ge
  exact Field.get_set (by show 17 + 1 ≤ xlen; omega) _ _

/-- The entry to a trap leaves `MPRV` alone and does not lower the privilege. -/
theorem mprvStep_trapEntry {intr : Bool} {c : BitVec 8} {info : Option Xlenbits} {s s' : State}
    {p : Privilege} (h : TrapEntry intr c info s p s') : MprvStep s s' := by
  rcases h with _ | ⟨-, hpriv, -⟩
  · exact mprvStep_of_machine rfl
  · intro hoff _
    have hclear := hoff hpriv
    unfold trapStateS mstatusTrapS
    dsimp only
    rw [mprv_set (f := Mstatus.SPP) (by decide), mprv_set (f := Mstatus.SIE) (by decide),
      mprv_set (f := Mstatus.SPIE) (by decide)]
    exact hclear

instance : StepRel MprvStep where
  devices _ _ := mprvStep_of_eq rfl rfl
  store _ _ _ _ _ := mprvStep_of_eq rfl rfl
  tlb _ _ _ := mprvStep_of_eq rfl rfl
  x _ _ := mprvStep_of_eq rfl rfl
  jump _ _ _ := mprvStep_of_eq rfl rfl
  trap h := mprvStep_trapEntry h
  vec _ _ := mprvStep_of_eq rfl rfl
  dirtyV _ := mprvStep_of_eq (mprv_vsDirtied _) rfl
  fp _ _ _ := mprvStep_of_eq rfl rfl
  dirtyFd _ _ := mprvStep_of_eq (mprv_fsDirtied _) rfl
  after _ _ := mprvStep_of_eq rfl rfl
  bits _ _ := mprvStep_of_eq rfl rfl

instance : TraceClosed MprvStep := ⟨fun _ _ => mprvStep_of_eq rfl rfl⟩

instance : ReservationClosed MprvStep := ⟨fun _ _ _ => mprvStep_of_eq rfl rfl⟩

instance : ClockClosed MprvStep := ⟨fun _ _ => mprvStep_of_eq rfl rfl⟩

instance : RetClosed MprvStep where
  mret s prev n := by
    by_cases hp : prev = .Machine
    · exact mprvStep_of_machine hp
    · refine mprvStep_of_clear ?_
      unfold State.mret mstatusMret
      simp only [ne_eq, hp, not_false_eq_true, if_true]
      exact mprv_clear _
  sret s n := by
    have hp : sretPrivilege s.mstatus ≠ .Machine := by
      unfold sretPrivilege
      split <;> decide
    refine mprvStep_of_clear ?_
    unfold State.sret mstatusSret
    simp only [ne_eq, hp, not_false_eq_true, if_true]
    exact mprv_clear _

/-! ## Writes of CSRs -/

/-- A write of `sstatus` goes by the old `MPRV`. -/
theorem mprv_legalizeSstatus (s : State) (m v : Xlenbits) (h : Mstatus.MPRV.get m = 0#1) :
    Mstatus.MPRV.get (legalizeSstatus s m v) = 0#1 := by
  have hx := xlen_ge
  have hm : m.getLsbD 17 = false := by
    have hbit := Field.getLsbD_get Mstatus.MPRV m 0
    rw [h] at hbit
    simpa using hbit.symm
  have hf : ¬ SstatusField 17 := by decide
  apply BitVec.eq_of_getLsbD_eq
  intro i hi
  obtain rfl : i = 0 := by
    simp only at hi
    omega
  rw [Field.getLsbD_get]
  unfold legalizeSstatus
  rw [getLsbD_legalizeMstatus _ _ _ (by simp only; omega), if_neg (by simp only; omega),
    mstatusBit, if_neg (by simp only; omega), if_pos rfl,
    getLsbD_liftSstatus _ _ (by omega), if_neg (by omega), if_neg hf, hm]
  simp

/-- A write of another CSR than `mstatus` keeps `MPRV` clear. -/
theorem mprvStep_of_written {csr : BitVec 12} {value : Xlenbits} {s s' : State}
    (hcsr : csr ≠ 0x300#12) (hw : CsrWritten csr value s s') : MprvStep s s' := by
  intro h hne
  rw [hw.curPrivilege] at hne
  have hclear := h hne
  rw [hw.mstatus, mstatusWritten, if_neg hcsr]
  split_ifs
  · exact mprv_legalizeSstatus s _ _ hclear
  · rw [mprv_fsDirtied]
    exact hclear
  · exact hclear
  · rw [mprv_vsDirtied]
    exact hclear
  · exact hclear
  · exact hclear

/-- The step does not leave Machine mode. -/
def StaysMachine (s s' : State) : Prop := s.curPrivilege = .Machine → s'.curPrivilege = .Machine

instance : Std.Refl StaysMachine := ⟨fun _ h => h⟩

instance : IsTrans State StaysMachine := ⟨fun _ _ _ h h' hs => h' (h hs)⟩

/-- A step that leaves the privilege alone. -/
theorem staysMachine_of_eq {s s' : State} (h : s'.curPrivilege = s.curPrivilege) :
    StaysMachine s s' := fun hs => h.trans hs

instance : StepRel StaysMachine where
  devices _ _ := staysMachine_of_eq rfl
  store _ _ _ _ _ := staysMachine_of_eq rfl
  tlb _ _ _ := staysMachine_of_eq rfl
  x _ _ := staysMachine_of_eq rfl
  jump _ _ _ := staysMachine_of_eq rfl
  trap h := by
    intro hs
    rcases h with _ | ⟨-, hpriv, -⟩
    · rfl
    · exact absurd hs hpriv
  vec _ _ := staysMachine_of_eq rfl
  dirtyV _ := staysMachine_of_eq rfl
  fp _ _ _ := staysMachine_of_eq rfl
  dirtyFd _ _ := staysMachine_of_eq rfl
  after _ _ := staysMachine_of_eq rfl
  bits _ _ := staysMachine_of_eq rfl

instance keeps_staysMachine_zicsr (i : ZicsrInst) : Exec.Keeps StaysMachine i.execute :=
  keeps_zicsr (keeps_readCSR_of (R := StaysMachine) (fun _ => staysMachine_of_eq rfl) i.csr)
    (fun v => ⟨fun h =>
      staysMachine_of_eq ((csrWritten_writeCSR i.csr v).rel h).curPrivilege⟩)

/-- Only Machine mode reaches `mstatus`. -/
theorem checkCSR_mstatus {s : State} {p : Privilege} (hp : p ≠ .Machine) (isWrite : Bool) :
    ¬ checkCSR s 0x300#12 p isWrite = true := by
  have haccess : checkCSRAccess (0x300#12 |>.extractLsb' 10 2) (0x300#12 |>.extractLsb' 8 2) p
      isWrite = false := by
    cases p
    · cases isWrite <;> decide
    · cases isWrite <;> decide
    · exact absurd rfl hp
  unfold checkCSR
  rw [haccess]
  simp

/-- **CSR instructions keep `MPRV` clear outside Machine mode.**  In Machine mode they may set it,
but they do not leave this mode; elsewhere `mstatus` itself is refused. -/
instance keeps_mprv_zicsr (i : ZicsrInst) : Exec.Keeps MprvStep i.execute where
  rel {s r s'} hrun := by
    by_cases hmach : s.curPrivilege = .Machine
    · exact mprvStep_of_machine ((keeps_staysMachine_zicsr i).rel hrun hmach)
    by_cases hcsr : i.csr = 0x300#12
    · unfold ZicsrInst.execute at hrun
      rw [Exec.run_bind_of_ok (Exec.run_reads _ _), Exec.run_bind_of_ok (Exec.run_reads _ _),
        Exec.run_bind_of_ok (Exec.run_reads _ _), hcsr, if_neg (checkCSR_mstatus hmach _)] at hrun
      have hkeeps : Exec.Keeps MprvStep (do
          handleIllegal
          pure .RETIRE_FAIL : M Retired) := inferInstance
      exact hkeeps.rel hrun
    · have hkeeps : Exec.Keeps MprvStep i.execute :=
        keeps_zicsr (keeps_readCSR_of (R := MprvStep) (fun _ => mprvStep_of_eq rfl rfl) i.csr)
          (fun v => ⟨fun h => mprvStep_of_written hcsr ((csrWritten_writeCSR i.csr v).rel h)⟩)
      exact hkeeps.rel hrun

/-! ## Runs -/

section

variable [SoftFloat] {s s' : State}

/-- Every action keeps `MPRV` clear outside Machine mode. -/
theorem Action.mprvStep (h : Action s s') : MprvStep s s' := by
  cases h with
  | devices d => exact DeviceClosed.devices s d
  | store v h => exact BusClosed.store s _ _ v h
  | tlb h => exact TlbClosed.tlb s _ h
  | x v => exact CoreRel.x s v
  | jump h => exact CoreRel.jump s _ h
  | trap h => exact InstRel.trap h
  | vec p => exact InstRel.vec s p
  | dirtyV => exact InstRel.dirtyV s
  | fp f fcsr => exact InstRel.fp s f fcsr
  | dirtyFd => exact mprvStep_of_eq (mprv_fsDirtied _) rfl
  | reservation pa valid => exact ReservationClosed.reservation s pa valid
  | trace t => exact TraceClosed.trace s t
  | clock c => exact ClockClosed.clock s c
  | begin => exact mprvStep_of_eq rfl rfl
  | bits w => exact StepRel.bits s w
  | after n => exact StepRel.after s n
  | endStep r => exact mprvStep_of_eq rfl rfl
  | @system i _ _ hi hrun =>
      have heven : i.EvenOffset := by
        rcases hi with rfl | rfl | ⟨z, rfl⟩ <;> trivial
      have hkeeps : Exec.Keeps MprvStep i.execute :=
        Ast.keeps_of (fun _ => inferInstance) (fun _ => inferInstance) heven
          (fun _ => inferInstance) (fun _ => inferInstance) (fun z _ => keeps_mprv_zicsr z)
      exact hkeeps.rel hrun

/-- Sequences of actions keep it clear. -/
theorem mprvStep_of_actions (h : Actions s s') : MprvStep s s' := by
  induction h with
  | refl => exact Std.Refl.refl _
  | tail _ haction ih => exact IsTrans.trans _ _ _ ih haction.mprvStep

omit [SoftFloat] in
/-- `init_model` ends in Machine mode. -/
theorem curPrivilege_initModel {s₀ : State} (h : initModel.run s₀ = .ok ((), s)) :
    s.curPrivilege = .Machine := by
  unfold initModel initPlatform at h
  rw [Exec.run_bind_of_ok rfl] at h
  obtain ⟨_, s₁, hsys, hrest⟩ := Exec.run_bind_ok.mp h
  cases hrest
  unfold initSys at hsys
  rw [Exec.run_bind_of_ok rfl] at hsys
  by_cases hboth : (sysEnableFdext && sysEnableZfinx) = true
  · rw [hboth] at hsys
    cases hsys
  rw [if_neg hboth, Exec.run_bind_of_ok rfl] at hsys
  unfold initPmp at hsys
  obtain ⟨_, s₃, hcount, hpmp⟩ := Exec.run_bind_ok.mp hsys
  obtain ⟨-, rfl⟩ := run_assert_ok.mp hcount
  cases hpmp
  rfl

omit [SoftFloat] in
/-- Outside Machine mode no access runs at another privilege. -/
theorem MprvOff.effectivePrivilege (hs : MprvOff s) (hne : s.curPrivilege ≠ .Machine)
    (t : AccessType) :
    SailRiscv.effectivePrivilege t s.mstatus s.curPrivilege = .ok s.curPrivilege := by
  have hclear := hs hne
  unfold SailRiscv.effectivePrivilege
  rw [hclear, if_neg (fun h => by simp at h)]

/-- `MPRV` is clear outside Machine mode in every reachable state. -/
theorem mprvOff_of_trace {s₀ s₁ : State} {entry : Xlenbits}
    {path : List (State × Turn × State)} (hinit : initModel.run s₀ = .ok ((), s₁))
    (h : Trace Turns { s₁ with pc := entry } path s) : MprvOff s :=
  h.invariant (fun hne => absurd (curPrivilege_initModel hinit) hne)
    (fun _ hs hturn => mprvStep_of_actions (Turns.actions hturn) hs)

end

/-- Whether the check refuses a store. -/
def refusesStore (s : State) (p : Privilege) (a : ℕ) : Bool :=
  match physAccessCheck s .Write p (BitVec.ofNat xlen a) 1 with
  | .ok none => false
  | _ => true

theorem refusesStore_eq_true {s : State} {p : Privilege} {a : ℕ} :
    refusesStore s p a = true ↔ physAccessCheck s .Write p (BitVec.ofNat xlen a) 1 ≠ .ok none := by
  unfold refusesStore
  split
  · next h => simp [h]
  · next h => simpa using h

end SailRiscv
