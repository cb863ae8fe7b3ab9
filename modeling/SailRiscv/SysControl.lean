/-
# Traps, interrupts and returns from traps

The control flow between the privileges (`riscv_sys_control.sail` and
`riscv_sys_exceptions.sail`): which privilege handles an exception, which interrupt is
taken, what the entry to a trap and the return from one do, and the reset of the
privileged state.
-/
import SailRiscv.Pmp

namespace SailRiscv

open Bits Platform

variable [Platform]

/-! ## Delegation -/

/-- `exception_delegatee`. -/
def exceptionDelegatee (s : State) (e : ExceptionType) (p : Privilege) : Privilege :=
  let super := s.medeleg.getLsbD (numOfExceptionType e)
  let deleg := if extensionEnabled s .S && super then Privilege.Supervisor else .Machine
  -- no transition to a less privileged mode
  if privLevelToBits deleg < privLevelToBits p then p else deleg

/-! ## Interrupts -/

/-- `findPendingInterrupt`. -/
def findPendingInterrupt (ip : Xlenbits) : Option InterruptType :=
  if Minterrupts.MEI.get ip = 1#1 then some .I_M_External
  else if Minterrupts.MSI.get ip = 1#1 then some .I_M_Software
  else if Minterrupts.MTI.get ip = 1#1 then some .I_M_Timer
  else if Minterrupts.SEI.get ip = 1#1 then some .I_S_External
  else if Minterrupts.SSI.get ip = 1#1 then some .I_S_Software
  else if Minterrupts.STI.get ip = 1#1 then some .I_S_Timer
  else none

/-- `interrupt_set`. -/
inductive InterruptSet where
  | Ints_Pending (p : Xlenbits)
  | Ints_Delegated (d : Xlenbits)
  | Ints_Empty

/-- `processPending`. -/
def processPending (xip xie xideleg : Xlenbits) (privEnabled : Bool) : InterruptSet :=
  let effectivePend := xip &&& xie &&& ~~~xideleg
  let effectiveDelg := xip &&& xideleg
  if privEnabled && (effectivePend != 0#_) then .Ints_Pending effectivePend
  else if effectiveDelg != 0#_ then .Ints_Delegated effectiveDelg
  else .Ints_Empty

/-- `getPendingSet`. -/
def getPendingSet (s : State) (priv : Privilege) :
    Except ModelError (Option (Xlenbits × Privilege)) :=
  if s.mip &&& s.mie = 0#_ then .ok none
  else
    let mIE := priv != .Machine || (priv == .Machine && Mstatus.MIE.get s.mstatus == 1#1)
    let sIE := extensionEnabled s .S
      && (priv == .User || (priv == .Supervisor && Mstatus.SIE.get s.mstatus == 1#1))
    match processPending s.mip s.mie s.mideleg mIE with
    | .Ints_Empty => .ok none
    | .Ints_Pending p => .ok (some (p, .Machine))
    | .Ints_Delegated d =>
        if !extensionEnabled s .S then .error (.internalError "N extension not supported")
        else match processPending d s.mie 0#_ sIE with
          | .Ints_Empty => .ok none
          | .Ints_Pending p => .ok (some (p, .Supervisor))
          | .Ints_Delegated _ => .error (.internalError "N extension not supported")

/-- `dispatchInterrupt`. -/
def dispatchInterrupt (s : State) (priv : Privilege) :
    Except ModelError (Option (InterruptType × Privilege)) := do
  match ← getPendingSet s priv with
  | none => pure none
  | some (ip, p) => pure ((findPendingInterrupt ip).map (fun i => (i, p)))

/-! ## Trap entry -/

/-- `prepare_trap_vector`. -/
def prepareTrapVector (s : State) (p : Privilege) (cause : Xlenbits) :
    Except ModelError Xlenbits := do
  let tvec ← match p with
    | .Machine => pure s.mtvec
    | .Supervisor => pure s.stvec
    | .User => .error (.internalError "Invalid privilege level")
  match tvecAddr tvec cause with
  | some epc => pure epc
  | none => .error (.internalError "Invalid tvec mode")

/-- `tval`. -/
def tval (excinfo : Option Xlenbits) : Xlenbits := excinfo.getD 0#_

/-- The cause register after a trap. -/
def trapCause (cause : Xlenbits) (intr : Bool) (c : BitVec 8) : Xlenbits :=
  Mcause.Cause.set (Mcause.IsInterrupt.set cause (boolToBits intr)) (c.setWidth _)

/-- `mstatus` after a trap to M-mode. -/
def mstatusTrapM (m : Xlenbits) (p : Privilege) : Xlenbits :=
  let m := Mstatus.MPIE.set m (Mstatus.MIE.get m)
  let m := Mstatus.MIE.set m 0#1
  Mstatus.MPP.set m (privLevelToBits p)

/-- `mstatus` after a trap to S-mode. -/
def mstatusTrapS (m : Xlenbits) (spp : BitVec 1) : Xlenbits :=
  let m := Mstatus.SPIE.set m (Mstatus.SIE.get m)
  let m := Mstatus.SIE.set m 0#1
  Mstatus.SPP.set m spp

/-- `trap_handler`. -/
def trapHandler (delPriv : Privilege) (intr : Bool) (c : BitVec 8) (pc : Xlenbits)
    (info : Option Xlenbits) : M Xlenbits :=
  match delPriv with
  | .Machine => do
      Exec.update (fun s => { s with
        mcause := trapCause s.mcause intr c
        mstatus := mstatusTrapM s.mstatus s.curPrivilege
        mtval := tval info
        mepc := pc
        curPrivilege := .Machine })
      Exec.checks (fun s => prepareTrapVector s .Machine s.mcause)
  | .Supervisor => do
      assert (← Exec.reads (fun s => extensionEnabled s .S))
        "no supervisor mode present for delegation"
      let spp ← match ← Exec.reads State.curPrivilege with
        | .User => pure 0#1
        | .Supervisor => pure 1#1
        | .Machine => internalError "invalid privilege for s-mode trap"
      Exec.update (fun s => { s with
        scause := trapCause s.scause intr c
        mstatus := mstatusTrapS s.mstatus spp
        stval := tval info
        sepc := pc
        curPrivilege := .Supervisor })
      Exec.checks (fun s => prepareTrapVector s .Supervisor s.scause)
  | .User => internalError "Invalid privilege level"

/-! ## Returns and exceptions -/

/-- `sync_exception`. -/
structure SyncException where
  trap : ExceptionType
  excinfo : Option Xlenbits

/-- `ctl_result`. -/
inductive CtlResult where
  | CTL_TRAP (e : SyncException)
  | CTL_SRET
  | CTL_MRET

/-- `mstatus` after `MRET` to the privilege `p`, which it had in `MPP`. -/
def mstatusMret (m : Xlenbits) (p lowest : Privilege) : Xlenbits :=
  let m := Mstatus.MIE.set m (Mstatus.MPIE.get m)
  let m := Mstatus.MPIE.set m 1#1
  let m := Mstatus.MPP.set m (privLevelToBits lowest)
  if p ≠ .Machine then Mstatus.MPRV.set m 0#1 else m

/-- The privilege to which `SRET` returns. -/
def sretPrivilege (m : Xlenbits) : Privilege :=
  if Mstatus.SPP.get m = 1#1 then .Supervisor else .User

/-- `mstatus` after `SRET` to the privilege `p`. -/
def mstatusSret (m : Xlenbits) (p : Privilege) : Xlenbits :=
  let m := Mstatus.SIE.set m (Mstatus.SPIE.get m)
  let m := Mstatus.SPIE.set m 1#1
  let m := Mstatus.SPP.set m 0#1
  if p ≠ .Machine then Mstatus.MPRV.set m 0#1 else m

/-- `exception_handler`. -/
def exceptionHandler (curPriv : Privilege) (ctl : CtlResult) (pc : Xlenbits) : M Xlenbits :=
  match ctl with
  | .CTL_TRAP e => do
      let delPriv ← Exec.reads (fun s => exceptionDelegatee s e.trap curPriv)
      trapHandler delPriv false (exceptionTypeToBits e.trap) pc e.excinfo
  | .CTL_MRET => do
      let prev ← Exec.checks (fun s => privLevelOfBits (Mstatus.MPP.get s.mstatus))
      Exec.update (fun s => { s with
        mstatus := mstatusMret s.mstatus prev (lowestSupportedPrivLevel s)
        curPrivilege := prev })
      Exec.reads (fun s => s.mepc &&& pcAlignmentMask s)
  | .CTL_SRET => do
      Exec.update (fun s => { s with
        mstatus := mstatusSret s.mstatus (sretPrivilege s.mstatus)
        curPrivilege := sretPrivilege s.mstatus })
      Exec.reads (fun s => s.sepc &&& pcAlignmentMask s)

/-- Take the synchronous exception `e` at the current instruction. -/
def handleSync (e : SyncException) : M Unit := do
  let target ← exceptionHandler (← Exec.reads State.curPrivilege) (.CTL_TRAP e)
    (← Exec.reads State.pc)
  setNextPc target

/-- `handle_mem_exception`. -/
def handleMemException (addr : Xlenbits) (e : ExceptionType) : M Unit := handleSync ⟨e, some addr⟩

/-- `handle_exception`. -/
def handleException (e : ExceptionType) : M Unit := handleSync ⟨e, none⟩

/-- `handle_interrupt`. -/
def handleInterrupt (i : InterruptType) (delPriv : Privilege) : M Unit := do
  let target ← trapHandler delPriv true (interruptTypeToBits i) (← Exec.reads State.pc) none
  setNextPc target

/-- `handle_illegal`. -/
def handleIllegal : M Unit := do
  let info ← if platMtvalHasIllegalInstBits
    then Exec.reads (fun s => some s.instbits) else pure none
  handleSync ⟨.E_Illegal_Instr, info⟩

/-! ## Reset -/

/-- `misa` after a reset. -/
def initMisa (m : Xlenbits) : Xlenbits :=
  let m := Misa.MXL.set m (archToBits (if xlen = 32 then .RV32 else .RV64))
  let m := Misa.A.set m 1#1
  let m := Misa.C.set m (boolToBits sysEnableRvc)
  let m := Misa.B.set m (boolToBits sysEnableBext)
  let m := Misa.I.set m 1#1
  let m := Misa.M.set m 1#1
  let m := Misa.U.set m 1#1
  let m := Misa.S.set m 1#1
  let m := Misa.V.set m (boolToBits sysEnableVext)
  let m := Misa.F.set m (boolToBits sysEnableFdext)
  Misa.D.set m (if 64 ≤ flen then boolToBits sysEnableFdext else 0#1)

/-- `mstatus` after a reset, when `misa` has been reset. -/
def initMstatus (m misa : Xlenbits) (lowest : Privilege) : Xlenbits :=
  let m := setMstatusSXL m (Misa.MXL.get misa)
  let m := setMstatusUXL m (Misa.MXL.get misa)
  let m := Mstatus.SD.set m 0#1
  let m := Mstatus.MPP.set m (privLevelToBits lowest)
  -- little-endian mode
  if xlen = 64 then setRange m 36 (0b00#2) else m

/-- `vtype` after a reset. -/
def initVtype (v : Xlenbits) : Xlenbits :=
  let v := Vtype.vill.set v 1#1
  let v := Vtype.reserved.set v 0#_
  let v := Vtype.vma.set v 0#1
  let v := Vtype.vta.set v 0#1
  let v := Vtype.vsew.set v 0b000#3
  Vtype.vlmul.set v 0b000#3

/-- `init_sys`. -/
def initSys : M Unit := do
  Exec.update (fun s => { s with
    curPrivilege := .Machine
    mhartid := 0#_
    mconfigptr := 0#_
    misa := initMisa s.misa })
  if sysEnableFdext && sysEnableZfinx then internalError "F and Zfinx cannot both be enabled!"
  else pure ()
  Exec.update (fun s => { s with
    mstatus := initMstatus s.mstatus s.misa (lowestSupportedPrivLevel s)
    mstatush := 0#_
    mip := 0#_
    mie := 0#_
    mideleg := 0#_
    medeleg := 0#_
    mtvec := 0#_
    mcause := 0#_
    mepc := 0#_
    mtval := 0#_
    mscratch := 0#_
    mcycle := 0#_
    mtime := 0#_
    mcounteren := 0#_
    minstret := 0#_
    minstretIncrement := true
    menvcfg := 0#_
    senvcfg := 0#_
    vstart := 0#_
    vl := 0#_
    vcsr := Vcsr.vxsat.set (Vcsr.vxrm.set s.vcsr 0b00#2) 0#1
    vtype := initVtype s.vtype })
  initPmp

end SailRiscv
