/-
# Control and status registers

The three scattered functions `is_CSR_defined`, `read_CSR` and `write_CSR`, whose
clauses are spread over the source, and the access control of `check_CSR`
(`riscv_sys_control.sail`).  `writeCSR` returns the value the source prints.
-/
import SailRiscv.Pmp

namespace SailRiscv

open Bits Platform

variable [Platform]

omit [Platform] in
instance lawfulBEq_csr : LawfulBEq (BitVec 12) := inferInstance

/-! ## Indexed registers -/

/-- The number of the PMP configuration register at `csr`. -/
def pmpcfgIdx (csr : BitVec 12) : Option (Fin 16) :=
  if csr.extractLsb' 4 8 = 0x3A#8 then some (csr.extractLsb' 0 4).toFin else none

/-- The number of the PMP address register at `csr`: the four blocks `0x3B0`, `0x3C0`,
`0x3D0` and `0x3E0` follow one another. -/
def pmpaddrIdx (csr : BitVec 12) : Option (Fin 64) :=
  if csr.extractLsb' 4 8 = 0x3B#8 then some ((0b00#2 ++ csr.extractLsb' 0 4 : BitVec 6).toFin)
  else if csr.extractLsb' 4 8 = 0x3C#8 then
    some ((0b01#2 ++ csr.extractLsb' 0 4 : BitVec 6).toFin)
  else if csr.extractLsb' 4 8 = 0x3D#8 then
    some ((0b10#2 ++ csr.extractLsb' 0 4 : BitVec 6).toFin)
  else if csr.extractLsb' 4 8 = 0x3E#8 then
    some ((0b11#2 ++ csr.extractLsb' 0 4 : BitVec 6).toFin)
  else none

/-- The index of the performance-monitoring register at `csr` in the block of 32 whose
upper seven bits are `block`; the lowest three of a block are other registers. -/
def hpmIdx (block : BitVec 7) (csr : BitVec 12) : Option (Fin 32) :=
  if csr.extractLsb' 5 7 = block ∧ 3 ≤ (csr.extractLsb' 0 5).toNat
  then some (csr.extractLsb' 0 5).toFin else none

/-- Whether a PMP configuration register with this number exists at this `xlen`. -/
def pmpcfgEven (n : Fin 16) : Bool := n.val % 2 == 0 || decide (xlen = 32)

/-! ## Which registers are defined -/

/-- `is_CSR_defined`. -/
def isCSRDefined (s : State) (csr : BitVec 12) : Bool :=
  -- machine mode
  if csr = 0x301#12 ∨ csr = 0x300#12 then true
  else if csr = 0x310#12 then decide (xlen = 32)
  else if csr = 0x304#12 ∨ csr = 0x344#12 then true
  else if csr = 0x302#12 ∨ csr = 0x303#12 then extensionEnabled s .S
  else if csr = 0x342#12 ∨ csr = 0x343#12 ∨ csr = 0x340#12 then true
  else if csr = 0x106#12 then extensionEnabled s .S
  else if csr = 0x306#12 then extensionEnabled s .U
  else if csr = 0x320#12 then true
  else if csr = 0xF11#12 ∨ csr = 0xF12#12 ∨ csr = 0xF13#12 ∨ csr = 0xF14#12 ∨ csr = 0xF15#12
    then true
  -- supervisor mode
  else if csr = 0x100#12 ∨ csr = 0x144#12 ∨ csr = 0x104#12 ∨ csr = 0x140#12 ∨ csr = 0x142#12
    ∨ csr = 0x143#12 then extensionEnabled s .S
  else if csr = 0x7a0#12 then true
  else if csr = 0x30A#12 then extensionEnabled s .U
  else if csr = 0x31A#12 then extensionEnabled s .U && decide (xlen = 32)
  else if csr = 0x10A#12 then extensionEnabled s .S
  -- physical memory protection
  else if let some n := pmpcfgIdx csr then decide (n.val < sysPmpCount) && pmpcfgEven n
  else if let some n := pmpaddrIdx csr then decide (n.val < sysPmpCount)
  -- vectors
  else if csr = 0x008#12 ∨ csr = 0x009#12 ∨ csr = 0x00A#12 ∨ csr = 0x00F#12 ∨ csr = 0xC20#12
    ∨ csr = 0xC21#12 ∨ csr = 0xC22#12 then true
  -- trap vectors and exception program counters
  else if csr = 0x105#12 ∨ csr = 0x141#12 then extensionEnabled s .S
  else if csr = 0x305#12 ∨ csr = 0x341#12 then true
  -- performance monitoring
  else if (hpmIdx 0b0011001#7 csr).isSome then extensionEnabled s .Zihpm
  else if (hpmIdx 0b1011000#7 csr).isSome then extensionEnabled s .Zihpm
  else if (hpmIdx 0b1011100#7 csr).isSome then
    extensionEnabled s .Zihpm && decide (xlen = 32)
  else if (hpmIdx 0b1100000#7 csr).isSome then
    extensionEnabled s .Zihpm && extensionEnabled s .U
  else if (hpmIdx 0b1100100#7 csr).isSome then
    extensionEnabled s .Zihpm && extensionEnabled s .U && decide (xlen = 32)
  -- entropy source
  else if csr = 0x015#12 then extensionEnabled s .Zkr
  -- counters
  else if csr = 0xC00#12 ∨ csr = 0xC01#12 ∨ csr = 0xC02#12 then extensionEnabled s .U
  else if csr = 0xC80#12 ∨ csr = 0xC81#12 ∨ csr = 0xC82#12 then
    extensionEnabled s .U && decide (xlen = 32)
  else if csr = 0xB00#12 ∨ csr = 0xB02#12 then true
  else if csr = 0xB80#12 ∨ csr = 0xB82#12 then decide (xlen = 32)
  -- floating point
  else if csr = 0x001#12 ∨ csr = 0x002#12 ∨ csr = 0x003#12 then
    extensionEnabled s .F || extensionEnabled s .Zfinx
  -- address translation
  else if csr = 0x180#12 then extensionEnabled s .S
  else false

/-! ## Reading -/

/-- `read_seed_csr`: sixteen random bits under the status `ES16`. -/
def readSeedCsr : M Xlenbits := do
  let seed ← Exec.reads (fun s => s.entropy 0)
  Exec.update (fun s => { s with entropy := fun n => s.entropy (n + 1) })
  pure ((0b10#2 ++ 0b000000#6 ++ 0x00#8 ++ seed).setWidth xlen)

/-- `read_mhpmcounter`. -/
def readMhpmcounter (s : State) (i : Fin 32) : Xlenbits := (s.mhpmcounter i).setWidth xlen

/-- `read_mhpmcounterh`. -/
def readMhpmcounterh (s : State) (i : Fin 32) : Xlenbits :=
  ((s.mhpmcounter i).extractLsb' 32 32).setWidth xlen

/-- The upper half of a 64-bit register, for the registers that only RV32 has. -/
def upperHalf (v : BitVec 64) : Xlenbits := (v.extractLsb' 32 32).setWidth xlen

/-- `read_CSR`. -/
def readCSR (csr : BitVec 12) : M Xlenbits :=
  if csr = 0x301#12 then Exec.reads State.misa
  else if csr = 0x300#12 then Exec.reads State.mstatus
  else if csr = 0x310#12 ∧ xlen = 32 then Exec.reads (fun s => s.mstatush.setWidth xlen)
  else if csr = 0x304#12 then Exec.reads State.mie
  else if csr = 0x344#12 then Exec.reads State.mip
  else if csr = 0x302#12 then Exec.reads State.medeleg
  else if csr = 0x303#12 then Exec.reads State.mideleg
  else if csr = 0x342#12 then Exec.reads State.mcause
  else if csr = 0x343#12 then Exec.reads State.mtval
  else if csr = 0x340#12 then Exec.reads State.mscratch
  else if csr = 0x106#12 then Exec.reads (fun s => s.scounteren.setWidth xlen)
  else if csr = 0x306#12 then Exec.reads (fun s => s.mcounteren.setWidth xlen)
  else if csr = 0x320#12 then Exec.reads (fun s => s.mcountinhibit.setWidth xlen)
  else if csr = 0xF11#12 then Exec.reads (fun s => s.mvendorid.setWidth xlen)
  else if csr = 0xF12#12 then Exec.reads State.marchid
  else if csr = 0xF13#12 then Exec.reads State.mimpid
  else if csr = 0xF14#12 then Exec.reads State.mhartid
  else if csr = 0xF15#12 then Exec.reads State.mconfigptr
  else if csr = 0x100#12 then Exec.reads (fun s => lowerMstatus s.mstatus)
  else if csr = 0x144#12 then Exec.reads (fun s => lowerMip s.mip s.mideleg)
  else if csr = 0x104#12 then Exec.reads (fun s => lowerMie s.mie s.mideleg)
  else if csr = 0x140#12 then Exec.reads State.sscratch
  else if csr = 0x142#12 then Exec.reads State.scause
  else if csr = 0x143#12 then Exec.reads State.stval
  else if csr = 0x7a0#12 then Exec.reads (fun s => ~~~s.tselect)
  else if csr = 0x30A#12 then Exec.reads (fun s => s.menvcfg.setWidth xlen)
  else if csr = 0x31A#12 ∧ xlen = 32 then Exec.reads (fun s => upperHalf s.menvcfg)
  else if csr = 0x10A#12 then Exec.reads State.senvcfg
  else if (pmpcfgIdx csr).any pmpcfgEven then
    Exec.checks (fun s => pmpReadCfgReg s ((pmpcfgIdx csr).getD 0))
  else if (pmpaddrIdx csr).isSome then
    Exec.reads (fun s => pmpReadAddrReg s ((pmpaddrIdx csr).getD 0))
  else if csr = 0x008#12 then Exec.reads (fun s => s.vstart.setWidth xlen)
  else if csr = 0x009#12 then Exec.reads (fun s => (Vcsr.vxsat.get s.vcsr).setWidth xlen)
  else if csr = 0x00A#12 then Exec.reads (fun s => (Vcsr.vxrm.get s.vcsr).setWidth xlen)
  else if csr = 0x00F#12 then Exec.reads (fun s => s.vcsr.setWidth xlen)
  else if csr = 0xC20#12 then Exec.reads State.vl
  else if csr = 0xC21#12 then Exec.reads State.vtype
  else if csr = 0xC22#12 then pure getVlenb
  else if csr = 0x105#12 then Exec.reads State.stvec
  else if csr = 0x141#12 then Exec.reads (fun s => s.sepc &&& pcAlignmentMask s)
  else if csr = 0x305#12 then Exec.reads State.mtvec
  else if csr = 0x341#12 then Exec.reads (fun s => s.mepc &&& pcAlignmentMask s)
  else if (hpmIdx 0b0011001#7 csr).isSome then
    Exec.reads (fun s => s.mhpmevent ((hpmIdx 0b0011001#7 csr).getD 3))
  else if (hpmIdx 0b1011000#7 csr).isSome then
    Exec.reads (fun s => readMhpmcounter s ((hpmIdx 0b1011000#7 csr).getD 3))
  else if (hpmIdx 0b1011100#7 csr).isSome ∧ xlen = 32 then
    Exec.reads (fun s => readMhpmcounterh s ((hpmIdx 0b1011100#7 csr).getD 3))
  else if (hpmIdx 0b1100000#7 csr).isSome then
    Exec.reads (fun s => readMhpmcounter s ((hpmIdx 0b1100000#7 csr).getD 3))
  else if (hpmIdx 0b1100100#7 csr).isSome ∧ xlen = 32 then
    Exec.reads (fun s => readMhpmcounterh s ((hpmIdx 0b1100100#7 csr).getD 3))
  else if csr = 0x015#12 then readSeedCsr
  else if csr = 0xC00#12 then Exec.reads (fun s => s.mcycle.setWidth xlen)
  else if csr = 0xC01#12 then Exec.reads (fun s => s.mtime.setWidth xlen)
  else if csr = 0xC02#12 then Exec.reads (fun s => s.minstret.setWidth xlen)
  else if csr = 0xC80#12 ∧ xlen = 32 then Exec.reads (fun s => upperHalf s.mcycle)
  else if csr = 0xC81#12 ∧ xlen = 32 then Exec.reads (fun s => upperHalf s.mtime)
  else if csr = 0xC82#12 ∧ xlen = 32 then Exec.reads (fun s => upperHalf s.minstret)
  else if csr = 0xB00#12 then Exec.reads (fun s => s.mcycle.setWidth xlen)
  else if csr = 0xB02#12 then Exec.reads (fun s => s.minstret.setWidth xlen)
  else if csr = 0xB80#12 ∧ xlen = 32 then Exec.reads (fun s => upperHalf s.mcycle)
  else if csr = 0xB82#12 ∧ xlen = 32 then Exec.reads (fun s => upperHalf s.minstret)
  else if csr = 0x001#12 then Exec.reads (fun s => (Fcsr.FFLAGS.get s.fcsr).setWidth xlen)
  else if csr = 0x002#12 then Exec.reads (fun s => (Fcsr.FRM.get s.fcsr).setWidth xlen)
  else if csr = 0x003#12 then Exec.reads (fun s => s.fcsr.setWidth xlen)
  else if csr = 0x180#12 then Exec.reads State.satp
  else internalError "Read from CSR that does not exist"

/-! ## Writing -/

/-- Write a register and return its new value. -/
def writeReg (write : State → State) (read : State → Xlenbits) : M Xlenbits := do
  Exec.update write
  Exec.reads read

/-- `set_xret_target`. -/
def setXretTarget (p : Privilege) (value : Xlenbits) : M Xlenbits := do
  let target ← Exec.reads (fun s => legalizeXepc s value)
  match p with
  | .Machine => Exec.update (fun s => { s with mepc := target })
  | .Supervisor => Exec.update (fun s => { s with sepc := target })
  | .User => internalError "Invalid privilege level"
  pure target

/-- Whether the performance-monitoring counter `i` can be written. -/
def hpmWritable (i : Fin 32) : Bool := sysWritableHpmCounters.getLsbD i.val

/-- `write_mhpmcounter`, on the range of the counter that starts at bit `lo`. -/
def writeMhpmcounterAt {n : ℕ} (i : Fin 32) (lo : ℕ) (value : BitVec n) (s : State) : State :=
  if hpmWritable i then
    { s with mhpmcounter :=
        Function.update s.mhpmcounter i (setRange (s.mhpmcounter i) lo value) }
  else s

/-- `write_mhpmevent`. -/
def writeMhpmevent (i : Fin 32) (value : Xlenbits) (s : State) : State :=
  if hpmWritable i then { s with mhpmevent := Function.update s.mhpmevent i value } else s

/-- The write of `satp`, which is legalised for the current architecture. -/
def writeSatp (value : Xlenbits) : M Xlenbits := do
  let arch ← Exec.checks curArchitecture
  Exec.update (fun s => { s with satp := legalizeSatp arch s.satp value })
  Exec.reads State.satp

/-- `write_CSR`. -/
def writeCSR (csr : BitVec 12) (value : Xlenbits) : M Xlenbits :=
  if csr = 0x301#12 then
    writeReg (fun s => { s with misa := legalizeMisa s s.misa value }) State.misa
  else if csr = 0x300#12 then
    writeReg (fun s => { s with mstatus := legalizeMstatus s s.mstatus value }) State.mstatus
  else if csr = 0x310#12 ∧ xlen = 32 then Exec.reads (fun s => s.mstatush.setWidth xlen)
  else if csr = 0x304#12 then
    writeReg (fun s => { s with mie := legalizeMie s.mie value }) State.mie
  else if csr = 0x344#12 then
    writeReg (fun s => { s with mip := legalizeMip s.mip value }) State.mip
  else if csr = 0x302#12 then
    writeReg (fun s => { s with medeleg := legalizeMedeleg s.medeleg value }) State.medeleg
  else if csr = 0x303#12 then
    writeReg (fun s => { s with mideleg := legalizeMideleg s.mideleg value }) State.mideleg
  else if csr = 0x342#12 then writeReg (fun s => { s with mcause := value }) State.mcause
  else if csr = 0x343#12 then writeReg (fun s => { s with mtval := value }) State.mtval
  else if csr = 0x340#12 then writeReg (fun s => { s with mscratch := value }) State.mscratch
  else if csr = 0x106#12 then
    writeReg (fun s => { s with scounteren := legalizeScounteren value })
      (fun s => s.scounteren.setWidth xlen)
  else if csr = 0x306#12 then
    writeReg (fun s => { s with mcounteren := legalizeMcounteren value })
      (fun s => s.mcounteren.setWidth xlen)
  else if csr = 0x320#12 then
    writeReg (fun s => { s with mcountinhibit := legalizeMcountinhibit value })
      (fun s => s.mcountinhibit.setWidth xlen)
  else if csr = 0x100#12 then
    writeReg (fun s => { s with mstatus := legalizeSstatus s s.mstatus value }) State.mstatus
  else if csr = 0x144#12 then
    writeReg (fun s => { s with mip := legalizeSip s.mip s.mideleg value }) State.mip
  else if csr = 0x104#12 then
    writeReg (fun s => { s with mie := legalizeSie s.mie s.mideleg value }) State.mie
  else if csr = 0x140#12 then writeReg (fun s => { s with sscratch := value }) State.sscratch
  else if csr = 0x142#12 then writeReg (fun s => { s with scause := value }) State.scause
  else if csr = 0x143#12 then writeReg (fun s => { s with stval := value }) State.stval
  else if csr = 0x7a0#12 then writeReg (fun s => { s with tselect := value }) State.tselect
  else if csr = 0x30A#12 then
    -- on RV32 the upper half is written through `menvcfgh`
    writeReg (fun s => { s with menvcfg := legalizeMenvcfg s.menvcfg (setRange s.menvcfg 0 value) })
      (fun s => s.menvcfg.setWidth xlen)
  else if csr = 0x31A#12 ∧ xlen = 32 then
    writeReg (fun s => { s with menvcfg := legalizeMenvcfg s.menvcfg (setRange s.menvcfg 32 value) })
      (fun s => upperHalf s.menvcfg)
  else if csr = 0x10A#12 then
    writeReg (fun s => { s with senvcfg := legalizeSenvcfg s.senvcfg value }) State.senvcfg
  else if (pmpcfgIdx csr).any pmpcfgEven then do
    pmpWriteCfgReg ((pmpcfgIdx csr).getD 0) value
    Exec.checks (fun s => pmpReadCfgReg s ((pmpcfgIdx csr).getD 0))
  else if (pmpaddrIdx csr).isSome then do
    pmpWriteAddrReg ((pmpaddrIdx csr).getD 0) value
    Exec.reads (fun s => pmpReadAddrReg s ((pmpaddrIdx csr).getD 0))
  else if csr = 0x008#12 then
    writeReg (fun s => { s with vstart := value.setWidth 16 &&& lowOnes 16 sysVectorVlenExp })
      (fun s => s.vstart.setWidth xlen)
  else if csr = 0x009#12 then do
    let vxrm ← Exec.reads (fun s => Vcsr.vxrm.get s.vcsr)
    extWriteVcsr vxrm (value.extractLsb' 0 1)
    Exec.reads (fun s => (Vcsr.vxsat.get s.vcsr).setWidth xlen)
  else if csr = 0x00A#12 then do
    let vxsat ← Exec.reads (fun s => Vcsr.vxsat.get s.vcsr)
    extWriteVcsr (value.extractLsb' 0 2) vxsat
    Exec.reads (fun s => (Vcsr.vxrm.get s.vcsr).setWidth xlen)
  else if csr = 0x00F#12 then do
    extWriteVcsr (value.extractLsb' 1 2) (value.extractLsb' 0 1)
    Exec.reads (fun s => s.vcsr.setWidth xlen)
  else if csr = 0x105#12 then
    writeReg (fun s => { s with stvec := legalizeTvec s.stvec value }) State.stvec
  else if csr = 0x141#12 then setXretTarget .Supervisor value
  else if csr = 0x305#12 then
    writeReg (fun s => { s with mtvec := legalizeTvec s.mtvec value }) State.mtvec
  else if csr = 0x341#12 then setXretTarget .Machine value
  else if (hpmIdx 0b0011001#7 csr).isSome then
    writeReg (writeMhpmevent ((hpmIdx 0b0011001#7 csr).getD 3) value)
      (fun s => s.mhpmevent ((hpmIdx 0b0011001#7 csr).getD 3))
  else if (hpmIdx 0b1011000#7 csr).isSome then
    writeReg (writeMhpmcounterAt ((hpmIdx 0b1011000#7 csr).getD 3) 0 value)
      (fun s => readMhpmcounter s ((hpmIdx 0b1011000#7 csr).getD 3))
  else if (hpmIdx 0b1011100#7 csr).isSome ∧ xlen = 32 then
    writeReg (writeMhpmcounterAt ((hpmIdx 0b1011100#7 csr).getD 3) 32 value)
      (fun s => readMhpmcounterh s ((hpmIdx 0b1011100#7 csr).getD 3))
  else if csr = 0x015#12 then pure 0#_
  else if csr = 0xB00#12 then
    writeReg (fun s => { s with mcycle := setRange s.mcycle 0 value }) (fun _ => value)
  else if csr = 0xB02#12 then
    writeReg (fun s => { s with
      minstret := setRange s.minstret 0 value, minstretIncrement := false }) (fun _ => value)
  else if csr = 0xB80#12 ∧ xlen = 32 then
    writeReg (fun s => { s with mcycle := setRange s.mcycle 32 value }) (fun _ => value)
  else if csr = 0xB82#12 ∧ xlen = 32 then
    writeReg (fun s => { s with
      minstret := setRange s.minstret 32 value, minstretIncrement := false }) (fun _ => value)
  else if csr = 0x001#12 then do
    let frm ← Exec.reads (fun s => Fcsr.FRM.get s.fcsr)
    writeFcsr frm (value.extractLsb' 0 5)
    Exec.reads (fun s => (Fcsr.FFLAGS.get s.fcsr).setWidth xlen)
  else if csr = 0x002#12 then do
    let fflags ← Exec.reads (fun s => Fcsr.FFLAGS.get s.fcsr)
    writeFcsr (value.extractLsb' 0 3) fflags
    Exec.reads (fun s => (Fcsr.FRM.get s.fcsr).setWidth xlen)
  else if csr = 0x003#12 then do
    writeFcsr (value.extractLsb' 5 3) (value.extractLsb' 0 5)
    Exec.reads (fun s => s.fcsr.setWidth xlen)
  else if csr = 0x180#12 then writeSatp value
  else internalError "Write to CSR that does not exist"

/-! ## Access control -/

/-- `check_CSR_access`. -/
def checkCSRAccess (csrrw csrpr : BitVec 2) (p : Privilege) (isWrite : Bool) : Bool :=
  !(isWrite && csrrw == 0b11#2) && decide (csrpr ≤ privLevelToBits p)

/-- `check_TVM_SATP`. -/
def checkTVMSATP (s : State) (csr : BitVec 12) (p : Privilege) : Bool :=
  !(csr == 0x180#12 && p == .Supervisor && Mstatus.TVM.get s.mstatus == 1#1)

/-- `feature_enabled_for_priv`. -/
def featureEnabledForPriv (s : State) (p : Privilege) (machineEnable supervisorEnable : Bool) :
    Bool :=
  match p with
  | .Machine => true
  | .Supervisor => machineEnable
  | .User => machineEnable && (!extensionEnabled s .S || supervisorEnable)

/-- `check_Counteren`. -/
def checkCounteren (s : State) (csr : BitVec 12) (p : Privilege) : Bool :=
  if csr < 0xC00#12 ∨ 0xC1F#12 < csr then true
  else
    let index := (csr.extractLsb' 0 5).toNat
    featureEnabledForPriv s p (s.mcounteren.getLsbD index) (s.scounteren.getLsbD index)

/-- `check_seed_CSR`. -/
def checkSeedCSR (csr : BitVec 12) (p : Privilege) (isWrite : Bool) : Bool :=
  if csr ≠ 0x015#12 then true
  else if !isWrite then false
  else p == .Machine

/-- `check_CSR`. -/
def checkCSR (s : State) (csr : BitVec 12) (p : Privilege) (isWrite : Bool) : Bool :=
  isCSRDefined s csr
    && checkCSRAccess (csr.extractLsb' 10 2) (csr.extractLsb' 8 2) p isWrite
    && checkTVMSATP s csr p
    && checkCounteren s csr p
    && checkSeedCSR csr p isWrite

end SailRiscv
