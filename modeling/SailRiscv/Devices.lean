/-
# The platform devices

The memory map and the memory-mapped devices of `riscv_platform.sail`: the core-local
interruptor (CLINT) with its timer, and the host interface (HTIF).
-/
import SailRiscv.SysControl
import SailRiscv.Lib.Bytes

namespace SailRiscv

open Bits Platform

variable [Platform]

/-- The result of a memory access. -/
inductive MemoryOpResult (α : Type) where
  | MemValue (v : α)
  | MemException (e : ExceptionType)

/-! ## The memory map -/

/-- The bytes `[addr, addr + width)` lie in the segment at `base`, over unbounded
integers. -/
def withinSegment (base size addr : Xlenbits) (width : ℕ) : Bool :=
  decide (base.toNat ≤ addr.toNat ∧ addr.toNat + width ≤ base.toNat + size.toNat)

/-- `within_phys_mem`. -/
def withinPhysMem (addr : Xlenbits) (width : ℕ) : Bool :=
  withinSegment platRamBase platRamSize addr width
    || withinSegment platRomBase platRomSize addr width

/-- `within_clint`. -/
def withinClint (addr : Xlenbits) (width : ℕ) : Bool :=
  withinSegment platClintBase platClintSize addr width

/-- `within_htif_writable` and `within_htif_readable`, which have the same body. -/
def withinHtif (addr : Xlenbits) (width : ℕ) : Bool :=
  platHtifTohost == addr || (platHtifTohost + 4#_ == addr && width == 4)

/-- `within_mmio_readable`. -/
def withinMmioReadable (addr : Xlenbits) (width : ℕ) : Bool :=
  withinClint addr width || (withinHtif addr width && decide (1 ≤ width))

/-- `within_mmio_writable`. -/
def withinMmioWritable (addr : Xlenbits) (width : ℕ) : Bool :=
  withinClint addr width || (withinHtif addr width && decide (width ≤ 8))

/-- The access fault of a device for the access type `t`. -/
def deviceFault (t : AccessType) : ExceptionType :=
  match t with
  | .Execute => .E_Fetch_Access_Fault
  | .Read => .E_Load_Access_Fault
  | _ => .E_SAMO_Access_Fault

/-! ## The core-local interruptor -/

/-- `MSIP_BASE`. -/
def msipBase : Xlenbits := 0x00000#_
/-- `MTIMECMP_BASE`. -/
def mtimecmpBase : Xlenbits := 0x04000#_
/-- `MTIMECMP_BASE_HI`. -/
def mtimecmpBaseHi : Xlenbits := 0x04004#_
/-- `MTIME_BASE`. -/
def mtimeBase : Xlenbits := 0x0bff8#_
/-- `MTIME_BASE_HI`. -/
def mtimeBaseHi : Xlenbits := 0x0bffc#_

/-- `clint_load`. -/
def clintLoad (s : State) (t : AccessType) (addr : Xlenbits) (n : ℕ) :
    MemoryOpResult (BitVec (8 * n)) :=
  let addr := addr - platClintBase
  if addr = msipBase ∧ (n = 8 ∨ n = 4) then .MemValue ((Minterrupts.MSI.get s.mip).setWidth _)
  else if addr = mtimecmpBase ∧ n = 4 then .MemValue ((s.mtimecmp.extractLsb' 0 32).setWidth _)
  else if addr = mtimecmpBase ∧ n = 8 then .MemValue (s.mtimecmp.setWidth _)
  else if addr = mtimecmpBaseHi ∧ n = 4 then
    .MemValue ((s.mtimecmp.extractLsb' 32 32).setWidth _)
  else if addr = mtimeBase ∧ n = 4 then .MemValue ((s.mtime.extractLsb' 0 32).setWidth _)
  else if addr = mtimeBase ∧ n = 8 then .MemValue (s.mtime.setWidth _)
  else if addr = mtimeBaseHi ∧ n = 4 then .MemValue ((s.mtime.extractLsb' 32 32).setWidth _)
  else .MemException (deviceFault t)

/-- `clint_dispatch`. -/
def clintDispatch : M Unit :=
  Exec.update (fun s => { s with
    mip := Minterrupts.MTI.set s.mip (boolToBits (decide (s.mtimecmp ≤ s.mtime))) })

/-- `clint_store`. -/
def clintStore (addr : Xlenbits) (n : ℕ) (data : BitVec (8 * n)) : M (MemoryOpResult Bool) :=
  let addr := addr - platClintBase
  let stored (f : State → State) : M (MemoryOpResult Bool) := do
    Exec.update f
    clintDispatch
    pure (.MemValue true)
  if addr = msipBase ∧ (n = 8 ∨ n = 4) then
    stored (fun s => { s with mip := Minterrupts.MSI.set s.mip (data.extractLsb' 0 1) })
  else if addr = mtimecmpBase ∧ n = 8 then
    stored (fun s => { s with mtimecmp := data.setWidth 64 })
  else if addr = mtimecmpBase ∧ n = 4 then
    stored (fun s => { s with mtimecmp := setRange s.mtimecmp 0 (data.setWidth 32) })
  else if addr = mtimecmpBaseHi ∧ n = 4 then
    stored (fun s => { s with mtimecmp := setRange s.mtimecmp 32 (data.setWidth 32) })
  else if addr = mtimeBase ∧ n = 8 then
    stored (fun s => { s with mtime := data.setWidth 64 })
  else if addr = mtimeBase ∧ n = 4 then
    stored (fun s => { s with mtime := setRange s.mtime 0 (data.setWidth 32) })
  else if addr = mtimeBaseHi ∧ n = 4 then
    stored (fun s => { s with mtime := setRange s.mtime 32 (data.setWidth 32) })
  else pure (.MemException .E_SAMO_Access_Fault)

/-- `tick_clock`. -/
def tickClock : M Unit := do
  Exec.update (fun s => { s with
    mcycle := if Counteren.CY.get s.mcountinhibit = 0#1 then s.mcycle + 1#64 else s.mcycle
    mtime := s.mtime + 1#64 })
  clintDispatch

/-! ## The host interface -/

namespace HtifCmd
@[reducible] def device : Field := ⟨56, 8⟩
@[reducible] def cmd : Field := ⟨48, 8⟩
@[reducible] def payload : Field := ⟨0, 48⟩
end HtifCmd

/-- `reset_htif`. -/
def resetHtif (s : State) : State :=
  { s with htifCmdWrite := false, htifPayloadWrites := 0x0#4, htifTohost := 0#64 }

/-- `htif_load`. -/
def htifLoad (s : State) (t : AccessType) (paddr : Xlenbits) (n : ℕ) :
    MemoryOpResult (BitVec (8 * n)) :=
  if n = 8 ∧ paddr = platHtifTohost then .MemValue (s.htifTohost.setWidth _)
  else if n = 4 ∧ paddr = platHtifTohost then
    .MemValue ((s.htifTohost.extractLsb' 0 32).setWidth _)
  else if n = 4 ∧ paddr = platHtifTohost + 4#_ then
    .MemValue ((s.htifTohost.extractLsb' 32 32).setWidth _)
  else .MemException (deviceFault t)

/-- The first half of `htif_store`: what a store does to the port. -/
def htifWritePort (paddr : Xlenbits) (n : ℕ) (data : BitVec (8 * n)) (s : State) : State :=
  if n = 8 then
    { s with
      htifCmdWrite := true
      htifPayloadWrites := s.htifPayloadWrites + 1#4
      htifTohost := data.setWidth 64 }
  else if n = 4 ∧ paddr = platHtifTohost then
    { s with
      htifPayloadWrites := if data.setWidth 32 = s.htifTohost.extractLsb' 0 32
        then s.htifPayloadWrites + 1#4 else 0x1#4
      htifTohost := setRange s.htifTohost 0 (data.setWidth 32) }
  else if n = 4 ∧ paddr = platHtifTohost + 4#_ then
    { s with
      htifPayloadWrites := if data.extractLsb' 0 16 = s.htifTohost.extractLsb' 32 16
        then s.htifPayloadWrites + 1#4 else 0x1#4
      htifCmdWrite := true
      htifTohost := setRange s.htifTohost 32 (data.setWidth 32) }
  -- unaligned command writes are not detected
  else { s with htifTohost := data.setWidth 64 }

/-- Whether the port holds a complete command, or its payload was written repeatedly. -/
def htifReady (s : State) : Bool :=
  (s.htifCmdWrite && decide (0 < s.htifPayloadWrites.toNat))
    || decide (2 < s.htifPayloadWrites.toNat)

/-- The second half of `htif_store`: what a command does. -/
def htifExecute (s : State) : State :=
  let cmd := s.htifTohost
  if HtifCmd.device.get cmd = 0x00#8 then
    -- the syscall proxy
    if (HtifCmd.payload.get cmd).getLsbD 0 then
      { s with
        htifDone := true
        htifExitCode := (HtifCmd.payload.get cmd).setWidth 64 >>> 1 }
    else s
  else if HtifCmd.device.get cmd = 0x01#8 then
    -- the terminal
    if HtifCmd.cmd.get cmd = 0x01#8 then
      resetHtif { s with
        termOutput := s.termOutput ++ [(HtifCmd.payload.get cmd).extractLsb' 0 8] }
    else resetHtif s
  else s

/-- `htif_store`. -/
def htifStore (paddr : Xlenbits) (n : ℕ) (data : BitVec (8 * n)) : M (MemoryOpResult Bool) := do
  Exec.update (htifWritePort paddr n data)
  Exec.update (fun s => if htifReady s then htifExecute s else s)
  pure (.MemValue true)

/-! ## Dispatch, ticks and waiting -/

/-- `mmio_read`. -/
def mmioRead (s : State) (t : AccessType) (paddr : Xlenbits) (n : ℕ) :
    MemoryOpResult (BitVec (8 * n)) :=
  if withinClint paddr n then clintLoad s t paddr n
  else if withinHtif paddr n && decide (1 ≤ n) then htifLoad s t paddr n
  else .MemException (deviceFault t)

/-- `mmio_write`. -/
def mmioWrite (paddr : Xlenbits) (n : ℕ) (data : BitVec (8 * n)) : M (MemoryOpResult Bool) :=
  if withinClint paddr n then clintStore paddr n data
  else if withinHtif paddr n && decide (n ≤ 8) then htifStore paddr n data
  else pure (.MemException .E_SAMO_Access_Fault)

/-- `init_platform`. -/
def initPlatform : M Unit :=
  Exec.update (fun s => { s with
    htifTohost := 0#_
    htifDone := false
    htifExitCode := 0#_
    htifCmdWrite := false
    htifPayloadWrites := 0#_ })

/-- `tick_platform`, through `htif_tick`, which changes nothing. -/
def tickPlatform : M Unit := Exec.update (fun s => { s with htifTohost := s.htifTohost })

/-- `platform_wfi`. -/
def platformWfi : M Unit :=
  Exec.update (fun s =>
    if s.mtime < s.mtimecmp then { s with mtime := s.mtimecmp, mcycle := s.mtimecmp } else s)

end SailRiscv
