/-
# Physical memory accesses

`riscv_mem.sail`: the PMP check, the dispatch to devices or main memory, and the read and
write functions that the instructions and the page-table walk use.  Reads do not change the
state, so they are functions of it.
-/
import SailRiscv.Devices

namespace SailRiscv

open Bits Platform

variable [Platform]

/-- `is_aligned_addr`. -/
def isAlignedAddr (addr : Xlenbits) (width : ℕ) : Bool := addr.toNat % width == 0

/-- `read_kind_of_flags`, of which only the failure matters here. -/
def readKindOfFlags (aq rl _res : Bool) : Option Unit := if !aq && rl then none else some ()

/-- `write_kind_of_flags`, of which only the failure matters here. -/
def writeKindOfFlags (aq rl con : Bool) : Except ModelError Unit :=
  if aq && !rl then .error (.notImplemented (if con then "sc.aq" else "store.aq")) else .ok ()

/-! ## Checks -/

/-- `phys_access_check`. -/
def physAccessCheck (s : State) (t : AccessType) (p : Privilege) (paddr : Xlenbits) (width : ℕ) :
    Except ModelError (Option ExceptionType) :=
  if sysPmpCount = 0 then .ok none else pmpCheck s paddr width t p

/-! ## Reads -/

/-- `phys_mem_read`. -/
def physMemRead (s : State) (t : AccessType) (paddr : Xlenbits) (width : ℕ) (aq rl res : Bool) :
    MemoryOpResult (BitVec (8 * width)) :=
  match readKindOfFlags aq rl res with
  | none => .MemException (deviceFault t)
  | some () => .MemValue (Bytes.read s.mem paddr.toNat width)

/-- `checked_mem_read`. -/
def checkedMemRead (s : State) (t : AccessType) (priv : Privilege) (paddr : Xlenbits) (width : ℕ)
    (aq rl res : Bool) : Except ModelError (MemoryOpResult (BitVec (8 * width))) := do
  match ← physAccessCheck s t priv paddr width with
  | some e => pure (.MemException e)
  | none =>
      pure (if withinMmioReadable paddr width then mmioRead s t paddr width
        else if withinPhysMem paddr width then physMemRead s t paddr width aq rl res
        else .MemException (deviceFault t))

/-- `mem_read_priv`. -/
def memReadPriv (s : State) (t : AccessType) (priv : Privilege) (paddr : Xlenbits) (width : ℕ)
    (aq rl res : Bool) : Except ModelError (MemoryOpResult (BitVec (8 * width))) :=
  if (aq || res) && !isAlignedAddr paddr width then .ok (.MemException .E_Load_Addr_Align)
  else if !aq && rl then .error (.notImplemented (if res then "lr.rl" else "load.rl"))
  else checkedMemRead s t priv paddr width aq rl res

/-- `mem_read`. -/
def memRead (t : AccessType) (paddr : Xlenbits) (width : ℕ) (aq rl res : Bool) :
    M (MemoryOpResult (BitVec (8 * width))) :=
  Exec.checks (fun s => do
    let priv ← effectivePrivilege t s.mstatus s.curPrivilege
    memReadPriv s t priv paddr width aq rl res)

/-! ## Writes -/

/-- `mem_write_ea`; announcing the address has no effect in a sequential model. -/
def memWriteEa (addr : Xlenbits) (width : ℕ) (aq rl con : Bool) :
    Except ModelError (MemoryOpResult Unit) :=
  if (rl || con) && !isAlignedAddr addr width then .ok (.MemException .E_SAMO_Addr_Align)
  else do
    writeKindOfFlags aq rl con
    pure (.MemValue ())

/-- `phys_mem_write`. -/
def physMemWrite (paddr : Xlenbits) (width : ℕ) (data : BitVec (8 * width)) :
    M (MemoryOpResult Bool) := do
  Exec.update (fun s => { s with mem := Bytes.write s.mem paddr.toNat width data })
  pure (.MemValue true)

/-- `checked_mem_write`. -/
def checkedMemWrite (paddr : Xlenbits) (width : ℕ) (data : BitVec (8 * width)) (t : AccessType)
    (priv : Privilege) (aq rl con : Bool) : M (MemoryOpResult Bool) := do
  match ← Exec.checks (fun s => physAccessCheck s t priv paddr width) with
  | some e => pure (.MemException e)
  | none =>
      if withinMmioWritable paddr width then mmioWrite paddr width data
      else if withinPhysMem paddr width then do
        Exec.checks (fun _ => writeKindOfFlags aq rl con)
        physMemWrite paddr width data
      else pure (.MemException .E_SAMO_Access_Fault)

/-- `mem_write_value_priv_meta`, without the metadata. -/
def memWriteValuePrivMeta (paddr : Xlenbits) (width : ℕ) (value : BitVec (8 * width))
    (t : AccessType) (priv : Privilege) (aq rl con : Bool) : M (MemoryOpResult Bool) :=
  if (rl || con) && !isAlignedAddr paddr width then pure (.MemException .E_SAMO_Addr_Align)
  else checkedMemWrite paddr width value t priv aq rl con

/-- `mem_write_value_priv`. -/
def memWriteValuePriv (paddr : Xlenbits) (width : ℕ) (value : BitVec (8 * width))
    (priv : Privilege) (aq rl con : Bool) : M (MemoryOpResult Bool) :=
  memWriteValuePrivMeta paddr width value .Write priv aq rl con

/-- `mem_write_value`. -/
def memWriteValue (paddr : Xlenbits) (width : ℕ) (value : BitVec (8 * width))
    (aq rl con : Bool) : M (MemoryOpResult Bool) := do
  let priv ← Exec.checks (fun s => effectivePrivilege .Write s.mstatus s.curPrivilege)
  memWriteValuePrivMeta paddr width value .Write priv aq rl con

end SailRiscv
