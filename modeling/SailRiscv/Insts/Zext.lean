/-
# The small extensions

Fences (`riscv_insts_zifencei.sail`, `riscv_insts_svinval.sail` and the reserved fences of
`riscv_insts_hints.sail`), integer conditional operations (`riscv_insts_zicond.sail`) and the
management and zeroing of cache blocks (`riscv_insts_zicbom.sail`, `riscv_insts_zicboz.sail`).
-/
import SailRiscv.Insts.Base

namespace SailRiscv

open Bits Platform

/-! ## Syntax -/

/-- `zicondop`. -/
inductive Zicondop where
  | RISCV_CZERO_EQZ | RISCV_CZERO_NEZ
  deriving DecidableEq, Repr

/-- `cbop_zicbom`. -/
inductive CbopZicbom where
  | CBO_CLEAN | CBO_FLUSH | CBO_INVAL
  deriving DecidableEq, Repr

/-- The clause of `ast` for instruction fences. -/
inductive ZifenceiInst where
  | FENCEI
  deriving DecidableEq, Repr

/-- The clauses of `ast` for fine-grained invalidation. -/
inductive SvinvalInst where
  | SINVAL_VMA (rs1 rs2 : Regidx)
  | SFENCE_W_INVAL
  | SFENCE_INVAL_IR
  deriving DecidableEq, Repr

/-- The clauses of `ast` for the reserved fences. -/
inductive FenceHintInst where
  | FENCE_RESERVED (fm pred succ : BitVec 4) (rs rd : Regidx)
  | FENCEI_RESERVED (imm : BitVec 12) (rs rd : Regidx)
  deriving DecidableEq, Repr

/-- The clause of `ast` for conditional operations. -/
inductive ZicondInst where
  | ZICOND_RTYPE (rs2 rs1 rd : Regidx) (op : Zicondop)
  deriving DecidableEq, Repr

/-- The clauses of `ast` for cache blocks. -/
inductive CacheBlockInst where
  | RISCV_ZICBOM (cbop : CbopZicbom) (rs1 : Regidx)
  | RISCV_ZICBOZ (rs1 : Regidx)
  deriving DecidableEq, Repr

variable [Platform]

/-! ## Decoding -/

/-- The clause of `encdec` for instruction fences, read backwards. -/
def ZifenceiInst.decode (s : State) (w : BitVec 32) : Option ZifenceiInst :=
  clause (w == 0x0000100F#32 && extensionEnabled s .Zifencei) .FENCEI

/-- The clauses of `encdec` for fine-grained invalidation, read backwards. -/
def SvinvalInst.decode (s : State) (w : BitVec 32) : Option SvinvalInst :=
  let svinval := extensionEnabled s .Svinval
  firstClause [
    clause (bits w 25 7 == 0b0001011#7 && bits w 0 15 == 0x0073#15 && svinval)
      (.SINVAL_VMA (rs1Of w) (rs2Of w)),
    clause (w == 0x18000073#32 && svinval) .SFENCE_W_INVAL,
    clause (w == 0x18100073#32 && svinval) .SFENCE_INVAL_IR]

/-- The clauses of `encdec` for the reserved fences, read backwards. -/
def FenceHintInst.decode (w : BitVec 32) : Option FenceHintInst :=
  let fm := bits w 28 4
  let imm := bits w 20 12
  let rs := rs1Of w
  let rd := rdOf w
  firstClause [
    clause (bits w 12 3 == 0b000#3 && bits w 0 7 == 0b0001111#7
        && ((fm != 0b0000#4 && fm != 0b1000#4) || rs != 0b00000#5 || rd != 0b00000#5))
      (.FENCE_RESERVED fm (bits w 24 4) (bits w 20 4) rs rd),
    clause (bits w 12 3 == 0b001#3 && bits w 0 7 == 0b0001111#7
        && (imm != 0b000000000000#12 || rs != 0b00000#5 || rd != 0b00000#5))
      (.FENCEI_RESERVED imm rs rd)]

/-- The clauses of `encdec` for conditional operations, read backwards. -/
def ZicondInst.decode (s : State) (w : BitVec 32) : Option ZicondInst :=
  let zicond := extensionEnabled s .Zicond
  firstClause [
    clause (isRtype w 0b0000111#7 0b101#3 0b0110011#7 && zicond)
      (.ZICOND_RTYPE (rs2Of w) (rs1Of w) (rdOf w) .RISCV_CZERO_EQZ),
    clause (isRtype w 0b0000111#7 0b111#3 0b0110011#7 && zicond)
      (.ZICOND_RTYPE (rs2Of w) (rs1Of w) (rdOf w) .RISCV_CZERO_NEZ)]

/-- `encdec_cbop`, read backwards. -/
def decodeCbop (b : BitVec 12) : Option CbopZicbom :=
  if b = 0b000000000001#12 then some .CBO_CLEAN
  else if b = 0b000000000010#12 then some .CBO_FLUSH
  else if b = 0b000000000000#12 then some .CBO_INVAL
  else none

/-- The clauses of `encdec` for cache blocks, read backwards. -/
def CacheBlockInst.decode (s : State) (w : BitVec 32) : Option CacheBlockInst :=
  let cbo := bits w 12 3 == 0b010#3 && bits w 7 5 == 0b00000#5 && bits w 0 7 == 0b0001111#7
  firstClause [
    if cbo && extensionEnabled s .Zicbom then
      (decodeCbop (bits w 20 12)).map (fun op => .RISCV_ZICBOM op (rs1Of w))
    else none,
    clause (bits w 20 12 == 0b000000000100#12 && cbo && extensionEnabled s .Zicboz)
      (.RISCV_ZICBOZ (rs1Of w))]

/-! ## Fences and conditional operations -/

/-- `execute FENCEI`. -/
def ZifenceiInst.execute : ZifenceiInst → M Retired
  | .FENCEI => pure .RETIRE_SUCCESS

/-- A fence that is illegal in U-mode and has no effect in a sequential model. -/
def fenceInval : M Retired := do
  if (← Exec.reads State.curPrivilege) = .User then illegal else pure .RETIRE_SUCCESS

/-- `execute` of the clauses for fine-grained invalidation. -/
def SvinvalInst.execute : SvinvalInst → M Retired
  | .SINVAL_VMA rs1 rs2 => (BaseInst.SFENCE_VMA rs1 rs2).execute
  | .SFENCE_W_INVAL => fenceInval
  | .SFENCE_INVAL_IR => fenceInval

/-- `execute` of the reserved fences. -/
def FenceHintInst.execute : FenceHintInst → M Retired
  | .FENCE_RESERVED .. => pure .RETIRE_SUCCESS
  | .FENCEI_RESERVED .. => pure .RETIRE_SUCCESS

/-- `execute ZICOND_RTYPE`. -/
def ZicondInst.execute : ZicondInst → M Retired
  | .ZICOND_RTYPE rs2 rs1 rd .RISCV_CZERO_EQZ => do
      let value ← rX rs1
      let condition ← rX rs2
      retireX rd (if condition = 0#_ then 0#_ else value)
  | .ZICOND_RTYPE rs2 rs1 rd .RISCV_CZERO_NEZ => do
      let value ← rX rs1
      let condition ← rX rs2
      retireX rd (if condition ≠ 0#_ then 0#_ else value)

/-! ## Cache blocks -/

/-- `cbo_clean_flush_enabled`. -/
def cboCleanFlushEnabled (s : State) (p : Privilege) : Bool :=
  featureEnabledForPriv s p (Envcfg.CBCFE.get s.menvcfg == 1#1) (Envcfg.CBCFE.get s.senvcfg == 1#1)

/-- `cbo_inval_enabled`. -/
def cboInvalEnabled (s : State) (p : Privilege) : Bool :=
  featureEnabledForPriv s p ((Envcfg.CBIE.get s.menvcfg).getLsbD 0)
    ((Envcfg.CBIE.get s.senvcfg).getLsbD 0)

/-- `cbo_inval_as_inval`. -/
def cboInvalAsInval (s : State) (p : Privilege) : Bool :=
  featureEnabledForPriv s p ((Envcfg.CBIE.get s.menvcfg).getLsbD 1)
    ((Envcfg.CBIE.get s.senvcfg).getLsbD 1)

/-- `cbo_zero_enabled`. -/
def cboZeroEnabled (s : State) (p : Privilege) : Bool :=
  featureEnabledForPriv s p (Envcfg.CBZE.get s.menvcfg == 1#1) (Envcfg.CBZE.get s.senvcfg == 1#1)

/-- `cache_block_size`. -/
def cacheBlockSize : ℕ := 2 ^ platCacheBlockSizeExp

/-- The offset from an address to the beginning of its cache block. -/
def cacheBlockOffset (a : Xlenbits) : Xlenbits :=
  (a &&& ~~~(lowOnes xlen platCacheBlockSizeExp)) - a

/-- The exception that a cache-block management instruction reports. -/
def cacheBlockException : ExceptionType → Except ModelError ExceptionType
  | .E_Load_Access_Fault | .E_SAMO_Access_Fault => .ok .E_SAMO_Access_Fault
  | .E_Load_Page_Fault | .E_SAMO_Page_Fault => .ok .E_SAMO_Page_Fault
  | _ => .error (.internalError "unexpected exception for cmo.clean/inval")

/-- The check of the physical block: a load or a store of it is permitted. -/
def cacheBlockCheck (s : State) (paddr : Xlenbits) : Except ModelError (Option ExceptionType) := do
  let excRead ← physAccessCheck s .Read s.curPrivilege paddr cacheBlockSize
  let excWrite ← physAccessCheck s .Write s.curPrivilege paddr cacheBlockSize
  match excRead, excWrite with
  | some _, some e => pure (some e)
  | _, _ => pure none

/-- `process_clean_inval`; the model has no caches, so that the operation has no effect. -/
def processCleanInval (rs1 : Regidx) (_cbop : CbopZicbom) : M Retired := do
  let rs1Val ← rX rs1
  let vaddr ← extDataGetAddr rs1 (cacheBlockOffset rs1Val)
  let res ← onAddress (fun e => pure (some e)) (← translateAddr vaddr .Read)
    fun paddr => Exec.checks (fun s => cacheBlockCheck s paddr)
  match res with
  | none => pure .RETIRE_SUCCESS
  | some e => do
      let e ← Exec.checks (fun _ => cacheBlockException e)
      memFault vaddr e

/-- `execute RISCV_ZICBOZ`. -/
def executeZicboz (rs1 : Regidx) : M Retired := do
  if ← Exec.reads (fun s => cboZeroEnabled s s.curPrivilege) then
    let rs1Val ← rX rs1
    let vaddr ← extDataGetAddr rs1 (cacheBlockOffset rs1Val)
    onAddress (memFault vaddr) (← translateAddr vaddr .Write) fun paddr => do
      onMemValue (memFault vaddr)
        (← Exec.checks (fun _ => memWriteEa paddr cacheBlockSize false false false)) fun _ => do
          onStored (memFault vaddr)
            (← memWriteValue paddr cacheBlockSize 0#_ false false false)
            "store got false from mem_write_value" (pure .RETIRE_SUCCESS)
  else illegal

/-- `execute` of the clauses for cache blocks. -/
def CacheBlockInst.execute : CacheBlockInst → M Retired
  | .RISCV_ZICBOM cbop rs1 => do
      let cleanFlush ← Exec.reads (fun s => cboCleanFlushEnabled s s.curPrivilege)
      let inval ← Exec.reads (fun s => cboInvalEnabled s s.curPrivilege)
      let asInval ← Exec.reads (fun s => cboInvalAsInval s s.curPrivilege)
      match cbop with
      | .CBO_CLEAN | .CBO_FLUSH => if cleanFlush then processCleanInval rs1 cbop else illegal
      | .CBO_INVAL =>
          if inval then processCleanInval rs1 (if asInval then .CBO_INVAL else .CBO_FLUSH)
          else illegal
  | .RISCV_ZICBOZ rs1 => executeZicboz rs1

/-! ## What execution does -/

section Settles

set_option synthInstance.maxSize 4000

variable {R : State → State → Prop} [CoreRel R]

instance ZifenceiInst.settles (i : ZifenceiInst) :
    Exec.Settles R SyncTrap Failed i.execute := by
  cases i
  unfold ZifenceiInst.execute
  infer_instance

instance SvinvalInst.settles (i : SvinvalInst) :
    Exec.Settles R SyncTrap Failed i.execute := by
  cases i with
  | SINVAL_VMA rs1 rs2 =>
      exact BaseInst.settles (i := .SFENCE_VMA rs1 rs2) nofun nofun nofun nofun trivial
  | SFENCE_W_INVAL =>
      unfold SvinvalInst.execute fenceInval
      infer_instance
  | SFENCE_INVAL_IR =>
      unfold SvinvalInst.execute fenceInval
      infer_instance

instance FenceHintInst.settles (i : FenceHintInst) :
    Exec.Settles R SyncTrap Failed i.execute := by
  cases i <;> exact settles_success

instance ZicondInst.settles (i : ZicondInst) :
    Exec.Settles R SyncTrap Failed i.execute := by
  rcases i with ⟨rs2, rs1, rd, op⟩
  cases op <;> (unfold ZicondInst.execute; infer_instance)

instance (rs1 : Regidx) (cbop : CbopZicbom) :
    Exec.Settles R SyncTrap Failed (processCleanInval rs1 cbop) := by
  have hres (r : TRResult Xlenbits ExceptionType) : Exec.Keeps R
      (onAddress (fun e => pure (some e)) r
        (fun paddr => Exec.checks (fun s => cacheBlockCheck s paddr)) : M (Option ExceptionType)) := by
    unfold onAddress
    cases r <;> infer_instance
  have hend (vaddr : Xlenbits) (res : Option ExceptionType) : Exec.Settles R SyncTrap Failed
      (match res with
        | none => pure .RETIRE_SUCCESS
        | some e => do
            let e ← Exec.checks (fun _ => cacheBlockException e)
            memFault vaddr e : M Retired) := by
    cases res <;> infer_instance
  unfold processCleanInval
  infer_instance

instance (rs1 : Regidx) : Exec.Settles R SyncTrap Failed (executeZicboz rs1) := by
  unfold executeZicboz
  infer_instance

instance CacheBlockInst.settles (i : CacheBlockInst) :
    Exec.Settles R SyncTrap Failed i.execute := by
  cases i with
  | RISCV_ZICBOM cbop rs1 => cases cbop <;> (unfold CacheBlockInst.execute; infer_instance)
  | RISCV_ZICBOZ rs1 =>
      unfold CacheBlockInst.execute
      infer_instance

end Settles

end SailRiscv
