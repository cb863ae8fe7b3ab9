/-
# Atomic instructions

`riscv_insts_aext.sail`: load-reserved, store-conditional and the atomic memory operations.
The reservation is kept by the platform under the model (`riscv_platform.c`).
-/
import SailRiscv.Insts.Common

namespace SailRiscv

open Bits Platform

/-! ## Syntax -/

/-- `amoop`. -/
inductive Amoop where
  | AMOSWAP | AMOADD | AMOXOR | AMOAND | AMOOR | AMOMIN | AMOMAX | AMOMINU | AMOMAXU
  deriving DecidableEq, Repr

/-- The clauses of `ast` for the atomic instructions. -/
inductive AtomicInst where
  | LOADRES (aq rl : Bool) (rs1 : Regidx) (width : WordWidth) (rd : Regidx)
  | STORECON (aq rl : Bool) (rs2 rs1 : Regidx) (width : WordWidth) (rd : Regidx)
  | AMO (op : Amoop) (aq rl : Bool) (rs2 rs1 : Regidx) (width : WordWidth) (rd : Regidx)
  deriving DecidableEq, Repr

variable [Platform]

/-! ## Decoding -/

/-- `lrsc_width_valid`. -/
def lrscWidthValid : WordWidth → Bool
  | .WORD => true
  | .DOUBLE => decide (64 ≤ xlen)
  | _ => false

/-- `amo_width_valid`. -/
def amoWidthValid (s : State) : WordWidth → Bool
  | .BYTE | .HALF => extensionEnabled s .Zabha
  | .WORD => true
  | .DOUBLE => decide (64 ≤ xlen)

/-- `encdec_amoop`, read backwards. -/
def decodeAmoop (b : BitVec 5) : Option Amoop :=
  if b = 0b00001#5 then some .AMOSWAP
  else if b = 0b00000#5 then some .AMOADD
  else if b = 0b00100#5 then some .AMOXOR
  else if b = 0b01100#5 then some .AMOAND
  else if b = 0b01000#5 then some .AMOOR
  else if b = 0b10000#5 then some .AMOMIN
  else if b = 0b10100#5 then some .AMOMAX
  else if b = 0b11000#5 then some .AMOMINU
  else if b = 0b11100#5 then some .AMOMAXU
  else none

/-- The clauses of `encdec` for the atomic instructions, read backwards. -/
def AtomicInst.decode (s : State) (w : BitVec 32) : Option AtomicInst :=
  let aq := bits w 26 1 == 1#1
  let rl := bits w 25 1 == 1#1
  let size := sizeDec (bits w 12 2)
  let atomic := bits w 14 1 == 0#1 && bits w 0 7 == 0b0101111#7
  firstClause [
    clause (bits w 27 5 == 0b00010#5 && bits w 20 5 == 0b00000#5 && atomic
        && (extensionEnabled s .Zalrsc && lrscWidthValid size))
      (.LOADRES aq rl (rs1Of w) size (rdOf w)),
    clause (bits w 27 5 == 0b00011#5 && atomic
        && (extensionEnabled s .Zalrsc && lrscWidthValid size))
      (.STORECON aq rl (rs2Of w) (rs1Of w) size (rdOf w)),
    if atomic && (extensionEnabled s .Zaamo && amoWidthValid s size) then
      (decodeAmoop (bits w 27 5)).map (fun op => .AMO op aq rl (rs2Of w) (rs1Of w) size (rdOf w))
    else none]

/-! ## The reservation -/

/-- `load_reservation`. -/
def loadReservation (addr : Xlenbits) : M Unit :=
  Exec.update (fun s => { s with
    reservation := addr
    reservationValid := true })

/-- `match_reservation`. -/
def matchReservation (s : State) (addr : Xlenbits) : Bool :=
  s.reservationValid && s.reservation == addr

/-- `cancel_reservation`. -/
def cancelReservation : M Unit := Exec.update (fun s => { s with reservationValid := false })

/-! ## Execution -/

/-- The match on the operation of `AMO`. -/
def Amoop.result {n : ℕ} (op : Amoop) (rs2Val loaded : BitVec n) : BitVec n :=
  match op with
  | .AMOSWAP => rs2Val
  | .AMOADD => rs2Val + loaded
  | .AMOXOR => rs2Val ^^^ loaded
  | .AMOAND => rs2Val &&& loaded
  | .AMOOR => rs2Val ||| loaded
  | .AMOMIN => if rs2Val.slt loaded then rs2Val else loaded
  | .AMOMAX => if loaded.slt rs2Val then rs2Val else loaded
  | .AMOMINU => if rs2Val.ult loaded then rs2Val else loaded
  | .AMOMAXU => if loaded.ult rs2Val then rs2Val else loaded

/-- The end of a store-conditional: the reservation is lost, and `rd` tells whether it
failed. -/
def endStorecon (rd : Regidx) (failed : Bool) : M Retired := do
  wX rd (boolToXlen failed)
  cancelReservation
  pure .RETIRE_SUCCESS

/-- `execute LOADRES`. -/
def executeLoadres (aq rl : Bool) (rs1 : Regidx) (width : WordWidth) (rd : Regidx) :
    M Retired := do
  assert (decide (sizeBytes width ≤ xlenBytes)) ""
  let vaddr ← extDataGetAddr rs1 0#_
  if !isAligned vaddr width then memFault vaddr .E_Load_Addr_Align
  else
    onAddress (memFault vaddr) (← translateAddr vaddr .Read) fun addr => do
      onMemValue (memFault vaddr) (← memRead .Read addr (sizeBytes width) aq (aq && rl) true)
        fun result => do
          loadReservation addr
          retireX rd (result.signExtend xlen)

/-- `execute STORECON`; the platform always speculates that the store succeeds. -/
def executeStorecon (aq rl : Bool) (rs2 rs1 : Regidx) (width : WordWidth) (rd : Regidx) :
    M Retired := do
  assert (decide (sizeBytes width ≤ xlenBytes)) ""
  let vaddr ← extDataGetAddr rs1 0#_
  if !isAligned vaddr width then memFault vaddr .E_SAMO_Addr_Align
  else
    onAddress (memFault vaddr) (← translateAddr vaddr .Write) fun addr => do
      if !(← Exec.reads (fun s => matchReservation s addr)) then endStorecon rd true
      else
        onMemValue (memFault vaddr)
          (← Exec.checks (fun _ => memWriteEa addr (sizeBytes width) (aq && rl) rl true))
          fun _ => do
            let rs2Val ← rX rs2
            onMemValue (memFault vaddr)
              (← memWriteValue addr (sizeBytes width) (rs2Val.extractLsb' 0 _) (aq && rl) rl true)
              fun stored => endStorecon rd !stored

/-- `execute AMO`. -/
def executeAmo (op : Amoop) (aq rl : Bool) (rs2 rs1 : Regidx) (width : WordWidth)
    (rd : Regidx) : M Retired := do
  assert (decide (sizeBytes width ≤ xlenBytes)) ""
  let vaddr ← extDataGetAddr rs1 0#_
  if !isAligned vaddr width then memFault vaddr .E_SAMO_Addr_Align
  else
    onAddress (memFault vaddr) (← translateAddr vaddr .ReadWrite) fun addr => do
      let eares ← Exec.checks (fun _ => memWriteEa addr (sizeBytes width) (aq && rl) rl true)
      let rs2Val := (← rX rs2).extractLsb' 0 (8 * sizeBytes width)
      onMemValue (memFault vaddr) eares fun _ => do
        onMemValue (memFault vaddr)
          (← memRead .ReadWrite addr (sizeBytes width) aq (aq && rl) true) fun loaded => do
            onStored (memFault vaddr)
              (← memWriteValue addr (sizeBytes width) (op.result rs2Val loaded) (aq && rl) rl true)
              "AMO got false from mem_write_value" (retireX rd (loaded.signExtend xlen))

/-- `execute`. -/
def AtomicInst.execute : AtomicInst → M Retired
  | .LOADRES aq rl rs1 width rd => executeLoadres aq rl rs1 width rd
  | .STORECON aq rl rs2 rs1 width rd => executeStorecon aq rl rs2 rs1 width rd
  | .AMO op aq rl rs2 rs1 width rd => executeAmo op aq rl rs2 rs1 width rd

/-! ## What execution does -/

section Settles

set_option synthInstance.maxSize 4000

variable {R : State → State → Prop} [CoreRel R]

instance keeps_loadReservation [ReservationClosed R] (addr : Xlenbits) :
    Exec.Keeps R (loadReservation addr) :=
  Exec.keeps_update (fun s => ReservationClosed.reservation s _ _)

instance keeps_cancelReservation [ReservationClosed R] : Exec.Keeps R cancelReservation :=
  Exec.keeps_update (fun s => ReservationClosed.reservation s s.reservation _)

instance [ReservationClosed R] (rd : Regidx) (failed : Bool) :
    Exec.Settles R SyncTrap Failed (endStorecon rd failed) := by
  unfold endStorecon
  infer_instance

instance (op : Amoop) (aq rl : Bool) (rs2 rs1 : Regidx) (width : WordWidth) (rd : Regidx) :
    Exec.Settles R SyncTrap Failed (executeAmo op aq rl rs2 rs1 width rd) := by
  unfold executeAmo
  infer_instance

/-- An atomic instruction does an integer step, which for LR and SC may change the reservation,
and retires or takes one exception. -/
instance AtomicInst.settles [ReservationClosed R] (i : AtomicInst) :
    Exec.Settles R SyncTrap Failed i.execute := by
  rcases i with _ | _ | _
  · unfold AtomicInst.execute executeLoadres
    infer_instance
  · unfold AtomicInst.execute executeStorecon
    infer_instance
  · unfold AtomicInst.execute
    infer_instance

end Settles

end SailRiscv
