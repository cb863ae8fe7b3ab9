/-
# The CSR instructions

`riscv_insts_zicsr.sail`: read a CSR and write it, set bits of it or clear bits of it.
-/
import SailRiscv.Csr
import SailRiscv.Insts.Common

namespace SailRiscv

open Bits Platform

variable [Platform]

inductive Csrop where
  | CSRRW | CSRRS | CSRRC
  deriving DecidableEq, Repr

/-- `union clause ast = CSR`. -/
structure ZicsrInst where
  csr : BitVec 12
  /-- A register, or the immediate itself. -/
  rs1 : BitVec 5
  rd : BitVec 5
  isImm : Bool
  op : Csrop
  deriving DecidableEq, Repr

namespace ZicsrInst

/-- `encdec_csrop`. -/
def encdecCsrop : List (BitVec 2 × Csrop) := [(0b01, .CSRRW), (0b10, .CSRRS), (0b11, .CSRRC)]

/-- The clause of `encdec` for CSR instructions, read backwards. -/
def decode (w : BitVec 32) : Option ZicsrInst :=
  mapped (bits w 0 7 == 0b1110011#7) encdecCsrop (bits w 12 2)
    (fun op => ⟨bits w 20 12, rs1Of w, rdOf w, bits w 14 1 == 1#1, op⟩)

/-- The operand of the instruction. -/
def rs1Val (i : ZicsrInst) (s : State) : Xlenbits :=
  if i.isImm then i.rs1.setWidth xlen else s.X i.rs1

/-- Whether the instruction writes the CSR. -/
def isWrite (i : ZicsrInst) (s : State) : Bool :=
  match i.op with
  | .CSRRW => true
  | _ => if i.isImm then i.rs1Val s != 0#_ else i.rs1 != 0#5

/-- The value written to a CSR that holds `csrVal`. -/
def newVal (i : ZicsrInst) (csrVal rs1Val : Xlenbits) : Xlenbits :=
  match i.op with
  | .CSRRW => rs1Val
  | .CSRRS => csrVal ||| rs1Val
  | .CSRRC => csrVal &&& ~~~rs1Val

/-- `execute CSR`. -/
def execute (i : ZicsrInst) : M Retired := do
  let rs1Val ← Exec.reads i.rs1Val
  let isWrite ← Exec.reads i.isWrite
  if ← Exec.reads (fun s => checkCSR s i.csr s.curPrivilege isWrite) then
    let csrVal ← readCSR i.csr
    if isWrite then
      let _ ← writeCSR i.csr (i.newVal csrVal rs1Val)
    wX i.rd csrVal
    pure .RETIRE_SUCCESS
  else
    handleIllegal
    pure .RETIRE_FAIL

end ZicsrInst

end SailRiscv
