/-
# The instruction set

`ast`, `encdec`, `encdec_compressed` and `execute`, put together from the files of the
extensions.  The clauses are tried in the order in which the build lists the files, and the
illegal instructions come last (`riscv_insts_end.sail`).
-/
import SailRiscv.Insts.Zicsr
import SailRiscv.Insts.Aext
import SailRiscv.Insts.Mext
import SailRiscv.Insts.Bext
import SailRiscv.Insts.Zext
import SailRiscv.Insts.Kext
import SailRiscv.Insts.Zca
import SailRiscv.Insts.Zfa
import SailRiscv.Insts.VextVset
import SailRiscv.Insts.VextMask
import SailRiscv.Insts.VextMem
import SailRiscv.Insts.VextVm
import SailRiscv.Insts.VextRed
import SailRiscv.Insts.VextFp

namespace SailRiscv

open Bits Platform

/-! ## Syntax -/

/-- `ast`, by the files of its clauses. -/
inductive Ast where
  | BASE (i : BaseInst)
  | ZIFENCEI (i : ZifenceiInst)
  | ATOMIC (i : AtomicInst)
  | ZCA (i : ZcaInst)
  | MUL (i : MulInst)
  | CSR (i : ZicsrInst)
  | FENCE_HINT (i : FenceHintInst)
  | C_HINT (i : CHintInst)
  | FP (i : FpInst)
  | ZCF (i : ZcfInst)
  | SVINVAL (i : SvinvalInst)
  | ZBA (i : ZbaInst)
  | ZBB (i : ZbbInst)
  | ZBC (i : ZbcInst)
  | ZBS (i : ZbsInst)
  | ZCB (i : ZcbInst)
  | ZFA (i : ZfaInst)
  | ZKN (i : ZknInst)
  | ZKS (i : ZksInst)
  | ZBKB (i : ZbkbInst)
  | ZBKX (i : ZbkxInst)
  | ZICOND (i : ZicondInst)
  | VSET (i : VsetInst)
  | VEXT_ARITH (i : VextArithInst)
  | VEXT_FP (i : VextFpInst)
  | VEXT_MEM (i : VextMemInst)
  | VEXT_MASK (i : VextMaskInst)
  | VEXT_VM (i : VextVmInst)
  | VEXT_RED (i : VextRedInst)
  | CACHE_BLOCK (i : CacheBlockInst)
  | ILLEGAL (w : BitVec 32)
  | C_ILLEGAL (h : BitVec 16)
  deriving DecidableEq, Repr

variable [Platform]

/-! ## Decoding -/

/-- The clauses of `encdec`, read backwards, without the one for illegal instructions. -/
def decodeLegal (s : State) (w : BitVec 32) : Option Ast :=
  firstClause [
    (BaseInst.decode w).map .BASE,
    (ZifenceiInst.decode s w).map .ZIFENCEI,
    (AtomicInst.decode s w).map .ATOMIC,
    (MulInst.decode s w).map .MUL,
    (ZicsrInst.decode w).map .CSR,
    (FenceHintInst.decode w).map .FENCE_HINT,
    (FpInst.decode s w).map .FP,
    (SvinvalInst.decode s w).map .SVINVAL,
    (ZbaInst.decode s w).map .ZBA,
    (ZbbInst.decode s w).map .ZBB,
    (ZbcInst.decode s w).map .ZBC,
    (ZbsInst.decode s w).map .ZBS,
    (ZfaInst.decode s w).map .ZFA,
    (ZknInst.decode s w).map .ZKN,
    (ZksInst.decode s w).map .ZKS,
    (ZbkbInst.decode s w).map .ZBKB,
    (ZbkxInst.decode s w).map .ZBKX,
    (ZicondInst.decode s w).map .ZICOND,
    (VsetInst.decode s w).map .VSET,
    (VextArithInst.decode s w).map .VEXT_ARITH,
    (VextFpInst.decode s w).map .VEXT_FP,
    (VextMemInst.decode s w).map .VEXT_MEM,
    (VextMaskInst.decode s w).map .VEXT_MASK,
    (VextVmInst.decode s w).map .VEXT_VM,
    (VextRedInst.decode s w).map .VEXT_RED,
    (CacheBlockInst.decode s w).map .CACHE_BLOCK]

/-- `ext_decode`. -/
def extDecode (s : State) (w : BitVec 32) : Ast := (decodeLegal s w).getD (.ILLEGAL w)

/-- The clauses of `encdec_compressed`, read backwards, without the one for illegal
instructions. -/
def decodeLegalCompressed (s : State) (h : BitVec 16) : Option Ast :=
  firstClause [
    (ZcaInst.decode s h).map .ZCA,
    (CHintInst.decode h).map .C_HINT,
    (ZcfInst.decode s h).map .ZCF,
    (ZcbInst.decode s h).map .ZCB]

/-- `ext_decode_compressed`. -/
def extDecodeCompressed (s : State) (h : BitVec 16) : Ast :=
  (decodeLegalCompressed s h).getD (.C_ILLEGAL h)

/-! ## Execution -/

/-- `execute`. -/
def Ast.execute [SoftFloat] : Ast → M Retired
  | .BASE i => i.execute
  | .ZIFENCEI i => i.execute
  | .ATOMIC i => i.execute
  | .ZCA i => i.execute
  | .MUL i => i.execute
  | .CSR i => i.execute
  | .FENCE_HINT i => i.execute
  | .C_HINT i => i.execute
  | .FP i => i.execute
  | .ZCF i => i.execute
  | .SVINVAL i => i.execute
  | .ZBA i => i.execute
  | .ZBB i => i.execute
  | .ZBC i => i.execute
  | .ZBS i => i.execute
  | .ZCB i => i.execute
  | .ZFA i => i.execute
  | .ZKN i => i.execute
  | .ZKS i => i.execute
  | .ZBKB i => i.execute
  | .ZBKX i => i.execute
  | .ZICOND i => i.execute
  | .VSET i => i.execute
  | .VEXT_ARITH i => i.execute
  | .VEXT_FP i => i.execute
  | .VEXT_MEM i => i.execute
  | .VEXT_MASK i => i.execute
  | .VEXT_VM i => i.execute
  | .VEXT_RED i => i.execute
  | .CACHE_BLOCK i => i.execute
  | .ILLEGAL _ => illegal
  | .C_ILLEGAL _ => illegal

end SailRiscv
