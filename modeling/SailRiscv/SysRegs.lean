/-
# Machine-mode and supervisor-mode registers

The bitfields of `riscv_sys_regs.sail`, the extension checks that read them, and the
legalisation of the values written to them.
-/
import SailRiscv.State

namespace SailRiscv

open Bits Platform

/-! ## Bitfields -/

namespace Misa
@[reducible] def MXL [Platform] : Field := ⟨xlen - 2, 2⟩
@[reducible] def V : Field := ⟨21, 1⟩
@[reducible] def U : Field := ⟨20, 1⟩
@[reducible] def S : Field := ⟨18, 1⟩
@[reducible] def M : Field := ⟨12, 1⟩
@[reducible] def I : Field := ⟨8, 1⟩
@[reducible] def F : Field := ⟨5, 1⟩
@[reducible] def D : Field := ⟨3, 1⟩
@[reducible] def C : Field := ⟨2, 1⟩
@[reducible] def B : Field := ⟨1, 1⟩
@[reducible] def A : Field := ⟨0, 1⟩
end Misa

namespace Mstatus
@[reducible] def SD [Platform] : Field := ⟨xlen - 1, 1⟩
@[reducible] def TSR : Field := ⟨22, 1⟩
@[reducible] def TW : Field := ⟨21, 1⟩
@[reducible] def TVM : Field := ⟨20, 1⟩
@[reducible] def MXR : Field := ⟨19, 1⟩
@[reducible] def SUM : Field := ⟨18, 1⟩
@[reducible] def MPRV : Field := ⟨17, 1⟩
@[reducible] def XS : Field := ⟨15, 2⟩
@[reducible] def FS : Field := ⟨13, 2⟩
@[reducible] def MPP : Field := ⟨11, 2⟩
@[reducible] def VS : Field := ⟨9, 2⟩
@[reducible] def SPP : Field := ⟨8, 1⟩
@[reducible] def MPIE : Field := ⟨7, 1⟩
@[reducible] def SPIE : Field := ⟨5, 1⟩
@[reducible] def MIE : Field := ⟨3, 1⟩
@[reducible] def SIE : Field := ⟨1, 1⟩
/-- Bits 35..34 on RV64; there is no such field on RV32. -/
@[reducible] def SXL : Field := ⟨34, 2⟩
/-- Bits 33..32 on RV64; there is no such field on RV32. -/
@[reducible] def UXL : Field := ⟨32, 2⟩
end Mstatus

namespace Minterrupts
@[reducible] def MEI : Field := ⟨11, 1⟩
@[reducible] def SEI : Field := ⟨9, 1⟩
@[reducible] def MTI : Field := ⟨7, 1⟩
@[reducible] def STI : Field := ⟨5, 1⟩
@[reducible] def MSI : Field := ⟨3, 1⟩
@[reducible] def SSI : Field := ⟨1, 1⟩
end Minterrupts

namespace Medeleg
@[reducible] def MEnvCall : Field := ⟨11, 1⟩
end Medeleg

namespace Mtvec
@[reducible] def Base [Platform] : Field := ⟨2, xlen - 2⟩
@[reducible] def Mode : Field := ⟨0, 2⟩
end Mtvec

namespace Mcause
@[reducible] def IsInterrupt [Platform] : Field := ⟨xlen - 1, 1⟩
@[reducible] def Cause [Platform] : Field := ⟨0, xlen - 1⟩
end Mcause

namespace Counteren
@[reducible] def IR : Field := ⟨2, 1⟩
@[reducible] def CY : Field := ⟨0, 1⟩
end Counteren

namespace Satp64
@[reducible] def Mode : Field := ⟨60, 4⟩
@[reducible] def Asid : Field := ⟨44, 16⟩
@[reducible] def PPN : Field := ⟨0, 44⟩
end Satp64

namespace Satp32
@[reducible] def Mode : Field := ⟨31, 1⟩
@[reducible] def Asid : Field := ⟨22, 9⟩
@[reducible] def PPN : Field := ⟨0, 22⟩
end Satp32

namespace Envcfg
@[reducible] def CBZE : Field := ⟨7, 1⟩
@[reducible] def CBCFE : Field := ⟨6, 1⟩
@[reducible] def CBIE : Field := ⟨4, 2⟩
@[reducible] def FIOM : Field := ⟨0, 1⟩
end Envcfg

namespace Vtype
@[reducible] def vill [Platform] : Field := ⟨xlen - 1, 1⟩
@[reducible] def reserved [Platform] : Field := ⟨8, xlen - 9⟩
@[reducible] def vma : Field := ⟨7, 1⟩
@[reducible] def vta : Field := ⟨6, 1⟩
@[reducible] def vsew : Field := ⟨3, 3⟩
@[reducible] def vlmul : Field := ⟨0, 3⟩
end Vtype

namespace Vcsr
@[reducible] def vxrm : Field := ⟨1, 2⟩
@[reducible] def vxsat : Field := ⟨0, 1⟩
end Vcsr

namespace Fcsr
@[reducible] def FRM : Field := ⟨5, 3⟩
@[reducible] def FFLAGS : Field := ⟨0, 5⟩
end Fcsr

variable [Platform]

/-! ## Extensions -/

/-- The extension names of the model. -/
inductive Extension where
  | U | S | C | Zca | Zcb | Zcd | Zcf
  | M | Zmmul | Zabha | Zalrsc | Zaamo
  | F | D | Zfh | Zfhmin | Zfa | Zfinx | Zdinx | Zhinx
  | V
  | B | Zba | Zbb | Zbc | Zbs | Zbkb | Zbkc | Zbkx
  | Zicbom | Zicboz | Zicond | Zifencei | Zihpm | Zkr
  | Zknh | Zkne | Zknd | Zksh | Zksed | Svinval
  deriving DecidableEq, Repr

/-- The F-like extensions need both the `misa` bit and a context that is not off. -/
def fsEnabled (s : State) (bit : Field) : Bool :=
  (bit.get s.misa == 1#_) && (Mstatus.FS.get s.mstatus != 0b00#2)

/-- `extensionEnabled`. -/
def extensionEnabled (s : State) : Extension → Bool
  | .U => Misa.U.get s.misa == 1#1
  | .S => Misa.S.get s.misa == 1#1
  | .C | .Zca => Misa.C.get s.misa == 1#1
  | .Zcb => sysEnableZcb && (Misa.C.get s.misa == 1#1)
  | .Zcd => (Misa.C.get s.misa == 1#1) && (fsEnabled s Misa.D && decide (64 ≤ flen))
      && (decide (xlen = 32) || decide (xlen = 64))
  | .Zcf => (Misa.C.get s.misa == 1#1) && fsEnabled s Misa.F && decide (xlen = 32)
  | .M => Misa.M.get s.misa == 1#1
  | .Zmmul | .Zabha => true
  | .Zalrsc | .Zaamo => Misa.A.get s.misa == 1#1
  | .F | .Zfh | .Zfhmin => fsEnabled s Misa.F
  | .D => fsEnabled s Misa.D && decide (64 ≤ flen)
  | .Zfa => true
  | .Zfinx | .Zhinx => sysEnableZfinx
  | .Zdinx => sysEnableZfinx && decide (64 ≤ flen)
  | .V => (Misa.V.get s.misa == 1#1) && (Mstatus.VS.get s.mstatus != 0b00#2)
  | .B => Misa.B.get s.misa == 1#1
  | .Zba | .Zbb | .Zbc | .Zbs | .Zbkb | .Zbkc | .Zbkx => true
  | .Zicbom => sysEnableZicbom
  | .Zicboz => sysEnableZicboz
  | .Zicond | .Zifencei | .Zihpm | .Zkr | .Zknh | .Zkne | .Zknd | .Zksh | .Zksed => true
  | .Svinval => sysEnableSvinval

/-! ## `misa` and `mstatus` -/

/-- `legalize_misa`. -/
def legalizeMisa (s : State) (m v : Xlenbits) : Xlenbits :=
  if !sysEnableWritableMisa || (Misa.C.get v == 0#1 && s.nextPC.getLsbD 1) then m
  else
    let m := if !sysEnableRvc then m else Misa.C.set m (Misa.C.get v)
    if !sysEnableFdext then m
    else Misa.D.set (Misa.F.set m (Misa.F.get v)) (Misa.D.get v &&& Misa.F.get v)

/-- `lowest_supported_privLevel`. -/
def lowestSupportedPrivLevel (s : State) : Privilege :=
  if extensionEnabled s .U then .User else .Machine

/-- `have_privLevel`. -/
def havePrivLevel (s : State) (priv : BitVec 2) : Bool :=
  if priv = 0b00#2 then extensionEnabled s .U
  else if priv = 0b01#2 then extensionEnabled s .S
  else if priv = 0b10#2 then false
  else true

/-- `effectivePrivilege`. -/
def effectivePrivilege (t : AccessType) (m : Xlenbits) (priv : Privilege) :
    Except ModelError Privilege :=
  if t ≠ .Execute ∧ Mstatus.MPRV.get m = 1#1 then privLevelOfBits (Mstatus.MPP.get m)
  else .ok priv

/-- `get_mstatus_SXL`. -/
def getMstatusSXL (m : Xlenbits) : BitVec 2 :=
  if xlen = 32 then archToBits .RV32 else Mstatus.SXL.get m

/-- `set_mstatus_SXL`. -/
def setMstatusSXL (m : Xlenbits) (a : BitVec 2) : Xlenbits :=
  if xlen = 32 then m else Mstatus.SXL.set m a

/-- `get_mstatus_UXL`. -/
def getMstatusUXL (m : Xlenbits) : BitVec 2 :=
  if xlen = 32 then archToBits .RV32 else Mstatus.UXL.get m

/-- `set_mstatus_UXL`. -/
def setMstatusUXL (m : Xlenbits) (a : BitVec 2) : Xlenbits :=
  if xlen = 32 then m else Mstatus.UXL.set m a

/-- Whether a context status field of `m` is `Dirty`. -/
def anyDirty (fs xs vs : BitVec 2) : Bool :=
  extStatusOfBits fs == .Dirty || extStatusOfBits xs == .Dirty || extStatusOfBits vs == .Dirty

/-- The bits of a written value that `legalize_mstatus` keeps before it looks at the
fields: 22..7, 5, 3 and 1. -/
def mstatusWritable (v : Xlenbits) : Xlenbits := v &&& 0x7fffaa#_

/-- `legalize_mstatus`. -/
def legalizeMstatus (s : State) (o v : Xlenbits) : Xlenbits :=
  let m := mstatusWritable v
  let dirty := anyDirty (Mstatus.FS.get m) (Mstatus.XS.get m) (Mstatus.VS.get m)
  let mpp := if havePrivLevel s (Mstatus.MPP.get m) then Mstatus.MPP.get m
    else privLevelToBits (lowestSupportedPrivLevel s)
  let fs := if sysEnableZfinx then extStatusToBits .Off else Mstatus.FS.get m
  let mprv := if extensionEnabled s .U then Mstatus.MPRV.get m else 0#1
  let m := Mstatus.MPP.set m mpp
  let m := Mstatus.XS.set m (extStatusToBits .Off)
  let m := Mstatus.SD.set m (boolToBits dirty)
  let m := Mstatus.FS.set m fs
  let m := Mstatus.MPRV.set m mprv
  let m := setMstatusSXL m (getMstatusSXL o)
  let m := setMstatusUXL m (getMstatusUXL o)
  if xlen = 64 then setRange m 36 (0b00#2) else m

/-- `cur_Architecture`. -/
def curArchitecture (s : State) : Except ModelError Architecture :=
  let a := match s.curPrivilege with
    | .Machine => Misa.MXL.get s.misa
    | .Supervisor => getMstatusSXL s.mstatus
    | .User => getMstatusUXL s.mstatus
  match architecture a with
  | some a => .ok a
  | none => .error (.internalError "Invalid current architecture")

/-! ## Interrupts and delegation -/

/-- `legalize_mip`. -/
def legalizeMip (o v : Xlenbits) : Xlenbits :=
  let o := Minterrupts.SEI.set o (Minterrupts.SEI.get v)
  let o := Minterrupts.STI.set o (Minterrupts.STI.get v)
  Minterrupts.SSI.set o (Minterrupts.SSI.get v)

/-- `legalize_mie`. -/
def legalizeMie (o v : Xlenbits) : Xlenbits :=
  let o := Minterrupts.MEI.set o (Minterrupts.MEI.get v)
  let o := Minterrupts.MTI.set o (Minterrupts.MTI.get v)
  let o := Minterrupts.MSI.set o (Minterrupts.MSI.get v)
  let o := Minterrupts.SEI.set o (Minterrupts.SEI.get v)
  let o := Minterrupts.STI.set o (Minterrupts.STI.get v)
  Minterrupts.SSI.set o (Minterrupts.SSI.get v)

/-- `legalize_mideleg`. -/
def legalizeMideleg (_o v : Xlenbits) : Xlenbits :=
  Minterrupts.MSI.set (Minterrupts.MTI.set (Minterrupts.MEI.set v 0#1) 0#1) 0#1

/-- `legalize_medeleg`. -/
def legalizeMedeleg (_o v : Xlenbits) : Xlenbits := Medeleg.MEnvCall.set v 0#1

/-- `lower_mip` and `lower_mie`, which have the same body: the S-mode interrupts of
`m` that `d` delegates. -/
def lowerMip (m d : Xlenbits) : Xlenbits :=
  let s : Xlenbits := Minterrupts.SEI.set 0#_ (Minterrupts.SEI.get m &&& Minterrupts.SEI.get d)
  let s := Minterrupts.STI.set s (Minterrupts.STI.get m &&& Minterrupts.STI.get d)
  Minterrupts.SSI.set s (Minterrupts.SSI.get m &&& Minterrupts.SSI.get d)

/-- `lower_mie`. -/
def lowerMie (m d : Xlenbits) : Xlenbits := lowerMip m d

/-- `legalize_sip`, through `lift_sip`. -/
def legalizeSip (o d v : Xlenbits) : Xlenbits :=
  if Minterrupts.SSI.get d = 1#1 then Minterrupts.SSI.set o (Minterrupts.SSI.get v) else o

/-- `legalize_sie`, through `lift_sie`. -/
def legalizeSie (o d v : Xlenbits) : Xlenbits :=
  let pick (f : Field) : BitVec f.width := if f.get d = 1#_ then f.get v else f.get o
  let m := Minterrupts.SEI.set o (pick Minterrupts.SEI)
  let m := Minterrupts.STI.set m (pick Minterrupts.STI)
  Minterrupts.SSI.set m (pick Minterrupts.SSI)

/-! ## Trap registers -/

/-- `legalize_tvec`. -/
def legalizeTvec (o v : Xlenbits) : Xlenbits :=
  match trapVectorModeOfBits (Mtvec.Mode.get v) with
  | .TV_Direct | .TV_Vector => v
  | .TV_Reserved => Mtvec.Mode.set v (Mtvec.Mode.get o)

/-- `tvec_addr`. -/
def tvecAddr (m c : Xlenbits) : Option Xlenbits :=
  let base : Xlenbits := m &&& ~~~3#_
  match trapVectorModeOfBits (Mtvec.Mode.get m) with
  | .TV_Direct => some base
  | .TV_Vector =>
      if Mcause.IsInterrupt.get c = 1#1
      then some (base + ((Mcause.Cause.get c).setWidth xlen <<< 2)) else some base
  | .TV_Reserved => none

/-- `legalize_xepc`. -/
def legalizeXepc (s : State) (v : Xlenbits) : Xlenbits :=
  if (sysEnableWritableMisa && sysEnableRvc) || (Misa.C.get s.misa == 1#1)
  then v &&& ~~~1#_ else v &&& ~~~3#_

/-- `pc_alignment_mask`. -/
def pcAlignmentMask (s : State) : Xlenbits :=
  ~~~(if Misa.C.get s.misa = 1#1 then 0b00#_ else 0b10#_)

/-! ## Counters and configuration -/

/-- The counters the platform implements, `low` standing for bits 2..0. -/
def supportedCounters (low : BitVec 3) : BitVec 32 :=
  setRange sysWritableHpmCounters 0 low

/-- `legalize_scounteren`. -/
def legalizeScounteren (v : Xlenbits) : BitVec 32 :=
  v.extractLsb' 0 32 &&& supportedCounters 0b111#3

/-- `legalize_mcounteren`. -/
def legalizeMcounteren (v : Xlenbits) : BitVec 32 :=
  v.extractLsb' 0 32 &&& supportedCounters 0b111#3

/-- `legalize_mcountinhibit`: `mtime` cannot be paused. -/
def legalizeMcountinhibit (v : Xlenbits) : BitVec 32 :=
  v.extractLsb' 0 32 &&& supportedCounters 0b101#3

/-- The common body of `legalize_menvcfg` and `legalize_senvcfg`: only `FIOM` can be
written. -/
def legalizeEnvcfg {w : ℕ} (o v : BitVec w) : BitVec w :=
  Envcfg.FIOM.set o (if sysEnableWritableFiom then Envcfg.FIOM.get v else 0#1)

/-- `legalize_menvcfg`. -/
def legalizeMenvcfg (o v : BitVec 64) : BitVec 64 := legalizeEnvcfg o v

/-- `legalize_senvcfg`. -/
def legalizeSenvcfg (o v : Xlenbits) : Xlenbits := legalizeEnvcfg o v

/-! ## `sstatus` -/

/-- `lower_mstatus`. -/
def lowerMstatus (m : Xlenbits) : Xlenbits :=
  let s : Xlenbits := setMstatusUXL 0#_ (getMstatusUXL m)
  let s := Mstatus.SD.set s (Mstatus.SD.get m)
  let s := Mstatus.MXR.set s (Mstatus.MXR.get m)
  let s := Mstatus.SUM.set s (Mstatus.SUM.get m)
  let s := Mstatus.XS.set s (Mstatus.XS.get m)
  let s := Mstatus.FS.set s (Mstatus.FS.get m)
  let s := Mstatus.VS.set s (Mstatus.VS.get m)
  let s := Mstatus.SPP.set s (Mstatus.SPP.get m)
  let s := Mstatus.SPIE.set s (Mstatus.SPIE.get m)
  Mstatus.SIE.set s (Mstatus.SIE.get m)

/-- `lift_sstatus`. -/
def liftSstatus (m v : Xlenbits) : Xlenbits :=
  let dirty := anyDirty (Mstatus.FS.get v) (Mstatus.XS.get v) (Mstatus.VS.get v)
  let m := Mstatus.SD.set m (boolToBits dirty)
  let m := Mstatus.MXR.set m (Mstatus.MXR.get v)
  let m := Mstatus.SUM.set m (Mstatus.SUM.get v)
  let m := Mstatus.XS.set m (Mstatus.XS.get v)
  let m := Mstatus.FS.set m (Mstatus.FS.get v)
  let m := Mstatus.VS.set m (Mstatus.VS.get v)
  let m := Mstatus.SPP.set m (Mstatus.SPP.get v)
  let m := Mstatus.SPIE.set m (Mstatus.SPIE.get v)
  Mstatus.SIE.set m (Mstatus.SIE.get v)

/-- `legalize_sstatus`. -/
def legalizeSstatus (s : State) (m v : Xlenbits) : Xlenbits :=
  legalizeMstatus s m (liftSstatus m v)

/-! ## `satp` -/

/-- `legalize_satp64`; Sv32 is not supported on RV64. -/
def legalizeSatp64 (a : Architecture) (o v : BitVec 64) : BitVec 64 :=
  match satp64ModeOfBits a (Satp64.Mode.get v) with
  | none => o
  | some .Sv32 => o
  | some _ => v

/-- `legalize_satp32`: all modes are valid. -/
def legalizeSatp32 (_a : Architecture) (_o v : BitVec 32) : BitVec 32 := v

/-- `legalize_satp`. -/
def legalizeSatp (a : Architecture) (o v : Xlenbits) : Xlenbits :=
  if xlen = 32 then (legalizeSatp32 a (o.setWidth 32) (v.setWidth 32)).setWidth xlen
  else (legalizeSatp64 a (o.setWidth 64) (v.setWidth 64)).setWidth xlen

/-! ## Contexts of the extensions -/

/-- The assertions of the accessors of floating-point registers.  The source gives them no
message; this one tells them from the other assertions. -/
def fpAccessor : String := "floating-point register accessor"

/-- `dirty_fd_context`. -/
def dirtyFdContext : M Unit := do
  assert sysEnableFdext fpAccessor
  Exec.update (fun s => { s with
    mstatus := Mstatus.SD.set (Mstatus.FS.set s.mstatus (extStatusToBits .Dirty)) 1#1 })

/-- `dirty_fd_context_if_present`. -/
def dirtyFdContextIfPresent : M Unit := do
  assert (sysEnableFdext != sysEnableZfinx) fpAccessor
  if sysEnableFdext then dirtyFdContext else pure ()

/-- `dirty_v_context`. -/
def dirtyVContext : M Unit := do
  assert sysEnableVext ""
  Exec.update (fun s => { s with
    mstatus := Mstatus.SD.set (Mstatus.VS.set s.mstatus (extStatusToBits .Dirty)) 1#1 })

/-- `dirty_v_context_if_present`. -/
def dirtyVContextIfPresent : M Unit :=
  if sysEnableVext then dirtyVContext else pure ()

/-- `write_fcsr`. -/
def writeFcsr (frm : BitVec 3) (fflags : BitVec 5) : M Unit := do
  Exec.update (fun s => { s with fcsr := Fcsr.FFLAGS.set (Fcsr.FRM.set s.fcsr frm) fflags })
  dirtyFdContextIfPresent

/-- `ext_write_vcsr`. -/
def extWriteVcsr (vxrm : BitVec 2) (vxsat : BitVec 1) : M Unit := do
  Exec.update (fun s => { s with vcsr := Vcsr.vxsat.set (Vcsr.vxrm.set s.vcsr vxrm) vxsat })
  dirtyVContextIfPresent

/-- `get_vlenb`. -/
def getVlenb : Xlenbits := BitVec.ofNat xlen (2 ^ sysVectorVlenExp / 8)

end SailRiscv
