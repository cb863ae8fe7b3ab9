/-
# The elements of vector arithmetic

A table of what the instructions of `riscv_insts_vext_arith.sail` put into an active element, as a
function of the registers before the instruction, with exact arithmetic for the fixed-point
operations.
-/
import SailRiscv.VextClauses

namespace SailRiscv

open Bits Platform Rounding

/-! ## Operations on elements of one width -/

section

variable {m : ℕ}

/-- An element that does not saturate. -/
def exactly (a : BitVec m) : BitVec m × Bool := (a, false)

/-- An element that saturates in the range `r`. -/
def saturated (r : Range) (x : ℤ) : BitVec m × Bool := (BitVec.ofInt m (r.clamp x), r.out x)

/-- The elements of `VXTYPE`; `vssubu` does not report that it saturates. -/
def Vxfunct6.elem (μ : Mode) (a b : BitVec m) : Vxfunct6 → BitVec m × Bool
  | .VX_VADD => exactly (a + b)
  | .VX_VSUB => exactly (a - b)
  | .VX_VRSUB => exactly (b - a)
  | .VX_VMINU => exactly (vminu a b)
  | .VX_VMIN => exactly (vmin a b)
  | .VX_VMAXU => exactly (vmaxu a b)
  | .VX_VMAX => exactly (vmax a b)
  | .VX_VAND => exactly (a &&& b)
  | .VX_VOR => exactly (a ||| b)
  | .VX_VXOR => exactly (a ^^^ b)
  | .VX_VSADDU => saturated (Range.unsigned m) (a.toNat + b.toNat)
  | .VX_VSADD => saturated (Range.signed m) (a.toInt + b.toInt)
  | .VX_VSSUBU => exactly (BitVec.ofInt m ((Range.unsigned m).clamp (a.toNat - b.toNat)))
  | .VX_VSSUB => saturated (Range.signed m) (a.toInt - b.toInt)
  | .VX_VSLL => exactly (a <<< (b.toNat % m))
  | .VX_VSMUL => saturated (Range.signed m) (rounded μ (a.toInt * b.toInt) (m - 1))
  | .VX_VSRL => exactly (a >>> (b.toNat % m))
  | .VX_VSRA => exactly (BitVec.ofInt m (a.toInt / 2 ^ (b.toNat % m)))
  | .VX_VSSRL => exactly (BitVec.ofInt m (rounded μ a.toNat (b.toNat % m)))
  | .VX_VSSRA => exactly (BitVec.ofInt m (rounded μ a.toInt (b.toNat % m)))

/-- The elements of `MVXTYPE` but those of the slides. -/
def Mvxfunct6.elem (μ : Mode) (a b : BitVec m) : Mvxfunct6 → BitVec m × Bool
  | .MVX_VAADDU => exactly (BitVec.ofInt m (rounded μ (a.toNat + b.toNat) 1))
  | .MVX_VAADD => exactly (BitVec.ofInt m (rounded μ (a.toInt + b.toInt) 1))
  | .MVX_VASUBU => exactly (BitVec.ofInt m (rounded μ (a.toNat - b.toNat) 1))
  | .MVX_VASUB => exactly (BitVec.ofInt m (rounded μ (a.toInt - b.toInt) 1))
  | .MVX_VSLIDE1UP => exactly a
  | .MVX_VSLIDE1DOWN => exactly a
  | .MVX_VMUL => exactly (getSliceInt m (a.toInt * b.toInt) 0)
  | .MVX_VMULH => exactly (getSliceInt m (a.toInt * b.toInt) m)
  | .MVX_VMULHU => exactly (getSliceInt m (a.toNat * b.toNat) m)
  | .MVX_VMULHSU => exactly (getSliceInt m (a.toInt * b.toNat) m)
  | .MVX_VDIVU => exactly (vdivu a b)
  | .MVX_VDIV => exactly (vdiv a b)
  | .MVX_VREMU => exactly (vremu a b)
  | .MVX_VREM => exactly (vrem a b)

/-- The elements of `MVXMATYPE`. -/
def Mvxmafunct6.elem (a b old : BitVec m) : Mvxmafunct6 → BitVec m × Bool
  | .MVX_VMACC => exactly (getSliceInt m (b.toInt * a.toInt) 0 + old)
  | .MVX_VNMSAC => exactly (old - getSliceInt m (b.toInt * a.toInt) 0)
  | .MVX_VMADD => exactly (getSliceInt m (b.toInt * old.toInt) 0 + a)
  | .MVX_VNMSUB => exactly (a - getSliceInt m (b.toInt * old.toInt) 0)

end

/-! ## Narrowing and widening operations -/

section

variable {o m : ℕ}

/-- The elements of `NXSTYPE`. -/
def Nxsfunct6.elem (m : ℕ) (a : BitVec o) (shift : ℕ) : Nxsfunct6 → BitVec m × Bool
  | .NXS_VNSRL => exactly (slice (a >>> shift) 0 m)
  | .NXS_VNSRA => exactly (slice (shiftRightArith a shift) 0 m)

/-- The elements of `NXTYPE`. -/
def Nxfunct6.elem (μ : Mode) (m : ℕ) (a : BitVec o) (shift : ℕ) : Nxfunct6 → BitVec m × Bool
  | .NX_VNCLIPU => saturated (Range.unsigned m) (rounded μ a.toNat shift)
  | .NX_VNCLIP => saturated (Range.signed m) (rounded μ a.toInt shift)

/-- The elements of `WVXTYPE`. -/
def Wvxfunct6.elem (o : ℕ) (a b : BitVec m) : Wvxfunct6 → BitVec o
  | .WVX_VADD => toBits o (a.toInt + b.toInt)
  | .WVX_VSUB => toBits o (a.toInt - b.toInt)
  | .WVX_VADDU => toBits o (a.toNat + b.toNat)
  | .WVX_VSUBU => toBits o (a.toNat - b.toNat)
  | .WVX_VWMUL => toBits o (a.toInt * b.toInt)
  | .WVX_VWMULU => toBits o (a.toNat * b.toNat)
  | .WVX_VWMULSU => toBits o (a.toInt * b.toNat)

/-- The elements of `WXTYPE`. -/
def Wxfunct6.elem (a : BitVec o) (b : BitVec m) : Wxfunct6 → BitVec o
  | .WX_VADD => toBits o (a.toInt + b.toInt)
  | .WX_VSUB => toBits o (a.toInt - b.toInt)
  | .WX_VADDU => toBits o (a.toNat + b.toNat)
  | .WX_VSUBU => toBits o (a.toNat - b.toNat)

/-- The elements of `WMVXTYPE`. -/
def Wmvxfunct6.elem (a b : BitVec m) (old : BitVec o) : Wmvxfunct6 → BitVec o
  | .WMVX_VWMACCU => toBits o (b.toNat * a.toNat) + old
  | .WMVX_VWMACC => toBits o (b.toInt * a.toInt) + old
  | .WMVX_VWMACCUS => toBits o (b.toNat * a.toInt) + old
  | .WMVX_VWMACCSU => toBits o (b.toInt * a.toNat) + old

end

/-! ## The forms of an operation -/

/-- The operation with a scalar operand; the gathers have none on elements. -/
def Vvfunct6.scalarForm : Vvfunct6 → Option Vxfunct6
  | .VV_VADD => some .VX_VADD
  | .VV_VSUB => some .VX_VSUB
  | .VV_VMINU => some .VX_VMINU
  | .VV_VMIN => some .VX_VMIN
  | .VV_VMAXU => some .VX_VMAXU
  | .VV_VMAX => some .VX_VMAX
  | .VV_VAND => some .VX_VAND
  | .VV_VOR => some .VX_VOR
  | .VV_VXOR => some .VX_VXOR
  | .VV_VRGATHER => none
  | .VV_VRGATHEREI16 => none
  | .VV_VSADDU => some .VX_VSADDU
  | .VV_VSADD => some .VX_VSADD
  | .VV_VSSUBU => some .VX_VSSUBU
  | .VV_VSSUB => some .VX_VSSUB
  | .VV_VSLL => some .VX_VSLL
  | .VV_VSMUL => some .VX_VSMUL
  | .VV_VSRL => some .VX_VSRL
  | .VV_VSRA => some .VX_VSRA
  | .VV_VSSRL => some .VX_VSSRL
  | .VV_VSSRA => some .VX_VSSRA

/-- The operation with a scalar operand. -/
def Vifunct6.scalarForm : Vifunct6 → Vxfunct6
  | .VI_VADD => .VX_VADD
  | .VI_VRSUB => .VX_VRSUB
  | .VI_VAND => .VX_VAND
  | .VI_VOR => .VX_VOR
  | .VI_VXOR => .VX_VXOR
  | .VI_VSADDU => .VX_VSADDU
  | .VI_VSADD => .VX_VSADD
  | .VI_VSLL => .VX_VSLL
  | .VI_VSRL => .VX_VSRL
  | .VI_VSRA => .VX_VSRA
  | .VI_VSSRL => .VX_VSSRL
  | .VI_VSSRA => .VX_VSSRA

/-- The shifts. -/
def Vifunct6.isShift : Vifunct6 → Bool
  | .VI_VSLL | .VI_VSRL | .VI_VSRA | .VI_VSSRL | .VI_VSSRA => true
  | _ => false

/-- The immediate operand: zero-extended for the shifts. -/
def Vifunct6.operand (f : Vifunct6) (m : ℕ) (simm : BitVec 5) : BitVec m :=
  if f.isShift then simm.setWidth m else simm.signExtend m

/-- The operation with a scalar operand. -/
def Mvvfunct6.scalarForm : Mvvfunct6 → Mvxfunct6
  | .MVV_VAADDU => .MVX_VAADDU
  | .MVV_VAADD => .MVX_VAADD
  | .MVV_VASUBU => .MVX_VASUBU
  | .MVV_VASUB => .MVX_VASUB
  | .MVV_VMUL => .MVX_VMUL
  | .MVV_VMULH => .MVX_VMULH
  | .MVV_VMULHU => .MVX_VMULHU
  | .MVV_VMULHSU => .MVX_VMULHSU
  | .MVV_VDIVU => .MVX_VDIVU
  | .MVV_VDIV => .MVX_VDIV
  | .MVV_VREMU => .MVX_VREMU
  | .MVV_VREM => .MVX_VREM

/-- The operation with a scalar operand. -/
def Mvvmafunct6.scalarForm : Mvvmafunct6 → Mvxmafunct6
  | .MVV_VMACC => .MVX_VMACC
  | .MVV_VNMSAC => .MVX_VNMSAC
  | .MVV_VMADD => .MVX_VMADD
  | .MVV_VNMSUB => .MVX_VNMSUB

/-- The operation with a scalar operand. -/
def Nvsfunct6.scalarForm : Nvsfunct6 → Nxsfunct6
  | .NVS_VNSRL => .NXS_VNSRL
  | .NVS_VNSRA => .NXS_VNSRA

/-- The operation with a scalar operand. -/
def Nisfunct6.scalarForm : Nisfunct6 → Nxsfunct6
  | .NIS_VNSRL => .NXS_VNSRL
  | .NIS_VNSRA => .NXS_VNSRA

/-- The operation with a scalar operand. -/
def Nvfunct6.scalarForm : Nvfunct6 → Nxfunct6
  | .NV_VNCLIPU => .NX_VNCLIPU
  | .NV_VNCLIP => .NX_VNCLIP

/-- The operation with a scalar operand. -/
def Nifunct6.scalarForm : Nifunct6 → Nxfunct6
  | .NI_VNCLIPU => .NX_VNCLIPU
  | .NI_VNCLIP => .NX_VNCLIP

/-- The operation with a scalar operand. -/
def Wvvfunct6.scalarForm : Wvvfunct6 → Wvxfunct6
  | .WVV_VADD => .WVX_VADD
  | .WVV_VSUB => .WVX_VSUB
  | .WVV_VADDU => .WVX_VADDU
  | .WVV_VSUBU => .WVX_VSUBU
  | .WVV_VWMUL => .WVX_VWMUL
  | .WVV_VWMULU => .WVX_VWMULU
  | .WVV_VWMULSU => .WVX_VWMULSU

/-- The operation with a scalar operand. -/
def Wvfunct6.scalarForm : Wvfunct6 → Wxfunct6
  | .WV_VADD => .WX_VADD
  | .WV_VSUB => .WX_VSUB
  | .WV_VADDU => .WX_VADDU
  | .WV_VSUBU => .WX_VSUBU

/-- The operation with a scalar operand. -/
def Wmvvfunct6.scalarForm : Wmvvfunct6 → Wmvxfunct6
  | .WMVV_VWMACCU => .WMVX_VWMACCU
  | .WMVV_VWMACC => .WMVX_VWMACC
  | .WMVV_VWMACCSU => .WMVX_VWMACCSU

/-! ## Permutations -/

variable [Platform]

/-- The element with the index `idx` of a group, or zero beyond its end. -/
def VConf.gathered (c : VConf) (s : State) (vs2 : Regidx) (idx : ℕ) : BitVec c.sew :=
  if idx < c.vlmax then c.read s vs2 idx else 0#_

/-- The index of 16 bits of an element. -/
def VConf.index16 (c : VConf) (s : State) (vs1 : Regidx) (i : ℕ) : ℕ :=
  (s.group c.n 16 (4 + c.lmul - c.sewPow) vs1 i).toNat

/-- The elements of `VVTYPE`. -/
def Vvfunct6.elem (f : Vvfunct6) (s : State) (c : VConf) (vs2 vs1 : Regidx) (i : ℕ) :
    BitVec c.sew × Bool :=
  match f.scalarForm with
  | some g => g.elem s.rounding (c.read s vs2 i) (c.read s vs1 i)
  | none =>
      exactly (c.gathered s vs2
        (if f = .VV_VRGATHER then (c.read s vs1 i).toNat else c.index16 s vs1 i))

/-- The elements of `VXSG` and `VISG`. -/
def Vxsgfunct6.elem (f : Vxsgfunct6) (s : State) (c : VConf) (vs2 vd : Regidx) (offset i : ℕ) :
    BitVec c.sew × Bool :=
  match f with
  | .VX_VSLIDEUP => exactly (if i ≥ offset then c.read s vs2 (i - offset) else c.read s vd i)
  | .VX_VSLIDEDOWN => exactly (c.gathered s vs2 (i + offset))
  | .VX_VRGATHER => exactly (c.gathered s vs2 offset)

/-- The operation with a scalar operand. -/
def Visgfunct6.scalarForm : Visgfunct6 → Vxsgfunct6
  | .VI_VSLIDEUP => .VX_VSLIDEUP
  | .VI_VSLIDEDOWN => .VX_VSLIDEDOWN
  | .VI_VRGATHER => .VX_VRGATHER

/-- The elements of `MVXTYPE`. -/
def Mvxfunct6.elemOrSlide (f : Mvxfunct6) (s : State) (c : VConf) (vs2 : Regidx)
    (x : BitVec c.sew) (i : ℕ) : BitVec c.sew × Bool :=
  match f with
  | .MVX_VSLIDE1UP => exactly (if i = 0 then x else c.read s vs2 (i - 1))
  | .MVX_VSLIDE1DOWN =>
      exactly (if (i : ℤ) < (s.vl.toNat : ℤ) - 1 then c.read s vs2 (i + 1) else x)
  | f => f.elem s.rounding (c.read s vs2 i) x

/-- An element of the `2 ^ k`-th part of the width, extended. -/
def VConf.extended (c : VConf) (s : State) (k : ℕ) (signed : Bool) (vs2 : Regidx) (i : ℕ) :
    BitVec c.sew :=
  if signed then ((c.narrow k).read s vs2 i).signExtend c.sew
  else ((c.narrow k).read s vs2 i).setWidth c.sew

/-! ## The table -/

/-- What an instruction computes from the registers in `s`; `none` for the move of whole
registers, those from and to an integer register, and the compression. -/
def VextArithInst.spec (s : State) (c : VConf) : VextArithInst → Option VecSpec
  | .VVTYPE f vm vs2 vs1 vd => some (c.result s vm vd (f.elem s c vs2 vs1))
  | .NVSTYPE f vm vs2 vs1 vd => some (c.result s vm vd fun i =>
      f.scalarForm.elem c.sew (c.widen.read s vs2 i) ((c.read s vs1 i).toNat % c.widen.sew))
  | .NVTYPE f vm vs2 vs1 vd => some (c.result s vm vd fun i =>
      f.scalarForm.elem s.rounding c.sew (c.widen.read s vs2 i)
        ((c.read s vs1 i).toNat % c.widen.sew))
  | .MASKTYPEV vs2 vs1 vd => some (c.mergeResult s vd fun i =>
      exactly (if s.vmask 0#1 i then c.read s vs1 i else c.read s vs2 i))
  | .MOVETYPEV vs1 vd => some (c.result s 1#1 vd fun i => exactly (c.read s vs1 i))
  | .VXTYPE f vm vs2 rs1 vd => some (c.result s vm vd fun i =>
      f.elem s.rounding (c.read s vs2 i) (c.readX s rs1))
  | .NXSTYPE f vm vs2 rs1 vd => some (c.result s vm vd fun i =>
      f.elem c.sew (c.widen.read s vs2 i) ((c.readX s rs1).toNat % c.widen.sew))
  | .NXTYPE f vm vs2 rs1 vd => some (c.result s vm vd fun i =>
      f.elem s.rounding c.sew (c.widen.read s vs2 i) ((c.readX s rs1).toNat % c.widen.sew))
  | .VXSG f vm vs2 rs1 vd => some (c.result s vm vd (f.elem s c vs2 vd (s.X rs1).toNat))
  | .MASKTYPEX vs2 rs1 vd => some (c.mergeResult s vd fun i =>
      exactly (if s.vmask 0#1 i then c.readX s rs1 else c.read s vs2 i))
  | .MOVETYPEX rs1 vd => some (c.result s 1#1 vd fun _ => exactly (c.readX s rs1))
  | .VITYPE f vm vs2 simm vd => some (c.result s vm vd fun i =>
      f.scalarForm.elem s.rounding (c.read s vs2 i) (f.operand c.sew simm))
  | .NISTYPE f vm vs2 simm vd => some (c.result s vm vd fun i =>
      f.scalarForm.elem c.sew (c.widen.read s vs2 i)
        ((simm.signExtend c.sew).toNat % c.widen.sew))
  | .NITYPE f vm vs2 simm vd => some (c.result s vm vd fun i =>
      f.scalarForm.elem s.rounding c.sew (c.widen.read s vs2 i)
        ((simm.signExtend c.sew).toNat % c.widen.sew))
  | .VISG f vm vs2 simm vd =>
      some (c.result s vm vd (f.scalarForm.elem s c vs2 vd (simm.setWidth xlen).toNat))
  | .MASKTYPEI vs2 simm vd => some (c.mergeResult s vd fun i =>
      exactly (if s.vmask 0#1 i then simm.signExtend c.sew else c.read s vs2 i))
  | .MOVETYPEI vd simm => some (c.result s 1#1 vd fun _ => exactly (simm.signExtend c.sew))
  | .VMVRTYPE _ _ _ => none
  | .MVVTYPE f vm vs2 vs1 vd => some (c.result s vm vd fun i =>
      f.scalarForm.elem s.rounding (c.read s vs2 i) (c.read s vs1 i))
  | .MVVMATYPE f vm vs2 vs1 vd => some (c.result s vm vd fun i =>
      f.scalarForm.elem (c.read s vs2 i) (c.read s vs1 i) (c.read s vd i))
  | .WVVTYPE f vm vs2 vs1 vd => some (c.wideResult s vm vd fun i =>
      exactly (f.scalarForm.elem c.widen.sew (c.read s vs2 i) (c.read s vs1 i)))
  | .WVTYPE f vm vs2 vs1 vd => some (c.wideResult s vm vd fun i =>
      exactly (f.scalarForm.elem (c.widen.read s vs2 i) (c.read s vs1 i)))
  | .WMVVTYPE f vm vs2 vs1 vd => some (c.wideResult s vm vd fun i =>
      exactly (f.scalarForm.elem (c.read s vs2 i) (c.read s vs1 i) (c.widen.read s vd i)))
  | .VEXT2TYPE f vm vs2 vd => some (c.result s vm vd fun i =>
      exactly (c.extended s 1 (f == .VEXT2_SVF2) vs2 i))
  | .VEXT4TYPE f vm vs2 vd => some (c.result s vm vd fun i =>
      exactly (c.extended s 2 (f == .VEXT4_SVF4) vs2 i))
  | .VEXT8TYPE f vm vs2 vd => some (c.result s vm vd fun i =>
      exactly (c.extended s 3 (f == .VEXT8_SVF8) vs2 i))
  | .VMVXS _ _ => none
  | .MVVCOMPRESS _ _ _ => none
  | .MVXTYPE f vm vs2 rs1 vd => some (c.result s vm vd fun i =>
      f.elemOrSlide s c vs2 (c.readX s rs1) i)
  | .MVXMATYPE f vm vs2 rs1 vd => some (c.result s vm vd fun i =>
      f.elem (c.read s vs2 i) (c.readX s rs1) (c.read s vd i))
  | .WVXTYPE f vm vs2 rs1 vd => some (c.wideResult s vm vd fun i =>
      exactly (f.elem c.widen.sew (c.read s vs2 i) (c.readX s rs1)))
  | .WXTYPE f vm vs2 rs1 vd => some (c.wideResult s vm vd fun i =>
      exactly (f.elem (c.widen.read s vs2 i) (c.readX s rs1)))
  | .WMVXTYPE f vm vs2 rs1 vd => some (c.wideResult s vm vd fun i =>
      exactly (f.elem (c.read s vs2 i) (c.readX s rs1) (c.widen.read s vd i)))
  | .VMVSX _ _ => none

end SailRiscv
