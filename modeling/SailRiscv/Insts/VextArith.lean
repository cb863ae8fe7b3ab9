/-
# Vector integer arithmetic

`riscv_insts_vext_arith.sail`: integer and fixed-point arithmetic and the permutation
instructions.
-/
import SailRiscv.VextElems

namespace SailRiscv

open Bits Platform

/-! ## Syntax -/

/-- `vvfunct6`. -/
inductive Vvfunct6 where
  | VV_VADD | VV_VSUB | VV_VMINU | VV_VMIN | VV_VMAXU | VV_VMAX | VV_VAND | VV_VOR | VV_VXOR
  | VV_VRGATHER | VV_VRGATHEREI16 | VV_VSADDU | VV_VSADD | VV_VSSUBU | VV_VSSUB | VV_VSLL
  | VV_VSMUL | VV_VSRL | VV_VSRA | VV_VSSRL | VV_VSSRA
  deriving DecidableEq, Repr

/-- `nvsfunct6`. -/
inductive Nvsfunct6 where
  | NVS_VNSRL | NVS_VNSRA
  deriving DecidableEq, Repr

/-- `nvfunct6`. -/
inductive Nvfunct6 where
  | NV_VNCLIPU | NV_VNCLIP
  deriving DecidableEq, Repr

/-- `vxfunct6`. -/
inductive Vxfunct6 where
  | VX_VADD | VX_VSUB | VX_VRSUB | VX_VMINU | VX_VMIN | VX_VMAXU | VX_VMAX | VX_VAND | VX_VOR
  | VX_VXOR | VX_VSADDU | VX_VSADD | VX_VSSUBU | VX_VSSUB | VX_VSLL | VX_VSMUL | VX_VSRL
  | VX_VSRA | VX_VSSRL | VX_VSSRA
  deriving DecidableEq, Repr

/-- `nxsfunct6`. -/
inductive Nxsfunct6 where
  | NXS_VNSRL | NXS_VNSRA
  deriving DecidableEq, Repr

/-- `nxfunct6`. -/
inductive Nxfunct6 where
  | NX_VNCLIPU | NX_VNCLIP
  deriving DecidableEq, Repr

/-- `vxsgfunct6`. -/
inductive Vxsgfunct6 where
  | VX_VSLIDEUP | VX_VSLIDEDOWN | VX_VRGATHER
  deriving DecidableEq, Repr

/-- `vifunct6`. -/
inductive Vifunct6 where
  | VI_VADD | VI_VRSUB | VI_VAND | VI_VOR | VI_VXOR | VI_VSADDU | VI_VSADD | VI_VSLL | VI_VSRL
  | VI_VSRA | VI_VSSRL | VI_VSSRA
  deriving DecidableEq, Repr

/-- `nisfunct6`. -/
inductive Nisfunct6 where
  | NIS_VNSRL | NIS_VNSRA
  deriving DecidableEq, Repr

/-- `nifunct6`. -/
inductive Nifunct6 where
  | NI_VNCLIPU | NI_VNCLIP
  deriving DecidableEq, Repr

/-- `visgfunct6`. -/
inductive Visgfunct6 where
  | VI_VSLIDEUP | VI_VSLIDEDOWN | VI_VRGATHER
  deriving DecidableEq, Repr

/-- `mvvfunct6`. -/
inductive Mvvfunct6 where
  | MVV_VAADDU | MVV_VAADD | MVV_VASUBU | MVV_VASUB | MVV_VMUL | MVV_VMULH | MVV_VMULHU
  | MVV_VMULHSU | MVV_VDIVU | MVV_VDIV | MVV_VREMU | MVV_VREM
  deriving DecidableEq, Repr

/-- `mvvmafunct6`. -/
inductive Mvvmafunct6 where
  | MVV_VMACC | MVV_VNMSAC | MVV_VMADD | MVV_VNMSUB
  deriving DecidableEq, Repr

/-- `wvvfunct6`. -/
inductive Wvvfunct6 where
  | WVV_VADD | WVV_VSUB | WVV_VADDU | WVV_VSUBU | WVV_VWMUL | WVV_VWMULU | WVV_VWMULSU
  deriving DecidableEq, Repr

/-- `wvfunct6`. -/
inductive Wvfunct6 where
  | WV_VADD | WV_VSUB | WV_VADDU | WV_VSUBU
  deriving DecidableEq, Repr

/-- `wmvvfunct6`. -/
inductive Wmvvfunct6 where
  | WMVV_VWMACCU | WMVV_VWMACC | WMVV_VWMACCSU
  deriving DecidableEq, Repr

/-- `vext2funct6`. -/
inductive Vext2funct6 where
  | VEXT2_ZVF2 | VEXT2_SVF2
  deriving DecidableEq, Repr

/-- `vext4funct6`. -/
inductive Vext4funct6 where
  | VEXT4_ZVF4 | VEXT4_SVF4
  deriving DecidableEq, Repr

/-- `vext8funct6`. -/
inductive Vext8funct6 where
  | VEXT8_ZVF8 | VEXT8_SVF8
  deriving DecidableEq, Repr

/-- `mvxfunct6`. -/
inductive Mvxfunct6 where
  | MVX_VAADDU | MVX_VAADD | MVX_VASUBU | MVX_VASUB | MVX_VSLIDE1UP | MVX_VSLIDE1DOWN | MVX_VMUL
  | MVX_VMULH | MVX_VMULHU | MVX_VMULHSU | MVX_VDIVU | MVX_VDIV | MVX_VREMU | MVX_VREM
  deriving DecidableEq, Repr

/-- `mvxmafunct6`. -/
inductive Mvxmafunct6 where
  | MVX_VMACC | MVX_VNMSAC | MVX_VMADD | MVX_VNMSUB
  deriving DecidableEq, Repr

/-- `wvxfunct6`. -/
inductive Wvxfunct6 where
  | WVX_VADD | WVX_VSUB | WVX_VADDU | WVX_VSUBU | WVX_VWMUL | WVX_VWMULU | WVX_VWMULSU
  deriving DecidableEq, Repr

/-- `wxfunct6`. -/
inductive Wxfunct6 where
  | WX_VADD | WX_VSUB | WX_VADDU | WX_VSUBU
  deriving DecidableEq, Repr

/-- `wmvxfunct6`. -/
inductive Wmvxfunct6 where
  | WMVX_VWMACCU | WMVX_VWMACC | WMVX_VWMACCUS | WMVX_VWMACCSU
  deriving DecidableEq, Repr

/-- The clauses of `ast` for vector integer arithmetic. -/
inductive VextArithInst where
  | VVTYPE (funct6 : Vvfunct6) (vm : BitVec 1) (vs2 vs1 vd : Regidx)
  | NVSTYPE (funct6 : Nvsfunct6) (vm : BitVec 1) (vs2 vs1 vd : Regidx)
  | NVTYPE (funct6 : Nvfunct6) (vm : BitVec 1) (vs2 vs1 vd : Regidx)
  | MASKTYPEV (vs2 vs1 vd : Regidx)
  | MOVETYPEV (vs1 vd : Regidx)
  | VXTYPE (funct6 : Vxfunct6) (vm : BitVec 1) (vs2 rs1 vd : Regidx)
  | NXSTYPE (funct6 : Nxsfunct6) (vm : BitVec 1) (vs2 rs1 vd : Regidx)
  | NXTYPE (funct6 : Nxfunct6) (vm : BitVec 1) (vs2 rs1 vd : Regidx)
  | VXSG (funct6 : Vxsgfunct6) (vm : BitVec 1) (vs2 rs1 vd : Regidx)
  | MASKTYPEX (vs2 rs1 vd : Regidx)
  | MOVETYPEX (rs1 vd : Regidx)
  | VITYPE (funct6 : Vifunct6) (vm : BitVec 1) (vs2 : Regidx) (simm : BitVec 5) (vd : Regidx)
  | NISTYPE (funct6 : Nisfunct6) (vm : BitVec 1) (vs2 simm vd : Regidx)
  | NITYPE (funct6 : Nifunct6) (vm : BitVec 1) (vs2 simm vd : Regidx)
  | VISG (funct6 : Visgfunct6) (vm : BitVec 1) (vs2 : Regidx) (simm : BitVec 5) (vd : Regidx)
  | MASKTYPEI (vs2 : Regidx) (simm : BitVec 5) (vd : Regidx)
  | MOVETYPEI (vd : Regidx) (simm : BitVec 5)
  | VMVRTYPE (vs2 : Regidx) (simm : BitVec 5) (vd : Regidx)
  | MVVTYPE (funct6 : Mvvfunct6) (vm : BitVec 1) (vs2 vs1 vd : Regidx)
  | MVVMATYPE (funct6 : Mvvmafunct6) (vm : BitVec 1) (vs2 vs1 vd : Regidx)
  | WVVTYPE (funct6 : Wvvfunct6) (vm : BitVec 1) (vs2 vs1 vd : Regidx)
  | WVTYPE (funct6 : Wvfunct6) (vm : BitVec 1) (vs2 vs1 vd : Regidx)
  | WMVVTYPE (funct6 : Wmvvfunct6) (vm : BitVec 1) (vs2 vs1 vd : Regidx)
  | VEXT2TYPE (funct6 : Vext2funct6) (vm : BitVec 1) (vs2 vd : Regidx)
  | VEXT4TYPE (funct6 : Vext4funct6) (vm : BitVec 1) (vs2 vd : Regidx)
  | VEXT8TYPE (funct6 : Vext8funct6) (vm : BitVec 1) (vs2 vd : Regidx)
  | VMVXS (vs2 rd : Regidx)
  | MVVCOMPRESS (vs2 vs1 vd : Regidx)
  | MVXTYPE (funct6 : Mvxfunct6) (vm : BitVec 1) (vs2 rs1 vd : Regidx)
  | MVXMATYPE (funct6 : Mvxmafunct6) (vm : BitVec 1) (vs2 rs1 vd : Regidx)
  | WVXTYPE (funct6 : Wvxfunct6) (vm : BitVec 1) (vs2 rs1 vd : Regidx)
  | WXTYPE (funct6 : Wxfunct6) (vm : BitVec 1) (vs2 rs1 vd : Regidx)
  | WMVXTYPE (funct6 : Wmvxfunct6) (vm : BitVec 1) (vs2 rs1 vd : Regidx)
  | VMVSX (rs1 vd : Regidx)
  deriving DecidableEq, Repr

/-! ## Decoding -/

/-- `encdec_vvfunct6`. -/
def encdecVvfunct6 : List (BitVec 6 × Vvfunct6) :=
  [(0b000000, .VV_VADD), (0b000010, .VV_VSUB), (0b000100, .VV_VMINU), (0b000101, .VV_VMIN),
   (0b000110, .VV_VMAXU), (0b000111, .VV_VMAX), (0b001001, .VV_VAND), (0b001010, .VV_VOR),
   (0b001011, .VV_VXOR), (0b001100, .VV_VRGATHER), (0b001110, .VV_VRGATHEREI16),
   (0b100000, .VV_VSADDU), (0b100001, .VV_VSADD), (0b100010, .VV_VSSUBU), (0b100011, .VV_VSSUB),
   (0b100101, .VV_VSLL), (0b100111, .VV_VSMUL), (0b101000, .VV_VSRL), (0b101001, .VV_VSRA),
   (0b101010, .VV_VSSRL), (0b101011, .VV_VSSRA)]

/-- `encdec_nvsfunct6`. -/
def encdecNvsfunct6 : List (BitVec 6 × Nvsfunct6) :=
  [(0b101100, .NVS_VNSRL), (0b101101, .NVS_VNSRA)]

/-- `encdec_nvfunct6`. -/
def encdecNvfunct6 : List (BitVec 6 × Nvfunct6) :=
  [(0b101110, .NV_VNCLIPU), (0b101111, .NV_VNCLIP)]

/-- `encdec_vxfunct6`. -/
def encdecVxfunct6 : List (BitVec 6 × Vxfunct6) :=
  [(0b000000, .VX_VADD), (0b000010, .VX_VSUB), (0b000011, .VX_VRSUB), (0b000100, .VX_VMINU),
   (0b000101, .VX_VMIN), (0b000110, .VX_VMAXU), (0b000111, .VX_VMAX), (0b001001, .VX_VAND),
   (0b001010, .VX_VOR), (0b001011, .VX_VXOR), (0b100000, .VX_VSADDU), (0b100001, .VX_VSADD),
   (0b100010, .VX_VSSUBU), (0b100011, .VX_VSSUB), (0b100101, .VX_VSLL), (0b100111, .VX_VSMUL),
   (0b101000, .VX_VSRL), (0b101001, .VX_VSRA), (0b101010, .VX_VSSRL), (0b101011, .VX_VSSRA)]

/-- `encdec_nxsfunct6`. -/
def encdecNxsfunct6 : List (BitVec 6 × Nxsfunct6) :=
  [(0b101100, .NXS_VNSRL), (0b101101, .NXS_VNSRA)]

/-- `encdec_nxfunct6`. -/
def encdecNxfunct6 : List (BitVec 6 × Nxfunct6) :=
  [(0b101110, .NX_VNCLIPU), (0b101111, .NX_VNCLIP)]

/-- `encdec_vxsgfunct6`. -/
def encdecVxsgfunct6 : List (BitVec 6 × Vxsgfunct6) :=
  [(0b001110, .VX_VSLIDEUP), (0b001111, .VX_VSLIDEDOWN), (0b001100, .VX_VRGATHER)]

/-- `encdec_vifunct6`. -/
def encdecVifunct6 : List (BitVec 6 × Vifunct6) :=
  [(0b000000, .VI_VADD), (0b000011, .VI_VRSUB), (0b001001, .VI_VAND), (0b001010, .VI_VOR),
   (0b001011, .VI_VXOR), (0b100000, .VI_VSADDU), (0b100001, .VI_VSADD), (0b100101, .VI_VSLL),
   (0b101000, .VI_VSRL), (0b101001, .VI_VSRA), (0b101010, .VI_VSSRL), (0b101011, .VI_VSSRA)]

/-- `encdec_nisfunct6`. -/
def encdecNisfunct6 : List (BitVec 6 × Nisfunct6) :=
  [(0b101100, .NIS_VNSRL), (0b101101, .NIS_VNSRA)]

/-- `encdec_nifunct6`. -/
def encdecNifunct6 : List (BitVec 6 × Nifunct6) :=
  [(0b101110, .NI_VNCLIPU), (0b101111, .NI_VNCLIP)]

/-- `encdec_visgfunct6`. -/
def encdecVisgfunct6 : List (BitVec 6 × Visgfunct6) :=
  [(0b001110, .VI_VSLIDEUP), (0b001111, .VI_VSLIDEDOWN), (0b001100, .VI_VRGATHER)]

/-- `encdec_mvvfunct6`. -/
def encdecMvvfunct6 : List (BitVec 6 × Mvvfunct6) :=
  [(0b001000, .MVV_VAADDU), (0b001001, .MVV_VAADD), (0b001010, .MVV_VASUBU),
   (0b001011, .MVV_VASUB), (0b100101, .MVV_VMUL), (0b100111, .MVV_VMULH), (0b100100, .MVV_VMULHU),
   (0b100110, .MVV_VMULHSU), (0b100000, .MVV_VDIVU), (0b100001, .MVV_VDIV),
   (0b100010, .MVV_VREMU), (0b100011, .MVV_VREM)]

/-- `encdec_mvvmafunct6`. -/
def encdecMvvmafunct6 : List (BitVec 6 × Mvvmafunct6) :=
  [(0b101101, .MVV_VMACC), (0b101111, .MVV_VNMSAC), (0b101001, .MVV_VMADD),
   (0b101011, .MVV_VNMSUB)]

/-- `encdec_wvvfunct6`. -/
def encdecWvvfunct6 : List (BitVec 6 × Wvvfunct6) :=
  [(0b110001, .WVV_VADD), (0b110011, .WVV_VSUB), (0b110000, .WVV_VADDU), (0b110010, .WVV_VSUBU),
   (0b111011, .WVV_VWMUL), (0b111000, .WVV_VWMULU), (0b111010, .WVV_VWMULSU)]

/-- `encdec_wvfunct6`. -/
def encdecWvfunct6 : List (BitVec 6 × Wvfunct6) :=
  [(0b110101, .WV_VADD), (0b110111, .WV_VSUB), (0b110100, .WV_VADDU), (0b110110, .WV_VSUBU)]

/-- `encdec_wmvvfunct6`. -/
def encdecWmvvfunct6 : List (BitVec 6 × Wmvvfunct6) :=
  [(0b111100, .WMVV_VWMACCU), (0b111101, .WMVV_VWMACC), (0b111111, .WMVV_VWMACCSU)]

/-- `vext2_vs1`. -/
def vext2Vs1 : List (BitVec 5 × Vext2funct6) :=
  [(0b00110, .VEXT2_ZVF2), (0b00111, .VEXT2_SVF2)]

/-- `vext4_vs1`. -/
def vext4Vs1 : List (BitVec 5 × Vext4funct6) :=
  [(0b00100, .VEXT4_ZVF4), (0b00101, .VEXT4_SVF4)]

/-- `vext8_vs1`. -/
def vext8Vs1 : List (BitVec 5 × Vext8funct6) :=
  [(0b00010, .VEXT8_ZVF8), (0b00011, .VEXT8_SVF8)]

/-- `encdec_mvxfunct6`. -/
def encdecMvxfunct6 : List (BitVec 6 × Mvxfunct6) :=
  [(0b001000, .MVX_VAADDU), (0b001001, .MVX_VAADD), (0b001010, .MVX_VASUBU),
   (0b001011, .MVX_VASUB), (0b001110, .MVX_VSLIDE1UP), (0b001111, .MVX_VSLIDE1DOWN),
   (0b100101, .MVX_VMUL), (0b100111, .MVX_VMULH), (0b100100, .MVX_VMULHU),
   (0b100110, .MVX_VMULHSU), (0b100000, .MVX_VDIVU), (0b100001, .MVX_VDIV),
   (0b100010, .MVX_VREMU), (0b100011, .MVX_VREM)]

/-- `encdec_mvxmafunct6`. -/
def encdecMvxmafunct6 : List (BitVec 6 × Mvxmafunct6) :=
  [(0b101101, .MVX_VMACC), (0b101111, .MVX_VNMSAC), (0b101001, .MVX_VMADD),
   (0b101011, .MVX_VNMSUB)]

/-- `encdec_wvxfunct6`. -/
def encdecWvxfunct6 : List (BitVec 6 × Wvxfunct6) :=
  [(0b110001, .WVX_VADD), (0b110011, .WVX_VSUB), (0b110000, .WVX_VADDU), (0b110010, .WVX_VSUBU),
   (0b111011, .WVX_VWMUL), (0b111000, .WVX_VWMULU), (0b111010, .WVX_VWMULSU)]

/-- `encdec_wxfunct6`. -/
def encdecWxfunct6 : List (BitVec 6 × Wxfunct6) :=
  [(0b110101, .WX_VADD), (0b110111, .WX_VSUB), (0b110100, .WX_VADDU), (0b110110, .WX_VSUBU)]

/-- `encdec_wmvxfunct6`. -/
def encdecWmvxfunct6 : List (BitVec 6 × Wmvxfunct6) :=
  [(0b111100, .WMVX_VWMACCU), (0b111101, .WMVX_VWMACC), (0b111110, .WMVX_VWMACCUS),
   (0b111111, .WMVX_VWMACCSU)]

variable [Platform]

/-- The clauses of `encdec` for vector integer arithmetic, read backwards. -/
def VextArithInst.decode (s : State) (w : BitVec 32) : Option VextArithInst :=
  let opV := bits w 0 7 == 0b1010111#7 && extensionEnabled s .V
  let opivv := opV && bits w 12 3 == 0b000#3
  let opivx := opV && bits w 12 3 == 0b100#3
  let opivi := opV && bits w 12 3 == 0b011#3
  let opmvv := opV && bits w 12 3 == 0b010#3
  let opmvx := opV && bits w 12 3 == 0b110#3
  let vm := vmOf w
  let f6 := funct6Of w
  let (vs2, vs1, vd) := (rs2Of w, rs1Of w, rdOf w)
  firstClause [
    mapped opivv encdecVvfunct6 f6 (.VVTYPE · vm vs2 vs1 vd),
    mapped opivv encdecNvsfunct6 f6 (.NVSTYPE · vm vs2 vs1 vd),
    mapped opivv encdecNvfunct6 f6 (.NVTYPE · vm vs2 vs1 vd),
    clause (opivv && f6 == 0b010111#6 && vm == 0b0#1) (.MASKTYPEV vs2 vs1 vd),
    clause (opivv && f6 == 0b010111#6 && vm == 0b1#1 && vs2 == 0b00000#5) (.MOVETYPEV vs1 vd),
    mapped opivx encdecVxfunct6 f6 (.VXTYPE · vm vs2 vs1 vd),
    mapped opivx encdecNxsfunct6 f6 (.NXSTYPE · vm vs2 vs1 vd),
    mapped opivx encdecNxfunct6 f6 (.NXTYPE · vm vs2 vs1 vd),
    mapped opivx encdecVxsgfunct6 f6 (.VXSG · vm vs2 vs1 vd),
    clause (opivx && f6 == 0b010111#6 && vm == 0b0#1) (.MASKTYPEX vs2 vs1 vd),
    clause (opivx && f6 == 0b010111#6 && vm == 0b1#1 && vs2 == 0b00000#5) (.MOVETYPEX vs1 vd),
    mapped opivi encdecVifunct6 f6 (.VITYPE · vm vs2 vs1 vd),
    mapped opivi encdecNisfunct6 f6 (.NISTYPE · vm vs2 vs1 vd),
    mapped opivi encdecNifunct6 f6 (.NITYPE · vm vs2 vs1 vd),
    mapped opivi encdecVisgfunct6 f6 (.VISG · vm vs2 vs1 vd),
    clause (opivi && f6 == 0b010111#6 && vm == 0b0#1) (.MASKTYPEI vs2 vs1 vd),
    clause (opivi && f6 == 0b010111#6 && vm == 0b1#1 && vs2 == 0b00000#5) (.MOVETYPEI vd vs1),
    clause (opivi && f6 == 0b100111#6 && vm == 0b1#1) (.VMVRTYPE vs2 vs1 vd),
    mapped opmvv encdecMvvfunct6 f6 (.MVVTYPE · vm vs2 vs1 vd),
    mapped opmvv encdecMvvmafunct6 f6 (.MVVMATYPE · vm vs2 vs1 vd),
    mapped opmvv encdecWvvfunct6 f6 (.WVVTYPE · vm vs2 vs1 vd),
    mapped opmvv encdecWvfunct6 f6 (.WVTYPE · vm vs2 vs1 vd),
    mapped opmvv encdecWmvvfunct6 f6 (.WMVVTYPE · vm vs2 vs1 vd),
    mapped (opmvv && f6 == 0b010010#6) vext2Vs1 vs1 (.VEXT2TYPE · vm vs2 vd),
    mapped (opmvv && f6 == 0b010010#6) vext4Vs1 vs1 (.VEXT4TYPE · vm vs2 vd),
    mapped (opmvv && f6 == 0b010010#6) vext8Vs1 vs1 (.VEXT8TYPE · vm vs2 vd),
    clause (opmvv && f6 == 0b010000#6 && vm == 0b1#1 && vs1 == 0b00000#5) (.VMVXS vs2 vd),
    clause (opmvv && f6 == 0b010111#6 && vm == 0b1#1) (.MVVCOMPRESS vs2 vs1 vd),
    mapped opmvx encdecMvxfunct6 f6 (.MVXTYPE · vm vs2 vs1 vd),
    mapped opmvx encdecMvxmafunct6 f6 (.MVXMATYPE · vm vs2 vs1 vd),
    mapped opmvx encdecWvxfunct6 f6 (.WVXTYPE · vm vs2 vs1 vd),
    mapped opmvx encdecWxfunct6 f6 (.WXTYPE · vm vs2 vs1 vd),
    mapped opmvx encdecWmvxfunct6 f6 (.WMVXTYPE · vm vs2 vs1 vd),
    clause (opmvx && f6 == 0b010000#6 && vm == 0b1#1 && vs2 == 0b00000#5) (.VMVSX vs1 vd)]

/-! ## Operands and a result of one width -/

/-- The clauses whose operands and result have the width in force: the check, the operands,
the loop. -/
def sameWidth {β : VConf → Type} (vm : BitVec 1) (vd vs2 : Regidx)
    (src1 : (c : VConf) → M (β c))
    (elem : (c : VConf) → β c → (v2 old : ℕ → BitVec c.sew) → ℕ → M (Option (BitVec c.sew))) :
    M Retired := do
  let c ← vconf
  orIllegal (fun s => illegalNormal s vd vm) do
    let vmVal ← readVmask c.n vm 0b00000#5
    let v1 ← src1 c
    let v2 ← c.group vs2
    let old ← c.group vd
    writeElems c.n c.sew c.lmul vd old vmVal (elem c v1 v2 old)

/-- `VV_VRGATHER`: the element with the index `idx`; `overlap` is the check in the loop. -/
def gather (c : VConf) (overlap : Bool) (idx : M ℕ) (v2 : ℕ → BitVec c.sew) :
    M (Option (BitVec c.sew)) :=
  if overlap then pure none
  else do
    let idx ← idx
    assert (decide (c.vlmax ≤ c.n)) "VLMAX <= 'n"
    just (if idx < c.vlmax then v2 idx else 0#_)

/-- `VX_VSLIDEUP`. -/
def slideUp (c : VConf) (overlap : Bool) (offset : ℕ) (v2 old : ℕ → BitVec c.sew) (i : ℕ) :
    M (Option (BitVec c.sew)) :=
  if overlap then pure none else just (if i ≥ offset then v2 (i - offset) else old i)

/-- `VX_VSLIDEDOWN`. -/
def slideDown (c : VConf) (offset : ℕ) (v2 : ℕ → BitVec c.sew) (i : ℕ) :
    M (Option (BitVec c.sew)) := do
  assert (decide (c.vlmax > 0 ∧ c.vlmax ≤ c.n)) "VLMAX > 0 & VLMAX <= 'n"
  just (if i + offset < c.vlmax then v2 (i + offset) else 0#_)

/-- `execute VVTYPE`. -/
def executeVVTYPE (funct6 : Vvfunct6) (vm : BitVec 1) (vs2 vs1 vd : Regidx) : M Retired :=
  sameWidth vm vd vs2 (fun c => c.group vs1) fun c v1 v2 _ i =>
    match funct6 with
    | .VV_VADD => just (v2 i + v1 i)
    | .VV_VSUB => just (v2 i - v1 i)
    | .VV_VAND => just (v2 i &&& v1 i)
    | .VV_VOR => just (v2 i ||| v1 i)
    | .VV_VXOR => just (v2 i ^^^ v1 i)
    | .VV_VSADDU => value (vsaddu (v2 i) (v1 i))
    | .VV_VSADD => value (vsadd (v2 i) (v1 i))
    | .VV_VSSUBU => value (vssubu (v2 i) (v1 i))
    | .VV_VSSUB => value (vssub (v2 i) (v1 i))
    | .VV_VSMUL => value (vsmul (v2 i) (v1 i))
    | .VV_VSLL => value (vsll (v2 i) (v1 i))
    | .VV_VSRL => value (vsrl (v2 i) (v1 i))
    | .VV_VSRA => value (vsra (v2 i) (v1 i))
    | .VV_VSSRL => value (vssrl (v2 i) (v1 i))
    | .VV_VSSRA => value (vssra (v2 i) (v1 i))
    | .VV_VMINU => just (vminu (v2 i) (v1 i))
    | .VV_VMIN => just (vmin (v2 i) (v1 i))
    | .VV_VMAXU => just (vmaxu (v2 i) (v1 i))
    | .VV_VMAX => just (vmax (v2 i) (v1 i))
    | .VV_VRGATHER => gather c (vs1 == vd || vs2 == vd) (pure (v1 i).toNat) v2
    | .VV_VRGATHEREI16 =>
        gather c (vs1 == vd || vs2 == vd) (do
          let v1New ← readVreg c.n 16 (4 + c.lmul - c.sewPow) vs1
          pure (v1New i).toNat) v2

/-- `execute VXTYPE`. -/
def executeVXTYPE (funct6 : Vxfunct6) (vm : BitVec 1) (vs2 rs1 vd : Regidx) : M Retired :=
  sameWidth vm vd vs2 (fun c => c.scalar rs1) fun _ rs1Val v2 _ i =>
    match funct6 with
    | .VX_VADD => just (v2 i + rs1Val)
    | .VX_VSUB => just (v2 i - rs1Val)
    | .VX_VRSUB => just (rs1Val - v2 i)
    | .VX_VAND => just (v2 i &&& rs1Val)
    | .VX_VOR => just (v2 i ||| rs1Val)
    | .VX_VXOR => just (v2 i ^^^ rs1Val)
    | .VX_VSADDU => value (vsaddu (v2 i) rs1Val)
    | .VX_VSADD => value (vsadd (v2 i) rs1Val)
    | .VX_VSSUBU => value (vssubu (v2 i) rs1Val)
    | .VX_VSSUB => value (vssub (v2 i) rs1Val)
    | .VX_VSMUL => value (vsmul (v2 i) rs1Val)
    | .VX_VSLL => value (vsll (v2 i) rs1Val)
    | .VX_VSRL => value (vsrl (v2 i) rs1Val)
    | .VX_VSRA => value (vsra (v2 i) rs1Val)
    | .VX_VSSRL => value (vssrl (v2 i) rs1Val)
    | .VX_VSSRA => value (vssra (v2 i) rs1Val)
    | .VX_VMINU => just (vminu (v2 i) rs1Val)
    | .VX_VMIN => just (vmin (v2 i) rs1Val)
    | .VX_VMAXU => just (vmaxu (v2 i) rs1Val)
    | .VX_VMAX => just (vmax (v2 i) rs1Val)

/-- `execute VITYPE`; the shift amounts are the zero-extended immediate. -/
def executeVITYPE (funct6 : Vifunct6) (vm : BitVec 1) (vs2 : Regidx) (simm : BitVec 5)
    (vd : Regidx) : M Retired :=
  sameWidth vm vd vs2 (fun c => c.imm simm) fun c immVal v2 _ i =>
    match funct6 with
    | .VI_VADD => just (v2 i + immVal)
    | .VI_VRSUB => just (immVal - v2 i)
    | .VI_VAND => just (v2 i &&& immVal)
    | .VI_VOR => just (v2 i ||| immVal)
    | .VI_VXOR => just (v2 i ^^^ immVal)
    | .VI_VSADDU => value (vsaddu (v2 i) immVal)
    | .VI_VSADD => value (vsadd (v2 i) immVal)
    | .VI_VSLL => value (vsll (v2 i) (simm.setWidth c.sew))
    | .VI_VSRL => value (vsrl (v2 i) (simm.setWidth c.sew))
    | .VI_VSRA => value (vsra (v2 i) (simm.setWidth c.sew))
    | .VI_VSSRL => value (vssrl (v2 i) (simm.setWidth c.sew))
    | .VI_VSSRA => value (vssra (v2 i) (simm.setWidth c.sew))

/-- `rs1` as an offset or index of `XLEN` bits. -/
def offsetX (rs1 : Regidx) : M ℕ := do
  let v ← rX rs1
  pure v.toNat

/-- An immediate as an offset or index. -/
def offsetI (simm : BitVec 5) : M ℕ := pure (simm.setWidth xlen).toNat

/-- `execute VXSG`. -/
def executeVXSG (funct6 : Vxsgfunct6) (vm : BitVec 1) (vs2 rs1 vd : Regidx) : M Retired :=
  sameWidth vm vd vs2 (fun _ => offsetX rs1) fun c rs1Val v2 old i =>
    match funct6 with
    | .VX_VSLIDEUP => slideUp c (vs2 == vd) rs1Val v2 old i
    | .VX_VSLIDEDOWN => slideDown c rs1Val v2 i
    | .VX_VRGATHER => gather c (vs2 == vd) (pure rs1Val) v2

/-- `execute VISG`. -/
def executeVISG (funct6 : Visgfunct6) (vm : BitVec 1) (vs2 : Regidx) (simm : BitVec 5)
    (vd : Regidx) : M Retired :=
  sameWidth vm vd vs2 (fun _ => offsetI simm) fun c immVal v2 old i =>
    match funct6 with
    | .VI_VSLIDEUP => slideUp c (vs2 == vd) immVal v2 old i
    | .VI_VSLIDEDOWN => slideDown c immVal v2 i
    | .VI_VRGATHER => gather c (vs2 == vd) (pure immVal) v2

/-- `execute MVVTYPE`. -/
def executeMVVTYPE (funct6 : Mvvfunct6) (vm : BitVec 1) (vs2 vs1 vd : Regidx) : M Retired :=
  sameWidth vm vd vs2 (fun c => c.group vs1) fun c v1 v2 _ i =>
    match funct6 with
    | .MVV_VAADDU => value (vaaddu (v2 i) (v1 i))
    | .MVV_VAADD => value (vaadd (v2 i) (v1 i))
    | .MVV_VASUBU => value (vasubu (v2 i) (v1 i))
    | .MVV_VASUB => value (vasub (v2 i) (v1 i))
    | .MVV_VMUL => just (getSliceInt c.sew ((v2 i).toInt * (v1 i).toInt) 0)
    | .MVV_VMULH => just (getSliceInt c.sew ((v2 i).toInt * (v1 i).toInt) c.sew)
    | .MVV_VMULHU => just (getSliceInt c.sew ((v2 i).toNat * (v1 i).toNat) c.sew)
    | .MVV_VMULHSU => just (getSliceInt c.sew ((v2 i).toInt * (v1 i).toNat) c.sew)
    | .MVV_VDIVU => just (vdivu (v2 i) (v1 i))
    | .MVV_VDIV => just (vdiv (v2 i) (v1 i))
    | .MVV_VREMU => just (vremu (v2 i) (v1 i))
    | .MVV_VREM => just (vrem (v2 i) (v1 i))

/-- `execute MVVMATYPE`. -/
def executeMVVMATYPE (funct6 : Mvvmafunct6) (vm : BitVec 1) (vs2 vs1 vd : Regidx) : M Retired :=
  sameWidth vm vd vs2 (fun c => c.group vs1) fun c v1 v2 old i =>
    match funct6 with
    | .MVV_VMACC => just (getSliceInt c.sew ((v1 i).toInt * (v2 i).toInt) 0 + old i)
    | .MVV_VNMSAC => just (old i - getSliceInt c.sew ((v1 i).toInt * (v2 i).toInt) 0)
    | .MVV_VMADD => just (getSliceInt c.sew ((v1 i).toInt * (old i).toInt) 0 + v2 i)
    | .MVV_VNMSUB => just (v2 i - getSliceInt c.sew ((v1 i).toInt * (old i).toInt) 0)

/-- `MVX_VSLIDE1UP`. -/
def slide1Up {m : ℕ} (overlap : Bool) (rs1Val : BitVec m) (v2 : ℕ → BitVec m) (i : ℕ) :
    M (Option (BitVec m)) :=
  if overlap then pure none else just (if i = 0 then rs1Val else v2 (i - 1))

/-- `MVX_VSLIDE1DOWN`. -/
def slide1Down {m : ℕ} (numElem : ℕ) (rs1Val : BitVec m) (v2 : ℕ → BitVec m) (i : ℕ) :
    M (Option (BitVec m)) := do
  let lastElem ← getEndElement
  assert (decide (lastElem < numElem)) "last_elem < num_elem"
  just (if (i : ℤ) < lastElem then v2 (i + 1) else rs1Val)

/-- `execute MVXTYPE`. -/
def executeMVXTYPE (funct6 : Mvxfunct6) (vm : BitVec 1) (vs2 rs1 vd : Regidx) : M Retired :=
  sameWidth vm vd vs2 (fun c => c.scalar rs1) fun c rs1Val v2 _ i =>
    match funct6 with
    | .MVX_VAADDU => value (vaaddu (v2 i) rs1Val)
    | .MVX_VAADD => value (vaadd (v2 i) rs1Val)
    | .MVX_VASUBU => value (vasubu (v2 i) rs1Val)
    | .MVX_VASUB => value (vasub (v2 i) rs1Val)
    | .MVX_VSLIDE1UP => slide1Up (vs2 == vd) rs1Val v2 i
    | .MVX_VSLIDE1DOWN => slide1Down c.n rs1Val v2 i
    | .MVX_VMUL => just (getSliceInt c.sew ((v2 i).toInt * rs1Val.toInt) 0)
    | .MVX_VMULH => just (getSliceInt c.sew ((v2 i).toInt * rs1Val.toInt) c.sew)
    | .MVX_VMULHU => just (getSliceInt c.sew ((v2 i).toNat * rs1Val.toNat) c.sew)
    | .MVX_VMULHSU => just (getSliceInt c.sew ((v2 i).toInt * rs1Val.toNat) c.sew)
    | .MVX_VDIVU => just (vdivu (v2 i) rs1Val)
    | .MVX_VDIV => just (vdiv (v2 i) rs1Val)
    | .MVX_VREMU => just (vremu (v2 i) rs1Val)
    | .MVX_VREM => just (vrem (v2 i) rs1Val)

/-- `execute MVXMATYPE`. -/
def executeMVXMATYPE (funct6 : Mvxmafunct6) (vm : BitVec 1) (vs2 rs1 vd : Regidx) : M Retired :=
  sameWidth vm vd vs2 (fun c => c.scalar rs1) fun c rs1Val v2 old i =>
    match funct6 with
    | .MVX_VMACC => just (getSliceInt c.sew (rs1Val.toInt * (v2 i).toInt) 0 + old i)
    | .MVX_VNMSAC => just (old i - getSliceInt c.sew (rs1Val.toInt * (v2 i).toInt) 0)
    | .MVX_VMADD => just (getSliceInt c.sew (rs1Val.toInt * (old i).toInt) 0 + v2 i)
    | .MVX_VNMSUB => just (v2 i - getSliceInt c.sew (rs1Val.toInt * (old i).toInt) 0)

/-! ## Merges and moves -/

/-- The elements that a merge computes, with the end of a fractional group at the division
by `0 - LMUL_pow` of the source. -/
def mergeBody (c : VConf) (start : ℕ) (last : ℤ) (i : ℕ) : Bool :=
  let realNumElem := if c.lmul ≥ 0 then c.n else c.n / (0 - c.lmul).toNat
  decide (start ≤ i ∧ (i : ℤ) ≤ last ∧ i < realNumElem)

/-- The merges. -/
def executeMerge (vs2 vd : Regidx) (src1 : Src1) : M Retired := do
  let start ← getStartElement
  let last ← getEndElement
  let c ← vconf
  orIllegal (fun s => illegalVdMasked s vd) do
    let vmVal ← readVmask c.n 0#1 0b00000#5
    let v1 ← src1 c
    let v2 ← c.group vs2
    let old ← c.group vd
    writeVreg c.n c.sew c.lmul vd fun i =>
      if mergeBody c start last i then (if vmVal i then v1 i else v2 i) else old i
    endVector

/-- `execute MASKTYPEV`. -/
def executeMASKTYPEV (vs2 vs1 vd : Regidx) : M Retired :=
  executeMerge vs2 vd (srcV vs1)

/-- `execute MASKTYPEX`. -/
def executeMASKTYPEX (vs2 rs1 vd : Regidx) : M Retired :=
  executeMerge vs2 vd (srcX rs1)

/-- `execute MASKTYPEI`. -/
def executeMASKTYPEI (vs2 : Regidx) (simm : BitVec 5) (vd : Regidx) : M Retired :=
  executeMerge vs2 vd (srcI simm)

/-- The moves to all elements. -/
def executeMove (vd : Regidx) (src1 : Src1) : M Retired := do
  let c ← vconf
  orIllegal illegalVdUnmasked do
    let vmVal ← readVmask c.n 1#1 0b00000#5
    let v1 ← src1 c
    let old ← c.group vd
    writeElems c.n c.sew c.lmul vd old vmVal fun i => just (v1 i)

/-- `execute MOVETYPEV`. -/
def executeMOVETYPEV (vs1 vd : Regidx) : M Retired := executeMove vd (srcV vs1)

/-- `execute MOVETYPEX`. -/
def executeMOVETYPEX (rs1 vd : Regidx) : M Retired := executeMove vd (srcX rs1)

/-- `execute MOVETYPEI`. -/
def executeMOVETYPEI (vd : Regidx) (simm : BitVec 5) : M Retired :=
  executeMove vd (srcI simm)

/-- `execute VMVRTYPE`. -/
def executeVMVRTYPE (vs2 : Regidx) (simm : BitVec 5) (vd : Regidx) : M Retired := do
  let start ← getStartElement
  let SEW ← getSew
  let immVal := (simm.setWidth xlen).toNat
  let EMUL := immVal + 1
  orIllegal (fun _ => !(EMUL == 1 || EMUL == 2 || EMUL == 4 || EMUL == 8)) do
    let EMULpow := EMUL.log2
    let numElem ← getNumElem EMULpow SEW
    let _ ← readVmask numElem 1#1 0b00000#5
    let v2 ← readVreg numElem SEW EMULpow vs2
    let old ← readVreg numElem SEW EMULpow vd
    writeVreg numElem SEW EMULpow vd fun i => if i < start then old i else v2 i
    endVector

/-- `execute VMVXS`. -/
def executeVMVXS (vs2 rd : Regidx) : M Retired := do
  let SEW ← getSew
  let numElem ← getNumElem 0 SEW
  orIllegal illegalVdUnmasked do
    assert (decide (numElem > 0)) "num_elem > 0"
    let v2 ← readVreg numElem SEW 0 vs2
    wX rd (if xlen < SEW then slice (v2 0) 0 xlen else (v2 0).signExtend xlen)
    endVector

/-- `execute VMVSX`. -/
def executeVMVSX (rs1 vd : Regidx) : M Retired := do
  let SEW ← getSew
  let numElem ← getNumElem 0 SEW
  orIllegal illegalVdUnmasked do
    assert (decide (numElem > 0)) "num_elem > 0"
    let vmVal ← readVmask numElem 1#1 0b00000#5
    let rs1Val ← getScalar rs1 SEW
    let old ← readVreg numElem SEW 0 vd
    let init ← initMaskedResult numElem 0 old vmVal
    writeVreg numElem SEW 0 vd fun i =>
      if i = 0 then (if init.2 0 then rs1Val else init.1 0) else old i
    endVector

/-- The elements of a compressed vector, and how many there are: those up to `last` that are
set in `mask`.  There are never more than `numElem`, as the source asserts. -/
def compress {m : ℕ} (numElem : ℕ) (last : ℤ) (mask : ℕ → Bool) (v2 : ℕ → BitVec m) :
    (ℕ → BitVec m) × ℕ :=
  forUp numElem (fun _ => 0#m, 0) fun i acc =>
    if decide ((i : ℤ) ≤ last) && mask i then (Function.update acc.1 acc.2 (v2 i), acc.2 + 1)
    else acc

/-- `execute MVVCOMPRESS`. -/
def executeMVVCOMPRESS (vs2 vs1 vd : Regidx) : M Retired := do
  let start ← getStartElement
  let last ← getEndElement
  let c ← vconf
  orIllegal (fun s => start != 0 || vs1 == vd || vs2 == vd || illegalVdUnmasked s) do
    let v1 ← readVmask c.n 0#1 vs1
    let v2 ← c.group vs2
    let old ← c.group vd
    let packed := compress c.n last v1 v2
    writeVreg c.n c.sew c.lmul vd fun i => if i < packed.2 then packed.1 i else old i
    endVector

/-! ## Narrowing, widening and extension -/

/-- The clauses with an operand of twice the width. -/
def narrowing {β : VConf → Type} (vm : BitVec 1) (vd vs2 : Regidx) (src1 : (c : VConf) → M (β c))
    (elem : (c : VConf) → β c → (ℕ → BitVec c.widen.sew) → ℕ → M (BitVec c.sew)) :
    M Retired := do
  let c ← vconf
  orIllegal (fun s => illegalVariableWidth s vd vm c.widen.sew c.widen.lmul
      || !validRegOverlap vs2 vd c.widen.lmul c.lmul) do
    let vmVal ← readVmask c.n vm 0b00000#5
    let old ← c.group vd
    let v1 ← src1 c
    let v2 ← c.widen.group vs2
    let init ← initMaskedResult c.n c.lmul old vmVal
    assert (decide (c.widen.sew ≤ 64)) "SEW_widen <= 64"
    onValue (← forActive c.n init.2 init.1 (fun i => value (elem c v1 v2 i))) fun result => do
      writeVreg c.n c.sew c.lmul vd result
      endVector

/-- `execute NVSTYPE`. -/
def executeNVSTYPE (funct6 : Nvsfunct6) (vm : BitVec 1) (vs2 vs1 vd : Regidx) : M Retired :=
  narrowing vm vd vs2 (fun c => c.group vs1) fun c v1 v2 i =>
    match funct6 with
    | .NVS_VNSRL => vnsrl c.sew (v2 i) (v1 i)
    | .NVS_VNSRA => vnsra c.sew (v2 i) (v1 i)

/-- `execute NVTYPE`. -/
def executeNVTYPE (funct6 : Nvfunct6) (vm : BitVec 1) (vs2 vs1 vd : Regidx) : M Retired :=
  narrowing vm vd vs2 (fun c => c.group vs1) fun c v1 v2 i =>
    match funct6 with
    | .NV_VNCLIPU => vnclipu c.sew (v2 i) (v1 i)
    | .NV_VNCLIP => vnclip c.sew (v2 i) (v1 i)

/-- `execute NXSTYPE`. -/
def executeNXSTYPE (funct6 : Nxsfunct6) (vm : BitVec 1) (vs2 rs1 vd : Regidx) : M Retired :=
  narrowing vm vd vs2 (fun c => c.scalar rs1) fun c rs1Val v2 i =>
    match funct6 with
    | .NXS_VNSRL => vnsrl c.sew (v2 i) rs1Val
    | .NXS_VNSRA => vnsra c.sew (v2 i) rs1Val

/-- `execute NXTYPE`. -/
def executeNXTYPE (funct6 : Nxfunct6) (vm : BitVec 1) (vs2 rs1 vd : Regidx) : M Retired :=
  narrowing vm vd vs2 (fun c => c.scalar rs1) fun c rs1Val v2 i =>
    match funct6 with
    | .NX_VNCLIPU => vnclipu c.sew (v2 i) rs1Val
    | .NX_VNCLIP => vnclip c.sew (v2 i) rs1Val

/-- `execute NISTYPE`; the shift amounts are the sign-extended immediate. -/
def executeNISTYPE (funct6 : Nisfunct6) (vm : BitVec 1) (vs2 simm vd : Regidx) : M Retired :=
  narrowing vm vd vs2 (fun c => c.imm simm) fun c immVal v2 i =>
    match funct6 with
    | .NIS_VNSRL => vnsrl c.sew (v2 i) immVal
    | .NIS_VNSRA => vnsra c.sew (v2 i) immVal

/-- `execute NITYPE`. -/
def executeNITYPE (funct6 : Nifunct6) (vm : BitVec 1) (vs2 simm vd : Regidx) : M Retired :=
  narrowing vm vd vs2 (fun c => c.imm simm) fun c immVal v2 i =>
    match funct6 with
    | .NI_VNCLIPU => vnclipu c.sew (v2 i) immVal
    | .NI_VNCLIP => vnclip c.sew (v2 i) immVal

/-- The clauses with a result of twice the width, with the checks `overlap` on the operands
of the width in force. -/
def widening {β γ : VConf → Type} (vm : BitVec 1) (vd : Regidx) (overlap : VConf → Bool)
    (src1 : (c : VConf) → M (β c)) (src2 : (c : VConf) → M (γ c))
    (elem : (c : VConf) → β c → γ c → (ℕ → BitVec c.widen.sew) → ℕ → BitVec c.widen.sew) :
    M Retired := do
  let c ← vconf
  orIllegal (fun s => illegalVariableWidth s vd vm c.widen.sew c.widen.lmul || !overlap c) do
    let vmVal ← readVmask c.n vm 0b00000#5
    let old ← c.widen.group vd
    let v1 ← src1 c
    let v2 ← src2 c
    writeElems c.n c.widen.sew c.widen.lmul vd old vmVal (fun i => just (elem c v1 v2 old i))

/-- A source of the width in force does not overlap the destination of twice the width, but
in its highest part. -/
def overlapWiden (c : VConf) (rs vd : Regidx) : Bool :=
  validRegOverlap rs vd c.lmul c.widen.lmul

/-- `execute WVVTYPE`. -/
def executeWVVTYPE (funct6 : Wvvfunct6) (vm : BitVec 1) (vs2 vs1 vd : Regidx) : M Retired :=
  widening vm vd (fun c => overlapWiden c vs1 vd && overlapWiden c vs2 vd)
      (fun c => c.group vs1) (fun c => c.group vs2) fun c v1 v2 _ i =>
    match funct6 with
    | .WVV_VADD => toBits c.widen.sew ((v2 i).toInt + (v1 i).toInt)
    | .WVV_VSUB => toBits c.widen.sew ((v2 i).toInt - (v1 i).toInt)
    | .WVV_VADDU => toBits c.widen.sew ((v2 i).toNat + (v1 i).toNat)
    | .WVV_VSUBU => toBits c.widen.sew ((v2 i).toNat - (v1 i).toNat)
    | .WVV_VWMUL => toBits c.widen.sew ((v2 i).toInt * (v1 i).toInt)
    | .WVV_VWMULU => toBits c.widen.sew ((v2 i).toNat * (v1 i).toNat)
    | .WVV_VWMULSU => toBits c.widen.sew ((v2 i).toInt * (v1 i).toNat)

/-- `execute WVTYPE`. -/
def executeWVTYPE (funct6 : Wvfunct6) (vm : BitVec 1) (vs2 vs1 vd : Regidx) : M Retired :=
  widening vm vd (fun c => overlapWiden c vs1 vd)
      (fun c => c.group vs1) (fun c => c.widen.group vs2) fun c v1 v2 _ i =>
    match funct6 with
    | .WV_VADD => toBits c.widen.sew ((v2 i).toInt + (v1 i).toInt)
    | .WV_VSUB => toBits c.widen.sew ((v2 i).toInt - (v1 i).toInt)
    | .WV_VADDU => toBits c.widen.sew ((v2 i).toNat + (v1 i).toNat)
    | .WV_VSUBU => toBits c.widen.sew ((v2 i).toNat - (v1 i).toNat)

/-- `execute WMVVTYPE`. -/
def executeWMVVTYPE (funct6 : Wmvvfunct6) (vm : BitVec 1) (vs2 vs1 vd : Regidx) : M Retired :=
  widening vm vd (fun c => overlapWiden c vs1 vd && overlapWiden c vs2 vd)
      (fun c => c.group vs1) (fun c => c.group vs2) fun c v1 v2 old i =>
    match funct6 with
    | .WMVV_VWMACC => toBits c.widen.sew ((v1 i).toInt * (v2 i).toInt) + old i
    | .WMVV_VWMACCU => toBits c.widen.sew ((v1 i).toNat * (v2 i).toNat) + old i
    | .WMVV_VWMACCSU => toBits c.widen.sew ((v1 i).toInt * (v2 i).toNat) + old i

/-- `execute WVXTYPE`. -/
def executeWVXTYPE (funct6 : Wvxfunct6) (vm : BitVec 1) (vs2 rs1 vd : Regidx) : M Retired :=
  widening vm vd (fun c => overlapWiden c vs2 vd)
      (fun c => c.scalar rs1) (fun c => c.group vs2) fun c rs1Val v2 _ i =>
    match funct6 with
    | .WVX_VADD => toBits c.widen.sew ((v2 i).toInt + rs1Val.toInt)
    | .WVX_VSUB => toBits c.widen.sew ((v2 i).toInt - rs1Val.toInt)
    | .WVX_VADDU => toBits c.widen.sew ((v2 i).toNat + rs1Val.toNat)
    | .WVX_VSUBU => toBits c.widen.sew ((v2 i).toNat - rs1Val.toNat)
    | .WVX_VWMUL => toBits c.widen.sew ((v2 i).toInt * rs1Val.toInt)
    | .WVX_VWMULU => toBits c.widen.sew ((v2 i).toNat * rs1Val.toNat)
    | .WVX_VWMULSU => toBits c.widen.sew ((v2 i).toInt * rs1Val.toNat)

/-- `execute WXTYPE`. -/
def executeWXTYPE (funct6 : Wxfunct6) (vm : BitVec 1) (vs2 rs1 vd : Regidx) : M Retired :=
  widening vm vd (fun _ => true)
      (fun c => c.scalar rs1) (fun c => c.widen.group vs2) fun c rs1Val v2 _ i =>
    match funct6 with
    | .WX_VADD => toBits c.widen.sew ((v2 i).toInt + rs1Val.toInt)
    | .WX_VSUB => toBits c.widen.sew ((v2 i).toInt - rs1Val.toInt)
    | .WX_VADDU => toBits c.widen.sew ((v2 i).toNat + rs1Val.toNat)
    | .WX_VSUBU => toBits c.widen.sew ((v2 i).toNat - rs1Val.toNat)

/-- `execute WMVXTYPE`. -/
def executeWMVXTYPE (funct6 : Wmvxfunct6) (vm : BitVec 1) (vs2 rs1 vd : Regidx) : M Retired :=
  widening vm vd (fun c => overlapWiden c vs2 vd)
      (fun c => c.scalar rs1) (fun c => c.group vs2) fun c rs1Val v2 old i =>
    match funct6 with
    | .WMVX_VWMACCU => toBits c.widen.sew (rs1Val.toNat * (v2 i).toNat) + old i
    | .WMVX_VWMACC => toBits c.widen.sew (rs1Val.toInt * (v2 i).toInt) + old i
    | .WMVX_VWMACCUS => toBits c.widen.sew (rs1Val.toNat * (v2 i).toInt) + old i
    | .WMVX_VWMACCSU => toBits c.widen.sew (rs1Val.toInt * (v2 i).toNat) + old i

/-- The extensions of elements of the `2 ^ k`-th part of the width; the assertion of
`execute VEXT8TYPE` that this width is smaller always holds. -/
def extension (k : ℕ) (signed : Bool) (vm : BitVec 1) (vs2 vd : Regidx) : M Retired := do
  let c ← vconf
  orIllegal (fun s => illegalVariableWidth s vd vm (c.narrow k).sew (c.narrow k).lmul
      || !validRegOverlap vs2 vd (c.narrow k).lmul c.lmul) do
    let vmVal ← readVmask c.n vm 0b00000#5
    let old ← c.group vd
    let v2 ← (c.narrow k).group vs2
    writeElems c.n c.sew c.lmul vd old vmVal fun i =>
      just (if signed then (v2 i).signExtend c.sew else (v2 i).setWidth c.sew)

/-- `execute VEXT2TYPE`. -/
def executeVEXT2TYPE (funct6 : Vext2funct6) (vm : BitVec 1) (vs2 vd : Regidx) : M Retired :=
  extension 1 (funct6 == .VEXT2_SVF2) vm vs2 vd

/-- `execute VEXT4TYPE`. -/
def executeVEXT4TYPE (funct6 : Vext4funct6) (vm : BitVec 1) (vs2 vd : Regidx) : M Retired :=
  extension 2 (funct6 == .VEXT4_SVF4) vm vs2 vd

/-- `execute VEXT8TYPE`. -/
def executeVEXT8TYPE (funct6 : Vext8funct6) (vm : BitVec 1) (vs2 vd : Regidx) : M Retired :=
  extension 3 (funct6 == .VEXT8_SVF8) vm vs2 vd

/-! ## Execution -/

/-- `execute` of the clauses for vector integer arithmetic. -/
def VextArithInst.execute : VextArithInst → M Retired
  | .VVTYPE f vm vs2 vs1 vd => executeVVTYPE f vm vs2 vs1 vd
  | .NVSTYPE f vm vs2 vs1 vd => executeNVSTYPE f vm vs2 vs1 vd
  | .NVTYPE f vm vs2 vs1 vd => executeNVTYPE f vm vs2 vs1 vd
  | .MASKTYPEV vs2 vs1 vd => executeMASKTYPEV vs2 vs1 vd
  | .MOVETYPEV vs1 vd => executeMOVETYPEV vs1 vd
  | .VXTYPE f vm vs2 rs1 vd => executeVXTYPE f vm vs2 rs1 vd
  | .NXSTYPE f vm vs2 rs1 vd => executeNXSTYPE f vm vs2 rs1 vd
  | .NXTYPE f vm vs2 rs1 vd => executeNXTYPE f vm vs2 rs1 vd
  | .VXSG f vm vs2 rs1 vd => executeVXSG f vm vs2 rs1 vd
  | .MASKTYPEX vs2 rs1 vd => executeMASKTYPEX vs2 rs1 vd
  | .MOVETYPEX rs1 vd => executeMOVETYPEX rs1 vd
  | .VITYPE f vm vs2 simm vd => executeVITYPE f vm vs2 simm vd
  | .NISTYPE f vm vs2 simm vd => executeNISTYPE f vm vs2 simm vd
  | .NITYPE f vm vs2 simm vd => executeNITYPE f vm vs2 simm vd
  | .VISG f vm vs2 simm vd => executeVISG f vm vs2 simm vd
  | .MASKTYPEI vs2 simm vd => executeMASKTYPEI vs2 simm vd
  | .MOVETYPEI vd simm => executeMOVETYPEI vd simm
  | .VMVRTYPE vs2 simm vd => executeVMVRTYPE vs2 simm vd
  | .MVVTYPE f vm vs2 vs1 vd => executeMVVTYPE f vm vs2 vs1 vd
  | .MVVMATYPE f vm vs2 vs1 vd => executeMVVMATYPE f vm vs2 vs1 vd
  | .WVVTYPE f vm vs2 vs1 vd => executeWVVTYPE f vm vs2 vs1 vd
  | .WVTYPE f vm vs2 vs1 vd => executeWVTYPE f vm vs2 vs1 vd
  | .WMVVTYPE f vm vs2 vs1 vd => executeWMVVTYPE f vm vs2 vs1 vd
  | .VEXT2TYPE f vm vs2 vd => executeVEXT2TYPE f vm vs2 vd
  | .VEXT4TYPE f vm vs2 vd => executeVEXT4TYPE f vm vs2 vd
  | .VEXT8TYPE f vm vs2 vd => executeVEXT8TYPE f vm vs2 vd
  | .VMVXS vs2 rd => executeVMVXS vs2 rd
  | .MVVCOMPRESS vs2 vs1 vd => executeMVVCOMPRESS vs2 vs1 vd
  | .MVXTYPE f vm vs2 rs1 vd => executeMVXTYPE f vm vs2 rs1 vd
  | .MVXMATYPE f vm vs2 rs1 vd => executeMVXMATYPE f vm vs2 rs1 vd
  | .WVXTYPE f vm vs2 rs1 vd => executeWVXTYPE f vm vs2 rs1 vd
  | .WXTYPE f vm vs2 rs1 vd => executeWXTYPE f vm vs2 rs1 vd
  | .WMVXTYPE f vm vs2 rs1 vd => executeWMVXTYPE f vm vs2 rs1 vd
  | .VMVSX rs1 vd => executeVMVSX rs1 vd

end SailRiscv
