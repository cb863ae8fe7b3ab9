import SailRiscv.Lib.Bits
import SailRiscv.Lib.Exec
import SailRiscv.Lib.Bytes
import SailRiscv.Lib.Settles
import SailRiscv.Lib.Completes
import SailRiscv.Lib.Plain
import SailRiscv.Types
import SailRiscv.State
import SailRiscv.SysRegs
import SailRiscv.Pmp
import SailRiscv.Csr
import SailRiscv.SysControl
import SailRiscv.Devices
import SailRiscv.Mem
import SailRiscv.Vmem
import SailRiscv.BusSteps
import SailRiscv.VmemPte
import SailRiscv.VmemWalk
import SailRiscv.VmemRuns
import SailRiscv.Pages
import SailRiscv.VmemTlb
import SailRiscv.VmemTransparent
import SailRiscv.VmemWriteback
import SailRiscv.Frame
import SailRiscv.Trap
import SailRiscv.IntStep
import SailRiscv.Insts.Common
import SailRiscv.FpFree
import SailRiscv.Insts.Base
import SailRiscv.Insts.Zicsr
import SailRiscv.Insts.Aext
import SailRiscv.Insts.Mext
import SailRiscv.Insts.Bext
import SailRiscv.Insts.Zext
import SailRiscv.Insts.Kext
import SailRiscv.VextRegs
import SailRiscv.VextUtils
import SailRiscv.VextElems
import SailRiscv.Lib.Rounding
import SailRiscv.FixedPoint
import SailRiscv.Insts.VextVset
import SailRiscv.Insts.VextArith
import SailRiscv.Insts.VextMask
import SailRiscv.Insts.VextMem
import SailRiscv.Insts.VextVm
import SailRiscv.Insts.VextRed
import SailRiscv.FpValues
import SailRiscv.FdextRegs
import SailRiscv.Insts.Fext
import SailRiscv.Insts.Zfa
import SailRiscv.Insts.Zca
import SailRiscv.VextFpUtils
import SailRiscv.Insts.VextFp
import SailRiscv.Insts.Ast
import SailRiscv.Insts.Encode
import SailRiscv.Lib.Concat
import SailRiscv.RoundTrip
import SailRiscv.RoundTripInsts
import SailRiscv.Overlap
import SailRiscv.Step
import SailRiscv.FpFreeInsts
import SailRiscv.VextFree
import SailRiscv.VextFreeInsts
import SailRiscv.FpSteps
import SailRiscv.VextFpSteps
import SailRiscv.DataAccess
import SailRiscv.Lib.ReadOnly
import SailRiscv.Lib.TwoRuns
import SailRiscv.VextRuns
import SailRiscv.VextClauses
import SailRiscv.VextTable
import SailRiscv.VextElements
import SailRiscv.VextMaskRuns
import SailRiscv.Saturation
import SailRiscv.ImmediateForms
import SailRiscv.Lib.Run
import SailRiscv.Lib.TrailingOnes
import SailRiscv.PmpRegs
import SailRiscv.PmpLock
import SailRiscv.PmpCount
import SailRiscv.PmpGrain
import SailRiscv.PmpRule
import SailRiscv.PmpMono
import SailRiscv.WalkSpec
import SailRiscv.Aliasing
import SailRiscv.StepRel
import SailRiscv.AstSteps
import SailRiscv.CsrAccess
import SailRiscv.CounterAccess
import SailRiscv.CsrWrites
import SailRiscv.CsrClocks
import SailRiscv.Interrupts
import SailRiscv.MstatusLegal
import SailRiscv.TrapReturn
import SailRiscv.Timer
import SailRiscv.Htif
import SailRiscv.Counters
import SailRiscv.CycleCounter
import SailRiscv.ExtContext
import SailRiscv.Sstatus
import SailRiscv.VsetContract
import SailRiscv.Stripmining
import SailRiscv.Lib.Gf2Poly
import SailRiscv.CarryLess
import SailRiscv.KextRuns
import SailRiscv.Sha512
import SailRiscv.Lib.Lanes
import SailRiscv.ShiftRows
import SailRiscv.Aes
import SailRiscv.MulDiv
import SailRiscv.Lib.BinaryFloat
import SailRiscv.FpMinMax
import SailRiscv.Fcvtmod
import SailRiscv.NarrowConversions
import SailRiscv.Estimates
import SailRiscv.VextFrame
import SailRiscv.MaskLaws
import SailRiscv.Lib.Returns
import SailRiscv.VextLegality
import SailRiscv.VextLateChecks
import SailRiscv.Sfence
import SailRiscv.LrSc
import SailRiscv.Amo
import SailRiscv.Lib.LineHistory
import SailRiscv.CacheSim
import SailRiscv.CacheSimInv
import SailRiscv.CacheSimRuns
import SailRiscv.CacheBlockEnables
import SailRiscv.DataChecks
import SailRiscv.CacheBlockPermission
import SailRiscv.Mprv
import SailRiscv.Rotations
import SailRiscv.PcAlignment
import SailRiscv.Expansion
import SailRiscv.Aside
import SailRiscv.Abbreviation
import SailRiscv.Disassembly
import SailRiscv.WholeRegister
import SailRiscv.Lib.Elements
import SailRiscv.WholeRestart
import SailRiscv.BelowMachine
import SailRiscv.Confinement
import SailRiscv.InstretCounter
import SailRiscv.Insts.EncodeCompressed
import SailRiscv.CompressedRoundTrip
import SailRiscv.ChecksLegal
import SailRiscv.TranslationCompletes
import SailRiscv.LoadAfterStore
import SailRiscv.Lib.RoundCipher
import SailRiscv.AesProgram
import SailRiscv.InterruptEntry
