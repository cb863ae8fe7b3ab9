/-
# Basic types of the model

The platform parameters and the enumerations of `riscv_types.sail`, with the
conversions between the enumerations and their encodings.

The width `xlen` of the integer registers is a parameter with the values 32 and 64,
as in the source, where it is fixed when the model is built.  Everything that the
source leaves to the platform (the `sys_enable_*` and `plat_*` externs) is a field of
`Platform`, with the default of the C emulator where that has one.
-/
import SailRiscv.Lib.Bits
import SailRiscv.Lib.Exec

namespace SailRiscv

open Bits

/-! ## The platform -/

/-- What a build of the model and the platform under it fix once and for all. -/
class Platform where
  /-- Width of the integer registers. -/
  xlen : ℕ
  xlen_eq : xlen = 32 ∨ xlen = 64
  /-- Width of the floating-point registers. -/
  flen : ℕ := 64
  flen_eq : flen = 32 ∨ flen = 64 := by decide
  sysEnableWritableMisa : Bool := true
  sysEnableRvc : Bool := true
  sysEnableFdext : Bool := true
  sysEnableSvinval : Bool := false
  sysEnableZcb : Bool := false
  sysEnableZfinx : Bool := false
  sysEnableWritableFiom : Bool := true
  sysEnableVext : Bool := true
  sysEnableBext : Bool := false
  sysEnableZicbom : Bool := false
  sysEnableZicboz : Bool := false
  /-- How many PMP entries are implemented. -/
  sysPmpCount : ℕ := 0
  sysPmpCount_le : sysPmpCount ≤ 64 := by decide
  /-- The PMP grain `G`: the grain size is `2 ^ (G + 2)` bytes. -/
  sysPmpGrain : ℕ := 0
  sysPmpGrain_le : sysPmpGrain ≤ 63 := by decide
  sysWritableHpmCounters : BitVec 32 := 0xFFFFFFFF#32
  sysVectorElenExp : ℕ := 6
  sysVectorElenExp_mem : 3 ≤ sysVectorElenExp ∧ sysVectorElenExp ≤ 16 := by decide
  sysVectorVlenExp : ℕ := 9
  sysVectorVlenExp_mem : 3 ≤ sysVectorVlenExp ∧ sysVectorVlenExp ≤ 16 := by decide
  platCacheBlockSizeExp : ℕ := 6
  platCacheBlockSizeExp_le : platCacheBlockSizeExp ≤ 12 := by decide
  platRamBase : BitVec xlen := 0x80000000#_
  platRamSize : BitVec xlen := 0x4000000#_
  platRomBase : BitVec xlen := 0x1000#_
  platRomSize : BitVec xlen := 0x100#_
  platClintBase : BitVec xlen := 0x2000000#_
  platClintSize : BitVec xlen := 0xc0000#_
  platHtifTohost : BitVec xlen := 0x80001000#_
  /-- Whether the address translation updates the A and D bits of a PTE. -/
  platEnableDirtyUpdate : Bool := false
  platEnableMisalignedAccess : Bool := false
  platMtvalHasIllegalInstBits : Bool := false

export Platform (xlen flen)

/-- An integer register value. -/
abbrev Xlenbits [Platform] := BitVec xlen

section Width

variable [Platform]

theorem xlen_ge : 32 ≤ xlen := by
  rcases Platform.xlen_eq with h | h <;> omega

theorem xlen_le : xlen ≤ 64 := by
  rcases Platform.xlen_eq with h | h <;> omega

end Width

/-! ## Indices of registers and entries -/

instance neZero_16 : NeZero 16 := ⟨by decide⟩

instance neZero_32 : NeZero 32 := ⟨by decide⟩

instance neZero_64 : NeZero 64 := ⟨by decide⟩

/-! ## Builds -/

/-- A build for RV32 with all PMP entries and the grain `G`. -/
@[reducible] def rv32Pmp (G : ℕ) (h : G ≤ 63) : Platform where
  xlen := 32
  xlen_eq := Or.inl rfl
  sysPmpCount := 64
  sysPmpGrain := G
  sysPmpGrain_le := h

/-- A build for RV64 with `n` PMP entries. -/
@[reducible] def rv64Pmp (n : ℕ) (h : n ≤ 64) : Platform where
  xlen := 64
  xlen_eq := Or.inr rfl
  sysPmpCount := n
  sysPmpCount_le := h

/-- A build for RV32 in which address translation updates PTEs or not. -/
@[reducible] def rv32DirtyUpdate (b : Bool) : Platform where
  xlen := 32
  xlen_eq := Or.inl rfl
  platEnableDirtyUpdate := b

/-- A build for RV32 that supports misaligned accesses. -/
@[reducible] def rv32Misaligned : Platform where
  xlen := 32
  xlen_eq := Or.inl rfl
  platEnableMisalignedAccess := true

/-- A build for RV64 with the cache-block instructions. -/
@[reducible] def rv64CacheBlock : Platform :=
  { rv64Pmp 0 (by decide) with sysEnableZicbom := true, sysEnableZicboz := true }

/-- A build for RV32 with the cache-block instructions. -/
@[reducible] def rv32CacheBlock : Platform :=
  { rv32Pmp 0 (by decide) with sysEnableZicbom := true, sysEnableZicboz := true }

/-- A build for RV64 without the C extension. -/
@[reducible] def rv64NoRvc : Platform :=
  { rv64Pmp 0 (by decide) with sysEnableRvc := false }

/-- The number of bytes of an integer register. -/
def xlenBytes [Platform] : ℕ := xlen / 8

theorem xlenBytes_mul_four [Platform] : xlenBytes * 4 = xlen / 2 := by
  unfold xlenBytes
  rcases Platform.xlen_eq with hx | hx <;> rw [hx]

/-! ## Errors of the model -/

/-- The ways in which the model itself stops: a failed assertion, an internal error,
or a construct that is not implemented. -/
inductive ModelError where
  | assertFailed (msg : String)
  | internalError (msg : String)
  | notImplemented (msg : String)
  deriving DecidableEq, Repr

/-! ## Architectures and privileges -/

inductive Architecture where
  | RV32 | RV64 | RV128
  deriving DecidableEq, Repr

/-- `architecture`. -/
def architecture (a : BitVec 2) : Option Architecture :=
  if a = 0b01#2 then some .RV32
  else if a = 0b10#2 then some .RV64
  else if a = 0b11#2 then some .RV128
  else none

/-- `arch_to_bits`. -/
def archToBits : Architecture → BitVec 2
  | .RV32 => 0b01#2
  | .RV64 => 0b10#2
  | .RV128 => 0b11#2

inductive Privilege where
  | User | Supervisor | Machine
  deriving DecidableEq, Repr

/-- `privLevel_to_bits`. -/
def privLevelToBits : Privilege → BitVec 2
  | .User => 0b00#2
  | .Supervisor => 0b01#2
  | .Machine => 0b11#2

/-- `privLevel_of_bits`; the reserved code is an internal error. -/
def privLevelOfBits (p : BitVec 2) : Except ModelError Privilege :=
  if p = 0b00#2 then .ok .User
  else if p = 0b01#2 then .ok .Supervisor
  else if p = 0b11#2 then .ok .Machine
  else .error (.internalError "Invalid privilege level")

@[simp] theorem privLevelOfBits_privLevelToBits (p : Privilege) :
    privLevelOfBits (privLevelToBits p) = .ok p := by
  cases p <;> rfl

/-- Whether an executed instruction retires. -/
inductive Retired where
  | RETIRE_SUCCESS | RETIRE_FAIL
  deriving DecidableEq, Repr

/-! ## Memory accesses -/

/-- `AccessType`; the extension argument of the source carries no information. -/
inductive AccessType where
  | Read | Write | ReadWrite | Execute
  deriving DecidableEq, Repr

inductive WordWidth where
  | BYTE | HALF | WORD | DOUBLE
  deriving DecidableEq, Repr

/-- `size_bytes`. -/
def sizeBytes : WordWidth → ℕ
  | .BYTE => 1
  | .HALF => 2
  | .WORD => 4
  | .DOUBLE => 8

/-- `size_enc`. -/
def sizeEnc : WordWidth → BitVec 2
  | .BYTE => 0b00#2
  | .HALF => 0b01#2
  | .WORD => 0b10#2
  | .DOUBLE => 0b11#2

/-- `size_enc`, read backwards. -/
def sizeDec (b : BitVec 2) : WordWidth :=
  if b = 0b00#2 then .BYTE
  else if b = 0b01#2 then .HALF
  else if b = 0b10#2 then .WORD
  else .DOUBLE

/-! ## Interrupts and exceptions -/

inductive InterruptType where
  | I_U_Software | I_S_Software | I_M_Software
  | I_U_Timer | I_S_Timer | I_M_Timer
  | I_U_External | I_S_External | I_M_External
  deriving DecidableEq, Repr

/-- `interruptType_to_bits`. -/
def interruptTypeToBits : InterruptType → BitVec 8
  | .I_U_Software => 0x00#8
  | .I_S_Software => 0x01#8
  | .I_M_Software => 0x03#8
  | .I_U_Timer => 0x04#8
  | .I_S_Timer => 0x05#8
  | .I_M_Timer => 0x07#8
  | .I_U_External => 0x08#8
  | .I_S_External => 0x09#8
  | .I_M_External => 0x0b#8

inductive ExceptionType where
  | E_Fetch_Addr_Align | E_Fetch_Access_Fault | E_Illegal_Instr | E_Breakpoint
  | E_Load_Addr_Align | E_Load_Access_Fault | E_SAMO_Addr_Align | E_SAMO_Access_Fault
  | E_U_EnvCall | E_S_EnvCall | E_Reserved_10 | E_M_EnvCall
  | E_Fetch_Page_Fault | E_Load_Page_Fault | E_Reserved_14 | E_SAMO_Page_Fault
  | E_Extension
  deriving DecidableEq, Repr

/-- `num_of_ExceptionType`. -/
def numOfExceptionType : ExceptionType → ℕ
  | .E_Fetch_Addr_Align => 0
  | .E_Fetch_Access_Fault => 1
  | .E_Illegal_Instr => 2
  | .E_Breakpoint => 3
  | .E_Load_Addr_Align => 4
  | .E_Load_Access_Fault => 5
  | .E_SAMO_Addr_Align => 6
  | .E_SAMO_Access_Fault => 7
  | .E_U_EnvCall => 8
  | .E_S_EnvCall => 9
  | .E_Reserved_10 => 10
  | .E_M_EnvCall => 11
  | .E_Fetch_Page_Fault => 12
  | .E_Load_Page_Fault => 13
  | .E_Reserved_14 => 14
  | .E_SAMO_Page_Fault => 15
  | .E_Extension => 24

/-- `exceptionType_to_bits`: the code of an exception is its number. -/
def exceptionTypeToBits (e : ExceptionType) : BitVec 8 :=
  BitVec.ofNat 8 (numOfExceptionType e)

/-! ## Trap vectors, extension status, translation modes -/

inductive TrapVectorMode where
  | TV_Direct | TV_Vector | TV_Reserved
  deriving DecidableEq, Repr

/-- `trapVectorMode_of_bits`. -/
def trapVectorModeOfBits (m : BitVec 2) : TrapVectorMode :=
  if m = 0b00#2 then .TV_Direct
  else if m = 0b01#2 then .TV_Vector
  else .TV_Reserved

inductive ExtStatus where
  | Off | Initial | Clean | Dirty
  deriving DecidableEq, Repr

/-- `extStatus_to_bits`. -/
def extStatusToBits : ExtStatus → BitVec 2
  | .Off => 0b00#2
  | .Initial => 0b01#2
  | .Clean => 0b10#2
  | .Dirty => 0b11#2

/-- `extStatus_of_bits`. -/
def extStatusOfBits (e : BitVec 2) : ExtStatus :=
  if e = 0b00#2 then .Off
  else if e = 0b01#2 then .Initial
  else if e = 0b10#2 then .Clean
  else .Dirty

inductive SATPMode where
  | Sbare | Sv32 | Sv39 | Sv48
  deriving DecidableEq, Repr

/-- `satp64Mode_of_bits`. -/
def satp64ModeOfBits (a : Architecture) (m : BitVec 4) : Option SATPMode :=
  if m = 0x0#4 then some .Sbare
  else if a = .RV32 ∧ m = 0x1#4 then some .Sv32
  else if a = .RV64 ∧ m = 0x8#4 then some .Sv39
  else if a = .RV64 ∧ m = 0x9#4 then some .Sv48
  else none

/-- `bool_to_bits`. -/
def boolToBits (b : Bool) : BitVec 1 := BitVec.ofBool b

end SailRiscv
