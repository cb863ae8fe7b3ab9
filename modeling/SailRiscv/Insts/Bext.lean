/-
# Bit manipulation

`riscv_insts_zba.sail`, `riscv_insts_zbb.sail`, `riscv_insts_zbc.sail` and
`riscv_insts_zbs.sail`.
-/
import SailRiscv.Insts.Common

namespace SailRiscv

open Bits Platform

/-! ## Syntax -/

/-- `bropw_zba`. -/
inductive BropwZba where
  | RISCV_ADDUW | RISCV_SH1ADDUW | RISCV_SH2ADDUW | RISCV_SH3ADDUW
  deriving DecidableEq, Repr

/-- `brop_zba`. -/
inductive BropZba where
  | RISCV_SH1ADD | RISCV_SH2ADD | RISCV_SH3ADD
  deriving DecidableEq, Repr

/-- The clauses of `ast` for address generation. -/
inductive ZbaInst where
  | RISCV_SLLIUW (shamt : BitVec 6) (rs1 rd : Regidx)
  | ZBA_RTYPEUW (rs2 rs1 rd : Regidx) (op : BropwZba)
  | ZBA_RTYPE (rs2 rs1 rd : Regidx) (op : BropZba)
  deriving DecidableEq, Repr

/-- `bropw_zbb`. -/
inductive BropwZbb where
  | RISCV_ROLW | RISCV_RORW
  deriving DecidableEq, Repr

/-- `brop_zbb`. -/
inductive BropZbb where
  | RISCV_ANDN | RISCV_ORN | RISCV_XNOR | RISCV_MAX | RISCV_MAXU | RISCV_MIN | RISCV_MINU
  | RISCV_ROL | RISCV_ROR
  deriving DecidableEq, Repr

/-- `extop_zbb`. -/
inductive ExtopZbb where
  | RISCV_SEXTB | RISCV_SEXTH | RISCV_ZEXTH
  deriving DecidableEq, Repr

/-- The clauses of `ast` for basic bit manipulation. -/
inductive ZbbInst where
  | RISCV_RORIW (shamt : BitVec 5) (rs1 rd : Regidx)
  | RISCV_RORI (shamt : BitVec 6) (rs1 rd : Regidx)
  | ZBB_RTYPEW (rs2 rs1 rd : Regidx) (op : BropwZbb)
  | ZBB_RTYPE (rs2 rs1 rd : Regidx) (op : BropZbb)
  | ZBB_EXTOP (rs1 rd : Regidx) (op : ExtopZbb)
  | RISCV_REV8 (rs1 rd : Regidx)
  | RISCV_ORCB (rs1 rd : Regidx)
  | RISCV_CPOP (rs1 rd : Regidx)
  | RISCV_CPOPW (rs1 rd : Regidx)
  | RISCV_CLZ (rs1 rd : Regidx)
  | RISCV_CLZW (rs1 rd : Regidx)
  | RISCV_CTZ (rs1 rd : Regidx)
  | RISCV_CTZW (rs1 rd : Regidx)
  deriving DecidableEq, Repr

/-- The clauses of `ast` for carry-less multiplication. -/
inductive ZbcInst where
  | RISCV_CLMUL (rs2 rs1 rd : Regidx)
  | RISCV_CLMULH (rs2 rs1 rd : Regidx)
  | RISCV_CLMULR (rs2 rs1 rd : Regidx)
  deriving DecidableEq, Repr

/-- `biop_zbs`. -/
inductive BiopZbs where
  | RISCV_BCLRI | RISCV_BEXTI | RISCV_BINVI | RISCV_BSETI
  deriving DecidableEq, Repr

/-- `brop_zbs`. -/
inductive BropZbs where
  | RISCV_BCLR | RISCV_BEXT | RISCV_BINV | RISCV_BSET
  deriving DecidableEq, Repr

/-- The clauses of `ast` for single-bit instructions. -/
inductive ZbsInst where
  | ZBS_IOP (shamt : BitVec 6) (rs1 rd : Regidx) (op : BiopZbs)
  | ZBS_RTYPE (rs2 rs1 rd : Regidx) (op : BropZbs)
  deriving DecidableEq, Repr

variable [Platform]

/-! ## Decoding -/

/-- The clauses of `encdec` for address generation, read backwards. -/
def ZbaInst.decode (s : State) (w : BitVec 32) : Option ZbaInst :=
  let zba := extensionEnabled s .Zba
  let zba64 := extensionEnabled s .Zba && decide (xlen = 64)
  let rtypeuw (f7 : BitVec 7) (f3 : BitVec 3) (op : BropwZba) : Option ZbaInst :=
    clause (isRtype w f7 f3 0b0111011#7 && zba64) (.ZBA_RTYPEUW (rs2Of w) (rs1Of w) (rdOf w) op)
  let rtype (f7 : BitVec 7) (f3 : BitVec 3) (op : BropZba) : Option ZbaInst :=
    clause (isRtype w f7 f3 0b0110011#7 && zba) (.ZBA_RTYPE (rs2Of w) (rs1Of w) (rdOf w) op)
  firstClause [
    clause (bits w 26 6 == 0b000010#6 && bits w 12 3 == 0b001#3 && bits w 0 7 == 0b0011011#7
      && zba64) (.RISCV_SLLIUW (bits w 20 6) (rs1Of w) (rdOf w)),
    rtypeuw 0b0000100#7 0b000#3 .RISCV_ADDUW,
    rtypeuw 0b0010000#7 0b010#3 .RISCV_SH1ADDUW,
    rtypeuw 0b0010000#7 0b100#3 .RISCV_SH2ADDUW,
    rtypeuw 0b0010000#7 0b110#3 .RISCV_SH3ADDUW,
    rtype 0b0010000#7 0b010#3 .RISCV_SH1ADD,
    rtype 0b0010000#7 0b100#3 .RISCV_SH2ADD,
    rtype 0b0010000#7 0b110#3 .RISCV_SH3ADD]

/-- The clauses of `encdec` for basic bit manipulation, read backwards. -/
def ZbbInst.decode (s : State) (w : BitVec 32) : Option ZbbInst :=
  let zbb := extensionEnabled s .Zbb
  let zbbOrZbkb := extensionEnabled s .Zbb || extensionEnabled s .Zbkb
  let rv64 := decide (xlen = 64)
  let rtypew (f7 : BitVec 7) (f3 : BitVec 3) (op : BropwZbb) : Option ZbbInst :=
    clause (isRtype w f7 f3 0b0111011#7 && (zbbOrZbkb && rv64))
      (.ZBB_RTYPEW (rs2Of w) (rs1Of w) (rdOf w) op)
  let rtype (f7 : BitVec 7) (f3 : BitVec 3) (c : Bool) (op : BropZbb) : Option ZbbInst :=
    clause (isRtype w f7 f3 0b0110011#7 && c) (.ZBB_RTYPE (rs2Of w) (rs1Of w) (rdOf w) op)
  let unary (f12 : BitVec 12) (f3 : BitVec 3) (opcode : BitVec 7) (c : Bool)
      (i : Regidx → Regidx → ZbbInst) : Option ZbbInst :=
    clause (bits w 20 12 == f12 && bits w 12 3 == f3 && bits w 0 7 == opcode && c)
      (i (rs1Of w) (rdOf w))
  firstClause [
    clause (isRtype w 0b0110000#7 0b101#3 0b0011011#7 && (zbbOrZbkb && rv64))
      (.RISCV_RORIW (rs2Of w) (rs1Of w) (rdOf w)),
    clause (bits w 26 6 == 0b011000#6 && bits w 12 3 == 0b101#3 && bits w 0 7 == 0b0010011#7
        && (zbbOrZbkb && (rv64 || bits w 25 1 == 0#1)))
      (.RISCV_RORI (bits w 20 6) (rs1Of w) (rdOf w)),
    rtypew 0b0110000#7 0b001#3 .RISCV_ROLW,
    rtypew 0b0110000#7 0b101#3 .RISCV_RORW,
    rtype 0b0100000#7 0b111#3 zbbOrZbkb .RISCV_ANDN,
    rtype 0b0100000#7 0b110#3 zbbOrZbkb .RISCV_ORN,
    rtype 0b0100000#7 0b100#3 zbbOrZbkb .RISCV_XNOR,
    rtype 0b0000101#7 0b110#3 zbb .RISCV_MAX,
    rtype 0b0000101#7 0b111#3 zbb .RISCV_MAXU,
    rtype 0b0000101#7 0b100#3 zbb .RISCV_MIN,
    rtype 0b0000101#7 0b101#3 zbb .RISCV_MINU,
    rtype 0b0110000#7 0b001#3 zbbOrZbkb .RISCV_ROL,
    rtype 0b0110000#7 0b101#3 zbbOrZbkb .RISCV_ROR,
    unary 0b011000000100#12 0b001#3 0b0010011#7 zbb (.ZBB_EXTOP · · .RISCV_SEXTB),
    unary 0b011000000101#12 0b001#3 0b0010011#7 zbb (.ZBB_EXTOP · · .RISCV_SEXTH),
    unary 0b000010000000#12 0b100#3 0b0110011#7 (zbb && decide (xlen = 32))
      (.ZBB_EXTOP · · .RISCV_ZEXTH),
    unary 0b000010000000#12 0b100#3 0b0111011#7 (zbb && rv64) (.ZBB_EXTOP · · .RISCV_ZEXTH),
    unary 0b011010011000#12 0b101#3 0b0010011#7 (zbbOrZbkb && decide (xlen = 32)) .RISCV_REV8,
    unary 0b011010111000#12 0b101#3 0b0010011#7 (zbbOrZbkb && rv64) .RISCV_REV8,
    unary 0b001010000111#12 0b101#3 0b0010011#7 zbb .RISCV_ORCB,
    unary 0b011000000010#12 0b001#3 0b0010011#7 zbb .RISCV_CPOP,
    unary 0b011000000010#12 0b001#3 0b0011011#7 (zbb && rv64) .RISCV_CPOPW,
    unary 0b011000000000#12 0b001#3 0b0010011#7 zbb .RISCV_CLZ,
    unary 0b011000000000#12 0b001#3 0b0011011#7 (zbb && rv64) .RISCV_CLZW,
    unary 0b011000000001#12 0b001#3 0b0010011#7 zbb .RISCV_CTZ,
    unary 0b011000000001#12 0b001#3 0b0011011#7 (zbb && rv64) .RISCV_CTZW]

/-- The clauses of `encdec` for carry-less multiplication, read backwards. -/
def ZbcInst.decode (s : State) (w : BitVec 32) : Option ZbcInst :=
  let zbc := extensionEnabled s .Zbc
  let zbcOrZbkc := extensionEnabled s .Zbc || extensionEnabled s .Zbkc
  let rtype (f3 : BitVec 3) (c : Bool) (i : Regidx → Regidx → Regidx → ZbcInst) :
      Option ZbcInst :=
    clause (isRtype w 0b0000101#7 f3 0b0110011#7 && c) (i (rs2Of w) (rs1Of w) (rdOf w))
  firstClause [
    rtype 0b001#3 zbcOrZbkc .RISCV_CLMUL,
    rtype 0b011#3 zbcOrZbkc .RISCV_CLMULH,
    rtype 0b010#3 zbc .RISCV_CLMULR]

/-- The clauses of `encdec` for single-bit instructions, read backwards. -/
def ZbsInst.decode (s : State) (w : BitVec 32) : Option ZbsInst :=
  let zbs := extensionEnabled s .Zbs
  let iop (f6 : BitVec 6) (f3 : BitVec 3) (op : BiopZbs) : Option ZbsInst :=
    clause (bits w 26 6 == f6 && bits w 12 3 == f3 && bits w 0 7 == 0b0010011#7
        && (zbs && (decide (xlen = 64) || bits w 25 1 == 0#1)))
      (.ZBS_IOP (bits w 20 6) (rs1Of w) (rdOf w) op)
  let rtype (f7 : BitVec 7) (f3 : BitVec 3) (op : BropZbs) : Option ZbsInst :=
    clause (isRtype w f7 f3 0b0110011#7 && zbs) (.ZBS_RTYPE (rs2Of w) (rs1Of w) (rdOf w) op)
  firstClause [
    iop 0b010010#6 0b001#3 .RISCV_BCLRI,
    iop 0b010010#6 0b101#3 .RISCV_BEXTI,
    iop 0b011010#6 0b001#3 .RISCV_BINVI,
    iop 0b001010#6 0b001#3 .RISCV_BSETI,
    rtype 0b0100100#7 0b001#3 .RISCV_BCLR,
    rtype 0b0100100#7 0b101#3 .RISCV_BEXT,
    rtype 0b0110100#7 0b001#3 .RISCV_BINV,
    rtype 0b0010100#7 0b001#3 .RISCV_BSET]

/-! ## Computations -/

/-- The match on the operation of `ZBA_RTYPEUW`. -/
def BropwZba.shamt : BropwZba → BitVec 2
  | .RISCV_ADDUW => 0b00#2
  | .RISCV_SH1ADDUW => 0b01#2
  | .RISCV_SH2ADDUW => 0b10#2
  | .RISCV_SH3ADDUW => 0b11#2

/-- The match on the operation of `ZBA_RTYPE`. -/
def BropZba.shamt : BropZba → BitVec 2
  | .RISCV_SH1ADD => 0b01#2
  | .RISCV_SH2ADD => 0b10#2
  | .RISCV_SH3ADD => 0b11#2

/-- The match on the operation of `ZBB_RTYPEW`. -/
def BropwZbb.result (op : BropwZbb) (rs1Val : BitVec 32) (shamt : BitVec 5) : BitVec 32 :=
  match op with
  | .RISCV_ROLW => rotateBitsLeft rs1Val shamt
  | .RISCV_RORW => rotateBitsRight rs1Val shamt

/-- The match on the operation of `ZBB_RTYPE`. -/
def BropZbb.result (op : BropZbb) (rs1Val rs2Val : Xlenbits) : Xlenbits :=
  match op with
  | .RISCV_ANDN => rs1Val &&& ~~~rs2Val
  | .RISCV_ORN => rs1Val ||| ~~~rs2Val
  | .RISCV_XNOR => ~~~(rs1Val ^^^ rs2Val)
  | .RISCV_MAX => BitVec.ofInt xlen (max rs1Val.toInt rs2Val.toInt)
  | .RISCV_MAXU => BitVec.ofNat xlen (max rs1Val.toNat rs2Val.toNat)
  | .RISCV_MIN => BitVec.ofInt xlen (min rs1Val.toInt rs2Val.toInt)
  | .RISCV_MINU => BitVec.ofNat xlen (min rs1Val.toNat rs2Val.toNat)
  | .RISCV_ROL => if xlen = 32 then rotateBitsLeft rs1Val (rs2Val.extractLsb' 0 5)
      else rotateBitsLeft rs1Val (rs2Val.extractLsb' 0 6)
  | .RISCV_ROR => if xlen = 32 then rotateBitsRight rs1Val (rs2Val.extractLsb' 0 5)
      else rotateBitsRight rs1Val (rs2Val.extractLsb' 0 6)

/-- The match on the operation of `ZBB_EXTOP`. -/
def ExtopZbb.result (op : ExtopZbb) (rs1Val : Xlenbits) : Xlenbits :=
  match op with
  | .RISCV_SEXTB => (rs1Val.extractLsb' 0 8).signExtend xlen
  | .RISCV_SEXTH => (rs1Val.extractLsb' 0 16).signExtend xlen
  | .RISCV_ZEXTH => (rs1Val.extractLsb' 0 16).setWidth xlen

/-- The loop of `RISCV_REV8`. -/
def rev8 (v : Xlenbits) : Xlenbits :=
  forUp (xlen / 8) 0#_ (fun j result =>
    setRange result (8 * j) (v.extractLsb' (xlen - 8 * j - 8) 8))

/-- The loop of `RISCV_ORCB`. -/
def orcb (v : Xlenbits) : Xlenbits :=
  forUp (xlen / 8) 0#_ (fun j result =>
    setRange result (8 * j) (if v.extractLsb' (8 * j) 8 = 0#8 then 0x00#8 else 0xFF#8))

/-- The loops of `RISCV_CPOP` and `RISCV_CPOPW`: the ones among the lowest `n` bits. -/
def countOnes (n : ℕ) (v : Xlenbits) : ℕ :=
  forUp n 0 (fun i result => if v.getLsbD i then result + 1 else result)

/-- One step of counting zeros until a one is met. -/
def countZero (bit : Bool) (r : ℕ × Bool) : ℕ × Bool :=
  if !r.2 then (if !bit then (r.1 + 1, r.2) else (r.1, true)) else r

/-- The loops of `RISCV_CLZ` and `RISCV_CLZW`. -/
def countLeadingZeros (n : ℕ) (v : Xlenbits) : ℕ :=
  (forDown n (0, false) (fun i r => countZero (v.getLsbD i) r)).1

/-- The loops of `RISCV_CTZ` and `RISCV_CTZW`. -/
def countTrailingZeros (n : ℕ) (v : Xlenbits) : ℕ :=
  (forUp n (0, false) (fun i r => countZero (v.getLsbD i) r)).1

/-- The loop of `RISCV_CLMUL`. -/
def clmul (rs1Val rs2Val : Xlenbits) : Xlenbits :=
  forUp xlen 0#_ (fun i result =>
    if rs2Val.getLsbD i then result ^^^ (rs1Val <<< i) else result)

/-- The loop of `RISCV_CLMULH`. -/
def clmulh (rs1Val rs2Val : Xlenbits) : Xlenbits :=
  forUp xlen 0#_ (fun i result =>
    if rs2Val.getLsbD i then result ^^^ (rs1Val >>> (xlen - i)) else result)

/-- The loop of `RISCV_CLMULR`. -/
def clmulr (rs1Val rs2Val : Xlenbits) : Xlenbits :=
  forUp xlen 0#_ (fun i result =>
    if rs2Val.getLsbD i then result ^^^ (rs1Val >>> (xlen - i - 1)) else result)

/-- The mask of a single-bit instruction. -/
def bitMask {n : ℕ} (b : BitVec n) : Xlenbits := 1#_ <<< shiftAmount b

/-- The match on the operation of `ZBS_IOP`. -/
def BiopZbs.result (op : BiopZbs) (rs1Val mask : Xlenbits) : Xlenbits :=
  match op with
  | .RISCV_BCLRI => rs1Val &&& ~~~mask
  | .RISCV_BEXTI => boolToXlen (rs1Val &&& mask != 0#_)
  | .RISCV_BINVI => rs1Val ^^^ mask
  | .RISCV_BSETI => rs1Val ||| mask

/-- The match on the operation of `ZBS_RTYPE`. -/
def BropZbs.result (op : BropZbs) (rs1Val mask : Xlenbits) : Xlenbits :=
  match op with
  | .RISCV_BCLR => rs1Val &&& ~~~mask
  | .RISCV_BEXT => boolToXlen (rs1Val &&& mask != 0#_)
  | .RISCV_BINV => rs1Val ^^^ mask
  | .RISCV_BSET => rs1Val ||| mask

/-! ## Execution -/

/-- `execute` for address generation. -/
def ZbaInst.execute : ZbaInst → M Retired
  | .RISCV_SLLIUW shamt rs1 rd => do
      retireX rd ((word (← rX rs1)).setWidth xlen <<< shamt)
  | .ZBA_RTYPEUW rs2 rs1 rd op => do
      let rs1Val ← rX rs1
      retireX rd (((word rs1Val).setWidth xlen <<< op.shamt) + (← rX rs2))
  | .ZBA_RTYPE rs2 rs1 rd op => do
      let rs1Val ← rX rs1
      retireX rd ((rs1Val <<< op.shamt) + (← rX rs2))

/-- `execute` for basic bit manipulation. -/
def ZbbInst.execute : ZbbInst → M Retired
  | .RISCV_RORIW shamt rs1 rd => do
      retireX rd ((rotateBitsRight (word (← rX rs1)) shamt).signExtend xlen)
  | .RISCV_RORI shamt rs1 rd => do
      let rs1Val ← rX rs1
      retireX rd (if xlen = 32 then rotateBitsRight rs1Val (shamt.extractLsb' 0 5)
        else rotateBitsRight rs1Val shamt)
  | .ZBB_RTYPEW rs2 rs1 rd op => do
      let rs1Val := word (← rX rs1)
      let shamt := (← rX rs2).extractLsb' 0 5
      retireX rd ((op.result rs1Val shamt).signExtend xlen)
  | .ZBB_RTYPE rs2 rs1 rd op => do retireX rd (op.result (← rX rs1) (← rX rs2))
  | .ZBB_EXTOP rs1 rd op => do retireX rd (op.result (← rX rs1))
  | .RISCV_REV8 rs1 rd => do retireX rd (rev8 (← rX rs1))
  | .RISCV_ORCB rs1 rd => do retireX rd (orcb (← rX rs1))
  | .RISCV_CPOP rs1 rd => do retireX rd (BitVec.ofNat xlen (countOnes xlen (← rX rs1)))
  | .RISCV_CPOPW rs1 rd => do retireX rd (BitVec.ofNat xlen (countOnes 32 (← rX rs1)))
  | .RISCV_CLZ rs1 rd => do retireX rd (BitVec.ofNat xlen (countLeadingZeros xlen (← rX rs1)))
  | .RISCV_CLZW rs1 rd => do retireX rd (BitVec.ofNat xlen (countLeadingZeros 32 (← rX rs1)))
  | .RISCV_CTZ rs1 rd => do retireX rd (BitVec.ofNat xlen (countTrailingZeros xlen (← rX rs1)))
  | .RISCV_CTZW rs1 rd => do retireX rd (BitVec.ofNat xlen (countTrailingZeros 32 (← rX rs1)))

/-- `execute` for carry-less multiplication. -/
def ZbcInst.execute : ZbcInst → M Retired
  | .RISCV_CLMUL rs2 rs1 rd => do retireX rd (clmul (← rX rs1) (← rX rs2))
  | .RISCV_CLMULH rs2 rs1 rd => do retireX rd (clmulh (← rX rs1) (← rX rs2))
  | .RISCV_CLMULR rs2 rs1 rd => do retireX rd (clmulr (← rX rs1) (← rX rs2))

/-- `execute` for single-bit instructions. -/
def ZbsInst.execute : ZbsInst → M Retired
  | .ZBS_IOP shamt rs1 rd op => do retireX rd (op.result (← rX rs1) (bitMask shamt))
  | .ZBS_RTYPE rs2 rs1 rd op => do
      let rs1Val ← rX rs1
      retireX rd (op.result rs1Val (bitMask (← rX rs2)))

/-! ## What execution does -/

section Settles

variable {R : State → State → Prop} [CoreRel R]

instance ZbaInst.settles (i : ZbaInst) : Exec.Settles R SyncTrap Failed i.execute := by
  unfold ZbaInst.execute
  rcases i with _ | _ | _ <;> infer_instance

instance ZbbInst.settles (i : ZbbInst) : Exec.Settles R SyncTrap Failed i.execute := by
  unfold ZbbInst.execute
  rcases i with _ | _ | _ | _ | _ | _ | _ | _ | _ | _ | _ | _ | _ <;> infer_instance

instance ZbcInst.settles (i : ZbcInst) : Exec.Settles R SyncTrap Failed i.execute := by
  unfold ZbcInst.execute
  rcases i with _ | _ | _ <;> infer_instance

instance ZbsInst.settles (i : ZbsInst) : Exec.Settles R SyncTrap Failed i.execute := by
  unfold ZbsInst.execute
  rcases i with _ | _ <;> infer_instance

end Settles

end SailRiscv
