/-
# The base instructions

`riscv_insts_base.sail` and `riscv_jalr_seq.sail`: the integer instructions, the jumps and
branches, loads and stores, the fences and the privileged instructions.
-/
import SailRiscv.Insts.Common

namespace SailRiscv

open Bits Platform

/-! ## Instructions -/

inductive Uop where
  | RISCV_LUI | RISCV_AUIPC
  deriving DecidableEq, Repr

inductive Bop where
  | RISCV_BEQ | RISCV_BNE | RISCV_BLT | RISCV_BGE | RISCV_BLTU | RISCV_BGEU
  deriving DecidableEq, Repr

inductive Iop where
  | RISCV_ADDI | RISCV_SLTI | RISCV_SLTIU | RISCV_XORI | RISCV_ORI | RISCV_ANDI
  deriving DecidableEq, Repr

inductive Sop where
  | RISCV_SLLI | RISCV_SRLI | RISCV_SRAI
  deriving DecidableEq, Repr

inductive Rop where
  | RISCV_ADD | RISCV_SUB | RISCV_SLL | RISCV_SLT | RISCV_SLTU | RISCV_XOR | RISCV_SRL
  | RISCV_SRA | RISCV_OR | RISCV_AND
  deriving DecidableEq, Repr

inductive Ropw where
  | RISCV_ADDW | RISCV_SUBW | RISCV_SLLW | RISCV_SRLW | RISCV_SRAW
  deriving DecidableEq, Repr

inductive Sopw where
  | RISCV_SLLIW | RISCV_SRLIW | RISCV_SRAIW
  deriving DecidableEq, Repr

inductive BaseInst where
  | UTYPE (imm : BitVec 20) (rd : Regidx) (op : Uop)
  | RISCV_JAL (imm : BitVec 21) (rd : Regidx)
  | RISCV_JALR (imm : BitVec 12) (rs1 rd : Regidx)
  | BTYPE (imm : BitVec 13) (rs2 rs1 : Regidx) (op : Bop)
  | ITYPE (imm : BitVec 12) (rs1 rd : Regidx) (op : Iop)
  | SHIFTIOP (shamt : BitVec 6) (rs1 rd : Regidx) (op : Sop)
  | RTYPE (rs2 rs1 rd : Regidx) (op : Rop)
  | LOAD (imm : BitVec 12) (rs1 rd : Regidx) (isUnsigned : Bool) (width : WordWidth) (aq rl : Bool)
  | STORE (imm : BitVec 12) (rs2 rs1 : Regidx) (width : WordWidth) (aq rl : Bool)
  | ADDIW (imm : BitVec 12) (rs1 rd : Regidx)
  | RTYPEW (rs2 rs1 rd : Regidx) (op : Ropw)
  | SHIFTIWOP (shamt : BitVec 5) (rs1 rd : Regidx) (op : Sopw)
  | FENCE (pred succ : BitVec 4)
  | FENCE_TSO (pred succ : BitVec 4)
  | ECALL
  | MRET
  | SRET
  | EBREAK
  | WFI
  | SFENCE_VMA (rs1 rs2 : Regidx)
  deriving DecidableEq, Repr

variable [Platform]

/-! ## Decoding -/

/-- `encdec_uop`, read backwards. -/
def decodeUop (b : BitVec 7) : Option Uop :=
  if b = 0b0110111#7 then some .RISCV_LUI
  else if b = 0b0010111#7 then some .RISCV_AUIPC
  else none

/-- `encdec_bop`, read backwards. -/
def decodeBop (b : BitVec 3) : Option Bop :=
  if b = 0b000#3 then some .RISCV_BEQ
  else if b = 0b001#3 then some .RISCV_BNE
  else if b = 0b100#3 then some .RISCV_BLT
  else if b = 0b101#3 then some .RISCV_BGE
  else if b = 0b110#3 then some .RISCV_BLTU
  else if b = 0b111#3 then some .RISCV_BGEU
  else none

/-- `encdec_iop`, read backwards. -/
def decodeIop (b : BitVec 3) : Option Iop :=
  if b = 0b000#3 then some .RISCV_ADDI
  else if b = 0b010#3 then some .RISCV_SLTI
  else if b = 0b011#3 then some .RISCV_SLTIU
  else if b = 0b111#3 then some .RISCV_ANDI
  else if b = 0b110#3 then some .RISCV_ORI
  else if b = 0b100#3 then some .RISCV_XORI
  else none

/-- The clauses of `encdec` for the base instructions, read backwards. -/
def BaseInst.decode (w : BitVec 32) : Option BaseInst :=
  let opcode := bits w 0 7
  let rd := bits w 7 5
  let funct3 := bits w 12 3
  let rs1 := bits w 15 5
  let rs2 := bits w 20 5
  let funct7 := bits w 25 7
  let imm := bits w 20 12
  let shamt := bits w 20 6
  let size := sizeDec (bits w 12 2)
  let rtype (f7 : BitVec 7) (f3 : BitVec 3) : Bool :=
    funct7 == f7 && funct3 == f3 && opcode == 0b0110011#7
  let rtypew (f7 : BitVec 7) (f3 : BitVec 3) : Bool :=
    decide (xlen = 64) && funct7 == f7 && funct3 == f3 && opcode == 0b0111011#7
  let shiftiop (f6 : BitVec 6) (f3 : BitVec 3) : Bool :=
    bits w 26 6 == f6 && funct3 == f3 && opcode == 0b0010011#7
      && (decide (xlen = 64) || bits w 25 1 == 0#1)
  let shiftiwop (f7 : BitVec 7) (f3 : BitVec 3) : Bool :=
    decide (xlen = 64) && funct7 == f7 && funct3 == f3 && opcode == 0b0011011#7
  let isUnsigned := bits w 14 1 == 1#1
  firstClause [
    (decodeUop opcode).map (fun op => .UTYPE (bits w 12 20) rd op),
    clause (opcode == 0b1101111#7)
      (.RISCV_JAL (bits w 31 1 ++ bits w 12 8 ++ bits w 20 1 ++ bits w 25 6 ++ bits w 21 4 ++ 0#1)
        rd),
    clause (funct3 == 0b000#3 && opcode == 0b1100111#7) (.RISCV_JALR imm rs1 rd),
    if opcode = 0b1100011#7 then (decodeBop funct3).map (fun op =>
      .BTYPE (bits w 31 1 ++ bits w 7 1 ++ bits w 25 6 ++ bits w 8 4 ++ 0#1) rs2 rs1 op) else none,
    if opcode = 0b0010011#7 then (decodeIop funct3).map (fun op => .ITYPE imm rs1 rd op) else none,
    clause (shiftiop 0b000000#6 0b001#3) (.SHIFTIOP shamt rs1 rd .RISCV_SLLI),
    clause (shiftiop 0b000000#6 0b101#3) (.SHIFTIOP shamt rs1 rd .RISCV_SRLI),
    clause (shiftiop 0b010000#6 0b101#3) (.SHIFTIOP shamt rs1 rd .RISCV_SRAI),
    clause (rtype 0b0000000#7 0b000#3) (.RTYPE rs2 rs1 rd .RISCV_ADD),
    clause (rtype 0b0000000#7 0b010#3) (.RTYPE rs2 rs1 rd .RISCV_SLT),
    clause (rtype 0b0000000#7 0b011#3) (.RTYPE rs2 rs1 rd .RISCV_SLTU),
    clause (rtype 0b0000000#7 0b111#3) (.RTYPE rs2 rs1 rd .RISCV_AND),
    clause (rtype 0b0000000#7 0b110#3) (.RTYPE rs2 rs1 rd .RISCV_OR),
    clause (rtype 0b0000000#7 0b100#3) (.RTYPE rs2 rs1 rd .RISCV_XOR),
    clause (rtype 0b0000000#7 0b001#3) (.RTYPE rs2 rs1 rd .RISCV_SLL),
    clause (rtype 0b0000000#7 0b101#3) (.RTYPE rs2 rs1 rd .RISCV_SRL),
    clause (rtype 0b0100000#7 0b000#3) (.RTYPE rs2 rs1 rd .RISCV_SUB),
    clause (rtype 0b0100000#7 0b101#3) (.RTYPE rs2 rs1 rd .RISCV_SRA),
    clause (opcode == 0b0000011#7 && (decide (sizeBytes size < xlenBytes)
        || (!isUnsigned && decide (sizeBytes size ≤ xlenBytes))))
      (.LOAD imm rs1 rd isUnsigned size false false),
    clause (bits w 14 1 == 0#1 && opcode == 0b0100011#7 && decide (sizeBytes size ≤ xlenBytes))
      (.STORE (funct7 ++ rd) rs2 rs1 size false false),
    clause (decide (xlen = 64) && funct3 == 0b000#3 && opcode == 0b0011011#7) (.ADDIW imm rs1 rd),
    clause (rtypew 0b0000000#7 0b000#3) (.RTYPEW rs2 rs1 rd .RISCV_ADDW),
    clause (rtypew 0b0100000#7 0b000#3) (.RTYPEW rs2 rs1 rd .RISCV_SUBW),
    clause (rtypew 0b0000000#7 0b001#3) (.RTYPEW rs2 rs1 rd .RISCV_SLLW),
    clause (rtypew 0b0000000#7 0b101#3) (.RTYPEW rs2 rs1 rd .RISCV_SRLW),
    clause (rtypew 0b0100000#7 0b101#3) (.RTYPEW rs2 rs1 rd .RISCV_SRAW),
    clause (shiftiwop 0b0000000#7 0b001#3) (.SHIFTIWOP rs2 rs1 rd .RISCV_SLLIW),
    clause (shiftiwop 0b0000000#7 0b101#3) (.SHIFTIWOP rs2 rs1 rd .RISCV_SRLIW),
    clause (shiftiwop 0b0100000#7 0b101#3) (.SHIFTIWOP rs2 rs1 rd .RISCV_SRAIW),
    clause (bits w 28 4 == 0b0000#4 && bits w 0 20 == 0x0000F#20)
      (.FENCE (bits w 24 4) (bits w 20 4)),
    clause (bits w 28 4 == 0b1000#4 && bits w 0 20 == 0x0000F#20)
      (.FENCE_TSO (bits w 24 4) (bits w 20 4)),
    clause (w == 0x00000073#32) .ECALL,
    clause (w == 0x30200073#32) .MRET,
    clause (w == 0x10200073#32) .SRET,
    clause (w == 0x00100073#32) .EBREAK,
    clause (w == 0x10500073#32) .WFI,
    clause (funct7 == 0b0001001#7 && bits w 0 15 == 0x0073#15) (.SFENCE_VMA rs1 rs2)]

/-! ## Integer computations -/

/-- The match on the operation of `UTYPE`. -/
def Uop.result (op : Uop) (pc off : Xlenbits) : Xlenbits :=
  match op with
  | .RISCV_LUI => off
  | .RISCV_AUIPC => pc + off

/-- The match on the operation of `BTYPE`. -/
def Bop.taken (op : Bop) (a b : Xlenbits) : Bool :=
  match op with
  | .RISCV_BEQ => a == b
  | .RISCV_BNE => a != b
  | .RISCV_BLT => a.slt b
  | .RISCV_BGE => b.sle a
  | .RISCV_BLTU => a.ult b
  | .RISCV_BGEU => b.ule a

/-- The match on the operation of `ITYPE`. -/
def Iop.result (op : Iop) (a imm : Xlenbits) : Xlenbits :=
  match op with
  | .RISCV_ADDI => a + imm
  | .RISCV_SLTI => boolToXlen (a.slt imm)
  | .RISCV_SLTIU => boolToXlen (a.ult imm)
  | .RISCV_ANDI => a &&& imm
  | .RISCV_ORI => a ||| imm
  | .RISCV_XORI => a ^^^ imm

/-- The match on the operation of `SHIFTIOP`. -/
def Sop.result (op : Sop) (a : Xlenbits) (shamt : BitVec 6) : Xlenbits :=
  match op with
  | .RISCV_SLLI => a <<< shiftAmount shamt
  | .RISCV_SRLI => a >>> shiftAmount shamt
  | .RISCV_SRAI => a.sshiftRight (shiftAmount shamt)

/-- The match on the operation of `RTYPE`. -/
def Rop.result (op : Rop) (a b : Xlenbits) : Xlenbits :=
  match op with
  | .RISCV_ADD => a + b
  | .RISCV_SLT => boolToXlen (a.slt b)
  | .RISCV_SLTU => boolToXlen (a.ult b)
  | .RISCV_AND => a &&& b
  | .RISCV_OR => a ||| b
  | .RISCV_XOR => a ^^^ b
  | .RISCV_SLL => a <<< shiftAmount b
  | .RISCV_SRL => a >>> shiftAmount b
  | .RISCV_SUB => a - b
  | .RISCV_SRA => a.sshiftRight (shiftAmount b)

/-- The match on the operation of `RTYPEW`. -/
def Ropw.result (op : Ropw) (a b : BitVec 32) : BitVec 32 :=
  match op with
  | .RISCV_ADDW => a + b
  | .RISCV_SUBW => a - b
  | .RISCV_SLLW => a <<< b.extractLsb' 0 5
  | .RISCV_SRLW => a >>> b.extractLsb' 0 5
  | .RISCV_SRAW => a.sshiftRight (b.extractLsb' 0 5).toNat

/-- The match on the operation of `SHIFTIWOP`. -/
def Sopw.result (op : Sopw) (a : BitVec 32) (shamt : BitVec 5) : BitVec 32 :=
  match op with
  | .RISCV_SLLIW => a <<< shamt
  | .RISCV_SRLIW => a >>> shamt
  | .RISCV_SRAIW => a.sshiftRight shamt.toNat

/-! ## Execution -/

/-- The alignment check of a jump target. -/
def checkTarget (target : Xlenbits) (k : M Retired) : M Retired := do
  if target.getLsbD 1 && !(← Exec.reads (fun s => extensionEnabled s .Zca)) then
    memFault target .E_Fetch_Addr_Align
  else k

/-- Link and jump. -/
def linkTo (rd : Regidx) (target : Xlenbits) : M Retired := do
  wX rd (← getNextPc)
  setNextPc target
  pure .RETIRE_SUCCESS

/-- `execute LOAD`. -/
def executeLoad (imm : BitVec 12) (rs1 rd : Regidx) (isUnsigned : Bool) (width : WordWidth)
    (aq rl : Bool) : M Retired := do
  assert (decide (sizeBytes width ≤ xlenBytes)) ""
  let vaddr ← extDataGetAddr rs1 (imm.signExtend xlen)
  if checkMisaligned vaddr width then memFault vaddr .E_Load_Addr_Align
  else
    onAddress (memFault vaddr) (← translateAddr vaddr .Read) fun paddr => do
      onMemValue (memFault vaddr) (← memRead .Read paddr (sizeBytes width) aq rl false)
        fun result => do
          dcRead paddr
          retireX rd (extendValue isUnsigned result)

/-- `execute STORE`. -/
def executeStore (imm : BitVec 12) (rs2 rs1 : Regidx) (width : WordWidth) (aq rl : Bool) :
    M Retired := do
  assert (decide (sizeBytes width ≤ xlenBytes)) ""
  let vaddr ← extDataGetAddr rs1 (imm.signExtend xlen)
  if checkMisaligned vaddr width then memFault vaddr .E_SAMO_Addr_Align
  else
    onAddress (memFault vaddr) (← translateAddr vaddr .Write) fun paddr => do
      dcWrite paddr
      onMemValue (memFault vaddr)
        (← Exec.checks (fun _ => memWriteEa paddr (sizeBytes width) aq rl false)) fun _ => do
          let rs2Val ← rX rs2
          onStored (memFault vaddr)
            (← memWriteValue paddr (sizeBytes width) (rs2Val.extractLsb' 0 _) aq rl false)
            "store got false from mem_write_value" (pure .RETIRE_SUCCESS)

/-- The exception of an environment call. -/
def ecallException : Privilege → ExceptionType
  | .User => .E_U_EnvCall
  | .Supervisor => .E_S_EnvCall
  | .Machine => .E_M_EnvCall

/-- Return from a trap. -/
def xret (ctl : CtlResult) : M Retired := do
  setNextPc (← exceptionHandler (← Exec.reads State.curPrivilege) ctl (← Exec.reads State.pc))
  pure .RETIRE_SUCCESS

/-- Whether `SRET` is illegal. -/
def sretIllegal (s : State) : Bool :=
  match s.curPrivilege with
  | .User => true
  | .Supervisor => !extensionEnabled s .S || Mstatus.TSR.get s.mstatus == 1#1
  | .Machine => !extensionEnabled s .S

/-- The operand of a fence: `x0` stands for none. -/
def fenceOperand (s : State) (r : Regidx) : Option Xlenbits :=
  if r = 0#5 then none else some (s.X r)

/-- `execute`.  The barriers of the fences have no effect in a sequential model. -/
def BaseInst.execute : BaseInst → M Retired
  | .UTYPE imm rd op => do
      let off : Xlenbits := (imm ++ 0x000#12).signExtend xlen
      retireX rd (op.result (← getArchPc) off)
  | .RISCV_JAL imm rd => do
      let target := (← Exec.reads State.pc) + imm.signExtend xlen
      checkTarget target (linkTo rd target)
  | .RISCV_JALR imm rs1 rd => do
      let t := (← rX rs1) + imm.signExtend xlen
      let target := setRange t 0 0#1
      checkTarget target (linkTo rd target)
  | .BTYPE imm rs2 rs1 op => do
      let rs1Val ← rX rs1
      let rs2Val ← rX rs2
      let target := (← Exec.reads State.pc) + imm.signExtend xlen
      if op.taken rs1Val rs2Val then
        checkTarget target (do setNextPc target; pure .RETIRE_SUCCESS)
      else pure .RETIRE_SUCCESS
  | .ITYPE imm rs1 rd op => do retireX rd (op.result (← rX rs1) (imm.signExtend xlen))
  | .SHIFTIOP shamt rs1 rd op => do retireX rd (op.result (← rX rs1) shamt)
  | .RTYPE rs2 rs1 rd op => do retireX rd (op.result (← rX rs1) (← rX rs2))
  | .LOAD imm rs1 rd isUnsigned width aq rl => executeLoad imm rs1 rd isUnsigned width aq rl
  | .STORE imm rs2 rs1 width aq rl => executeStore imm rs2 rs1 width aq rl
  | .ADDIW imm rs1 rd => do
      let result := imm.signExtend xlen + (← rX rs1)
      retireX rd ((word result).signExtend xlen)
  | .RTYPEW rs2 rs1 rd op => do
      let rs1Val := word (← rX rs1)
      let rs2Val := word (← rX rs2)
      retireX rd ((op.result rs1Val rs2Val).signExtend xlen)
  | .SHIFTIWOP shamt rs1 rd op => do
      let rs1Val := word (← rX rs1)
      retireX rd ((op.result rs1Val shamt).signExtend xlen)
  | .FENCE _ _ => pure .RETIRE_SUCCESS
  | .FENCE_TSO _ _ => pure .RETIRE_SUCCESS
  | .ECALL => do
      handleException (ecallException (← Exec.reads State.curPrivilege))
      pure .RETIRE_FAIL
  | .MRET => do
      if (← Exec.reads State.curPrivilege) ≠ .Machine then illegal else xret .CTL_MRET
  | .SRET => do
      if ← Exec.reads sretIllegal then illegal else xret .CTL_SRET
  | .EBREAK => do memFault (← Exec.reads State.pc) .E_Breakpoint
  | .WFI => do
      let priv ← Exec.reads State.curPrivilege
      let tw ← Exec.reads (fun s => Mstatus.TW.get s.mstatus == 1#1)
      if priv = .User || (priv = .Supervisor && tw) then illegal
      else do
        platformWfi
        pure .RETIRE_SUCCESS
  | .SFENCE_VMA rs1 rs2 => do
      let addr ← Exec.reads (fun s => fenceOperand s rs1)
      let asid ← Exec.reads (fun s => fenceOperand s rs2)
      let priv ← Exec.reads State.curPrivilege
      let m ← Exec.reads State.mstatus
      if priv = .User then illegal
      else if priv = .Supervisor && (architecture (getMstatusSXL m)).isNone then
        internalError "unimplemented sfence architecture"
      else if priv = .Supervisor && Mstatus.TVM.get m == 1#1 then illegal
      else do
        flushTLB asid addr
        pure .RETIRE_SUCCESS

/-! ## What execution does -/

section Settles

set_option synthInstance.maxSize 4000

variable {R : State → State → Prop} [CoreRel R]

/-- The offsets of jumps are even, as the decoder makes them. -/
def BaseInst.EvenOffset : BaseInst → Prop
  | .RISCV_JAL imm _ => imm.getLsbD 0 = false
  | .BTYPE imm _ _ _ => imm.getLsbD 0 = false
  | _ => True

/-- The decoder makes offsets of jumps even: it appends the lowest bit. -/
theorem BaseInst.evenOffset_of_decode {w : BitVec 32} {i : BaseInst}
    (h : BaseInst.decode w = some i) : i.EvenOffset := by
  unfold BaseInst.decode at h
  refine firstClause_some ?_ h
  simp only [List.mem_cons, forall_eq_or_imp, clause_eq_some, Option.map_eq_some_iff,
    List.not_mem_nil, false_imp_iff, implies_true, and_true, Option.ite_none_right_eq_some]
  and_intros
  all_goals
    first
      | rintro _ ⟨-, rfl⟩; trivial
      | rintro _ ⟨-, rfl⟩; exact BitVec.getLsbD_append.trans rfl
      | rintro _ ⟨_, -, rfl⟩; trivial
      | rintro _ ⟨-, _, -, rfl⟩; exact BitVec.getLsbD_append.trans rfl
      | rintro _ ⟨-, _, -, rfl⟩; trivial

/-- The instructions that call the cache simulator. -/
def BaseInst.Traced : BaseInst → Prop
  | .LOAD .. => True
  | .STORE .. => True
  | _ => False

/-- An even offset keeps the parity. -/
theorem getLsbD_zero_add_signExtend {w : ℕ} (hw : 0 < w) (pc : Xlenbits) {imm : BitVec w}
    (h : imm.getLsbD 0 = false) : (pc + imm.signExtend xlen).getLsbD 0 = pc.getLsbD 0 := by
  have hx := xlen_ge
  rw [BitVec.getLsbD_add (by omega), BitVec.getLsbD_signExtend, h]
  simp [hw]

/-- A jump to a target: the exception for a misaligned one, or the step to a legal one. -/
theorem out_checkTarget {s s' : State} {r : Retired} {target : Xlenbits} {k : M Retired}
    (heven : s.pc.getLsbD 0 = false → target.getLsbD 0 = false)
    (hk : JumpTarget s target → k.run s = .ok (r, s') → ¬ Failed r ∧ R s s')
    (h : (checkTarget target k).run s = .ok (r, s')) :
    (¬ Failed r ∧ R s s') ∨ (Failed r ∧ ∃ s₁, R s s₁ ∧ SyncTrap s₁ s') := by
  unfold checkTarget at h
  rw [Exec.run_bind_of_ok (Exec.run_reads _ _)] at h
  by_cases hmis : target.getLsbD 1 && !extensionEnabled s .Zca
  · rw [if_pos hmis] at h
    exact (settles_memFault target _).out h
  · rw [if_neg hmis] at h
    left
    refine hk ⟨heven, ?_⟩ h
    cases hZca : extensionEnabled s .Zca with
    | true => exact Or.inl rfl
    | false =>
        rw [hZca] at hmis
        simpa using hmis

/-- A jump that links. -/
theorem run_linkTo {s s' : State} {r : Retired} {rd : Regidx} {target : Xlenbits}
    (ht : JumpTarget s target) (h : (linkTo rd target).run s = .ok (r, s')) :
    ¬ Failed r ∧ R s s' := by
  unfold linkTo at h
  rw [Exec.run_bind_of_ok (show getNextPc.run s = _ from rfl), Exec.run_bind_of_ok rfl,
    Exec.run_bind_of_ok rfl] at h
  cases h
  have ht' : JumpTarget (s.setX rd s.nextPC) target := by
    unfold State.setX
    split <;> exact ht
  exact ⟨not_failed_success, IsTrans.trans _ _ _ (rel_setX s rd s.nextPC) (CoreRel.jump _ target ht')⟩

instance [TraceClosed R] (imm : BitVec 12) (rs1 rd : Regidx) (isUnsigned : Bool) (width : WordWidth)
    (aq rl : Bool) :
    Exec.Settles R SyncTrap Failed (executeLoad imm rs1 rd isUnsigned width aq rl) := by
  unfold executeLoad
  infer_instance

instance [TraceClosed R] (imm : BitVec 12) (rs2 rs1 : Regidx) (width : WordWidth) (aq rl : Bool) :
    Exec.Settles R SyncTrap Failed (executeStore imm rs2 rs1 width aq rl) := by
  unfold executeStore
  infer_instance

instance settles_handleException (e : ExceptionType) : Exec.Settles R SyncTrap Failed
    (do handleException e; pure .RETIRE_FAIL : M Retired) :=
  settles_trap (fun h => ⟨_, h⟩)

/-- An instruction other than a return from a trap does an integer step and retires or takes
one exception. -/
theorem BaseInst.settles {i : BaseInst} (ht : i.Traced → TraceClosed R) (hm : i ≠ .MRET)
    (hs : i ≠ .SRET) (hw : i = .WFI → ClockClosed R) (heven : i.EvenOffset) :
    Exec.Settles R SyncTrap Failed i.execute := by
  cases i with
  | MRET => exact absurd rfl hm
  | SRET => exact absurd rfl hs
  | RISCV_JAL imm rd =>
      refine ⟨fun h => ?_⟩
      unfold BaseInst.execute at h
      rw [Exec.run_bind_of_ok (Exec.run_reads _ _)] at h
      refine out_checkTarget ?_ run_linkTo h
      intro hpc
      rw [getLsbD_zero_add_signExtend (by decide) _ heven, hpc]
  | RISCV_JALR imm rs1 rd =>
      refine ⟨fun h => ?_⟩
      have hx := xlen_ge
      unfold BaseInst.execute at h
      rw [Exec.run_bind_of_ok (show (rX rs1).run _ = _ from rfl)] at h
      refine out_checkTarget ?_ run_linkTo h
      intro _
      rw [getLsbD_setRange, if_pos (by omega)]
      rfl
  | BTYPE imm rs2 rs1 op =>
      refine ⟨fun {s r s'} h => ?_⟩
      unfold BaseInst.execute at h
      rw [Exec.run_bind_of_ok (show (rX rs1).run s = _ from rfl),
        Exec.run_bind_of_ok (show (rX rs2).run s = _ from rfl),
        Exec.run_bind_of_ok (Exec.run_reads _ _)] at h
      by_cases htaken : op.taken (s.X rs1) (s.X rs2)
      · rw [if_pos htaken] at h
        refine out_checkTarget ?_ ?_ h
        · intro hpc
          rw [getLsbD_zero_add_signExtend (by decide) _ heven, hpc]
        · intro ht hrun
          cases hrun
          exact ⟨not_failed_success, CoreRel.jump s _ ht⟩
      · rw [if_neg htaken] at h
        cases h
        exact Or.inl ⟨not_failed_success, Std.Refl.refl _⟩
  | WFI =>
      have := hw rfl
      unfold BaseInst.execute
      infer_instance
  | LOAD imm rs1 rd isUnsigned width aq rl =>
      have := ht trivial
      unfold BaseInst.execute
      infer_instance
  | STORE imm rs2 rs1 width aq rl =>
      have := ht trivial
      unfold BaseInst.execute
      infer_instance
  | _ =>
      unfold BaseInst.execute
      infer_instance

end Settles

end SailRiscv
