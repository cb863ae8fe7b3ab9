/-
# What the execute clauses share

Every clause ends with `RETIRE_SUCCESS` or with an exception and `RETIRE_FAIL`.  The
exceptional ends, and the branches on the results of address translation and of memory
accesses that lead to them, are definitions of their own here.

`Settles` of a clause says that it does an integer step and retires, or does one and takes one
exception.
-/
import SailRiscv.IntStep

namespace SailRiscv

open Bits Platform

variable [Platform]

/-- `regidx`. -/
abbrev Regidx := BitVec 5

/-! ## The ends of a clause -/

/-- `{ handle_illegal(); RETIRE_FAIL }`. -/
def illegal : M Retired := do
  handleIllegal
  pure .RETIRE_FAIL

/-- `{ handle_mem_exception(vaddr, e); RETIRE_FAIL }`. -/
def memFault (vaddr : Xlenbits) (e : ExceptionType) : M Retired := do
  handleMemException vaddr e
  pure .RETIRE_FAIL

/-- `{ X(rd) = v; RETIRE_SUCCESS }`. -/
def retireX (rd : Regidx) (v : Xlenbits) : M Retired := do
  wX rd v
  pure .RETIRE_SUCCESS

/-- The match on the result of `translateAddr`. -/
def onAddress {α : Type} (fault : ExceptionType → M α) (r : TRResult Xlenbits ExceptionType)
    (k : Xlenbits → M α) : M α :=
  match r with
  | .TR_Failure e => fault e
  | .TR_Address paddr => k paddr

/-- The match on the result of a memory operation. -/
def onMemValue {α β : Type} (fault : ExceptionType → M β) (r : MemoryOpResult α)
    (k : α → M β) : M β :=
  match r with
  | .MemException e => fault e
  | .MemValue v => k v

/-- The match on the result of `mem_write_value`. -/
def onStored {α : Type} (fault : ExceptionType → M α) (r : MemoryOpResult Bool) (msg : String)
    (k : M α) : M α :=
  onMemValue fault r (fun b => if b then k else internalError msg)

section Keeps

variable {R : State → State → Prop} {α β : Type}

instance keeps_onAddress (fault : ExceptionType → M α) (r : TRResult Xlenbits ExceptionType)
    (k : Xlenbits → M α) [∀ e, Exec.Keeps R (fault e)] [∀ a, Exec.Keeps R (k a)] :
    Exec.Keeps R (onAddress fault r k) := by
  unfold onAddress
  cases r <;> infer_instance

omit [Platform] in
instance keeps_onMemValue (fault : ExceptionType → M β) (r : MemoryOpResult α) (k : α → M β)
    [∀ e, Exec.Keeps R (fault e)] [∀ a, Exec.Keeps R (k a)] :
    Exec.Keeps R (onMemValue fault r k) := by
  unfold onMemValue
  cases r <;> infer_instance

end Keeps

/-! ## The cache simulator -/

/-- `ic_read`. -/
def icRead (addr : Xlenbits) : M Unit :=
  Exec.update (fun s => { s with
    cacheTrace := s.cacheTrace ++ [.icRead addr] })

/-- `dc_read`. -/
def dcRead (addr : Xlenbits) : M Unit :=
  Exec.update (fun s => { s with
    cacheTrace := s.cacheTrace ++ [.dcRead addr] })

/-- `dc_write`. -/
def dcWrite (addr : Xlenbits) : M Unit :=
  Exec.update (fun s => { s with
    cacheTrace := s.cacheTrace ++ [.dcWrite addr] })

/-! ## Addresses of data accesses -/

/-- `is_aligned`. -/
def isAligned (vaddr : Xlenbits) (width : WordWidth) : Bool :=
  match width with
  | .BYTE => true
  | .HALF => vaddr.extractLsb' 0 1 == 0#1
  | .WORD => vaddr.extractLsb' 0 2 == 0#2
  | .DOUBLE => vaddr.extractLsb' 0 3 == 0#3

/-- `check_misaligned`: the address is misaligned and misaligned accesses are not
supported. -/
def checkMisaligned (vaddr : Xlenbits) (width : WordWidth) : Bool :=
  !platEnableMisalignedAccess && !isAligned vaddr width

/-- `ext_data_get_addr`: a register and an offset. -/
def extDataGetAddr (base : Regidx) (offset : Xlenbits) : M Xlenbits :=
  Exec.reads (fun s => s.X base + offset)

/-- `extend_value`. -/
def extendValue {n : ℕ} (isUnsigned : Bool) (value : BitVec n) : Xlenbits :=
  if isUnsigned then value.setWidth xlen else value.signExtend xlen

/-! ## Decoding -/

/-- The first clause of a mapping that applies. -/
def firstClause {α : Type} (clauses : List (Option α)) : Option α := clauses.findSome? id

/-- A clause of a mapping with its condition. -/
def clause {α : Type} (c : Bool) (i : α) : Option α := if c then some i else none

omit [Platform] in
/-- What every clause gives, the first clause that applies gives. -/
theorem firstClause_some {α : Type} {P : α → Prop} {clauses : List (Option α)} {i : α}
    (hall : ∀ c ∈ clauses, ∀ j, c = some j → P j) (h : firstClause clauses = some i) : P i := by
  unfold firstClause at h
  obtain ⟨c, hc, hi⟩ := List.exists_of_findSome?_eq_some h
  exact hall c hc i hi

omit [Platform] in
theorem clause_eq_some {α : Type} {c : Bool} {i j : α} :
    clause c i = some j ↔ c = true ∧ i = j := by
  unfold clause
  split <;> simp_all

/-- A field of an instruction word. -/
def bits {w : ℕ} (v : BitVec w) (lsb n : ℕ) : BitVec n := v.extractLsb' lsb n

/-- The destination register of an instruction word. -/
def rdOf (w : BitVec 32) : Regidx := bits w 7 5

/-- The first source register of an instruction word. -/
def rs1Of (w : BitVec 32) : Regidx := bits w 15 5

/-- The second source register of an instruction word. -/
def rs2Of (w : BitVec 32) : Regidx := bits w 20 5

/-- The bit `vm` of an instruction word. -/
def vmOf (w : BitVec 32) : BitVec 1 := bits w 25 1

/-- The bits 31..26 of an instruction word. -/
def funct6Of (w : BitVec 32) : BitVec 6 := bits w 26 6

/-- A clause of `encdec` with one field that a mapping encodes. -/
def mapped {α β : Type} {n : ℕ} (c : Bool) (encdec : List (BitVec n × α)) (field : BitVec n)
    (mk : α → β) : Option β :=
  if c then (encdec.lookup field).map mk else none

/-- The fixed fields of a word with three register operands. -/
def isRtype (w : BitVec 32) (funct7 : BitVec 7) (funct3 : BitVec 3) (opcode : BitVec 7) : Bool :=
  bits w 25 7 == funct7 && bits w 12 3 == funct3 && bits w 0 7 == opcode

/-! ## Loops over values -/

/-- `foreach (i from 0 to n - 1)`, changing the value `acc`. -/
def forUp {α : Type} (n : ℕ) (acc : α) (body : ℕ → α → α) : α :=
  match n with
  | 0 => acc
  | n + 1 => body n (forUp n acc body)

/-- `foreach (i from n - 1 downto 0)`, changing the value `acc`. -/
def forDown {α : Type} (n : ℕ) (acc : α) (body : ℕ → α → α) : α :=
  match n with
  | 0 => acc
  | n + 1 => forDown n (body n acc) body

/-- A bit vector with the bit `i` replaced. -/
def setBit {n : ℕ} (v : BitVec n) (i : ℕ) (b : Bool) : BitVec n :=
  setRange v i (BitVec.ofBool b)

omit [Platform] in
/-- A bit of a word with one bit replaced. -/
theorem getLsbD_setBit {n : ℕ} (v : BitVec n) (i j : ℕ) (b : Bool) :
    (setBit v i b).getLsbD j = if j = i then decide (i < n) && b else v.getLsbD j := by
  unfold setBit
  rw [getLsbD_setRange]
  by_cases h : j = i
  · subst h
    by_cases hj : j < n
    · simp [hj]
    · simp [hj, BitVec.getLsbD_of_ge v j (by omega)]
  · rw [if_neg h, if_neg (by omega)]

omit [Platform] in
/-- The bits of a mask that is built bit by bit. -/
theorem getLsbD_forUp_setBit {m : ℕ} (n j : ℕ) (f : ℕ → Bool) :
    (forUp n (0#m) fun i r => setBit r i (f i)).getLsbD j
      = (decide (j < n ∧ j < m) && f j) := by
  induction n with
  | zero =>
      rw [forUp, BitVec.getLsbD_zero]
      simp
  | succ n ih =>
      rw [forUp, getLsbD_setBit, ih]
      by_cases h : j = n
      · subst h
        simp
      · rw [if_neg h]
        congr 1
        rw [decide_eq_decide]
        omega

/-! ## Integer computations -/

/-- The shift amount in a register or an immediate: 5 bits on RV32, 6 on RV64. -/
def shiftAmount {n : ℕ} (b : BitVec n) : ℕ :=
  if xlen = 32 then (b.extractLsb' 0 5).toNat else (b.extractLsb' 0 6).toNat

/-- `>>>`: `rotate_bits_right`. -/
def rotateBitsRight {n m : ℕ} (v : BitVec n) (k : BitVec m) : BitVec n :=
  v >>> k ||| v <<< (BitVec.ofNat m n - k)

/-- `<<<`: `rotate_bits_left`. -/
def rotateBitsLeft {n m : ℕ} (v : BitVec n) (k : BitVec m) : BitVec n :=
  v <<< k ||| v >>> (BitVec.ofNat m n - k)

/-- A comparison as a register value. -/
def boolToXlen (b : Bool) : Xlenbits := (boolToBits b).setWidth xlen

/-- The lower 32 bits of a register. -/
def word (v : Xlenbits) : BitVec 32 := v.extractLsb' 0 32

/-! ## One exception or none -/

/-- The instruction did not retire. -/
def Failed (r : Retired) : Prop := r = .RETIRE_FAIL

omit [Platform] in
/-- Who retires has not failed. -/
theorem not_failed_success : ¬ Failed .RETIRE_SUCCESS := by
  rintro ⟨⟩

/-- A synchronous exception is taken. -/
def SyncTrap (s s' : State) : Prop := ∃ e, (handleSync e).run s = .ok ((), s')

section Settles

variable {R : State → State → Prop} [Std.Refl R]

instance settles_success : Exec.Settles R SyncTrap Failed (pure .RETIRE_SUCCESS : M Retired) where
  out h := by
    cases h
    exact Or.inl ⟨not_failed_success, Std.Refl.refl _⟩

/-- An exception and `RETIRE_FAIL`. -/
theorem settles_trap {m : M Unit}
    (hm : ∀ {s s'}, m.run s = .ok ((), s') → SyncTrap s s') :
    Exec.Settles R SyncTrap Failed (do m; pure .RETIRE_FAIL : M Retired) where
  out h := by
    obtain ⟨u, s₁, hrun, hfail⟩ := Exec.run_bind_ok.mp h
    cases hfail
    exact Or.inr ⟨rfl, _, Std.Refl.refl _, hm hrun⟩

/-- An illegal instruction is one synchronous exception. -/
theorem syncTrap_of_handleIllegal {s s' : State} (h : handleIllegal.run s = .ok ((), s')) :
    SyncTrap s s' := by
  obtain ⟨info, h⟩ := handleIllegal_cases h
  exact ⟨_, h⟩

instance settles_illegal : Exec.Settles R SyncTrap Failed illegal :=
  settles_trap syncTrap_of_handleIllegal

instance settles_memFault (vaddr : Xlenbits) (e : ExceptionType) :
    Exec.Settles R SyncTrap Failed (memFault vaddr e) :=
  settles_trap (fun h => ⟨_, h⟩)

instance settles_internalError {α : Type} {fail : α → Prop} (msg : String) :
    Exec.Settles R SyncTrap fail (internalError msg : M α) := by
  unfold internalError
  infer_instance

instance settles_onAddress {α : Type} {fail : α → Prop} (fault : ExceptionType → M α)
    (r : TRResult Xlenbits ExceptionType) (k : Xlenbits → M α)
    [∀ e, Exec.Settles R SyncTrap fail (fault e)] [∀ a, Exec.Settles R SyncTrap fail (k a)] :
    Exec.Settles R SyncTrap fail (onAddress fault r k) := by
  unfold onAddress
  cases r <;> infer_instance

instance settles_onMemValue {α β : Type} {fail : β → Prop} (fault : ExceptionType → M β)
    (r : MemoryOpResult α) (k : α → M β) [∀ e, Exec.Settles R SyncTrap fail (fault e)]
    [∀ v, Exec.Settles R SyncTrap fail (k v)] :
    Exec.Settles R SyncTrap fail (onMemValue fault r k) := by
  unfold onMemValue
  cases r <;> infer_instance

instance settles_onStored {α : Type} {fail : α → Prop} (fault : ExceptionType → M α)
    (r : MemoryOpResult Bool) (msg : String) (k : M α)
    [∀ e, Exec.Settles R SyncTrap fail (fault e)] [Exec.Settles R SyncTrap fail k] :
    Exec.Settles R SyncTrap fail (onStored fault r msg k) := by
  unfold onStored
  infer_instance

end Settles

/-! ## The helpers do integer steps -/

section Helpers

variable {R : State → State → Prop}

instance settles_retireX [CoreRel R] (rd : Regidx) (v : Xlenbits) :
    Exec.Settles R SyncTrap Failed (retireX rd v) := by
  unfold retireX
  infer_instance

instance keeps_icRead [TraceClosed R] (addr : Xlenbits) : Exec.Keeps R (icRead addr) :=
  Exec.keeps_update (fun s => TraceClosed.trace s _)

instance keeps_dcRead [TraceClosed R] (addr : Xlenbits) : Exec.Keeps R (dcRead addr) :=
  Exec.keeps_update (fun s => TraceClosed.trace s _)

instance keeps_dcWrite [TraceClosed R] (addr : Xlenbits) : Exec.Keeps R (dcWrite addr) :=
  Exec.keeps_update (fun s => TraceClosed.trace s _)

instance keeps_extDataGetAddr [Std.Refl R] (base : Regidx) (offset : Xlenbits) :
    Exec.Keeps R (extDataGetAddr base offset) := by
  unfold extDataGetAddr
  infer_instance

end Helpers

end SailRiscv
