/-
# Physical memory protection

The PMP registers of `riscv_pmp_regs.sail` and the check of `riscv_pmp_control.sail`:
reading and writing the configuration and address registers, the range an entry
stands for, and the priority scan over the 64 entries.
-/
import SailRiscv.SysRegs

namespace SailRiscv

open Bits Platform

/-! ## Configuration entries -/

inductive PmpAddrMatchType where
  | OFF | TOR | NA4 | NAPOT
  deriving DecidableEq, Repr

/-- `pmpAddrMatchType_of_bits`. -/
def pmpAddrMatchTypeOfBits (bs : BitVec 2) : PmpAddrMatchType :=
  if bs = 0b00#2 then .OFF
  else if bs = 0b01#2 then .TOR
  else if bs = 0b10#2 then .NA4
  else .NAPOT

/-- `pmpAddrMatchType_to_bits`. -/
def pmpAddrMatchTypeToBits : PmpAddrMatchType → BitVec 2
  | .OFF => 0b00#2
  | .TOR => 0b01#2
  | .NA4 => 0b10#2
  | .NAPOT => 0b11#2

namespace Pmpcfg
/-- Locking. -/
@[reducible] def L : Field := ⟨7, 1⟩
/-- Address match type. -/
@[reducible] def A : Field := ⟨3, 2⟩
@[reducible] def X : Field := ⟨2, 1⟩
@[reducible] def W : Field := ⟨1, 1⟩
@[reducible] def R : Field := ⟨0, 1⟩
end Pmpcfg

/-- The match type of a configuration entry. -/
def pmpMatchType (cfg : BitVec 8) : PmpAddrMatchType :=
  pmpAddrMatchTypeOfBits (Pmpcfg.A.get cfg)

variable [Platform]

/-! ## Register accesses -/

/-- The bytes of `pmpcfg` from entry `start` on, the first one lowest. -/
def packCfg (s : State) (start : ℕ) : ℕ → Xlenbits
  | 0 => 0#_
  | k + 1 => setRange (packCfg s start k) (8 * k) (s.pmpcfg (Fin.ofNat 64 (start + k)))

/-- `pmpReadCfgReg`. -/
def pmpReadCfgReg (s : State) (n : Fin 16) : Except ModelError Xlenbits :=
  if xlen = 32 then .ok (packCfg s (n.val * 4) 4)
  else if n.val % 2 = 0 then .ok (packCfg s (n.val * 4) 8)
  else .error (.assertFailed "Unexpected pmp config reg read")

/-- `pmpReadAddrReg`: the grain masks the value that is read, in a way that depends on
the match type of the same entry. -/
def pmpReadAddrReg (s : State) (n : Fin 64) : Xlenbits :=
  let addr := s.pmpaddr n
  if (Pmpcfg.A.get (s.pmpcfg n)).getLsbD 1 then
    -- bits G-2..0 read as ones
    if 2 ≤ sysPmpGrain then addr ||| lowOnes xlen (min (sysPmpGrain - 1) xlen) else addr
  else
    -- bits G-1..0 read as zeros
    if 1 ≤ sysPmpGrain then addr &&& ~~~lowOnes xlen (min sysPmpGrain xlen) else addr

/-- `pmpLocked`. -/
def pmpLocked (cfg : BitVec 8) : Bool := Pmpcfg.L.get cfg == 1#1

/-- `pmpTORLocked`. -/
def pmpTORLocked (cfg : BitVec 8) : Bool :=
  (Pmpcfg.L.get cfg == 1#1) && (pmpMatchType cfg == .TOR)

/-- `pmpWriteCfg`. -/
def pmpWriteCfg (cfg v : BitVec 8) : BitVec 8 :=
  if pmpLocked cfg then cfg
  else
    let cfg := v &&& 0x9f#8
    -- the reserved combination R = 0, W = 1 removes all permissions
    let cfg := if Pmpcfg.W.get cfg = 1#1 ∧ Pmpcfg.R.get cfg = 0#1
      then Pmpcfg.R.set (Pmpcfg.W.set (Pmpcfg.X.set cfg 0#1) 0#1) 0#1 else cfg
    -- NA4 is not selectable when G ≥ 1
    if 1 ≤ sysPmpGrain ∧ pmpMatchType cfg = .NA4
      then Pmpcfg.A.set cfg (pmpAddrMatchTypeToBits .OFF) else cfg

/-- Write byte `i` of `v` to entry `start + i`, for `i = 0, …, k - 1`. -/
def writeCfgs (cfgs : Fin 64 → BitVec 8) (start : ℕ) (v : Xlenbits) :
    ℕ → Fin 64 → BitVec 8
  | 0 => cfgs
  | k + 1 =>
      let cfgs := writeCfgs cfgs start v k
      let idx := Fin.ofNat 64 (start + k)
      Function.update cfgs idx (pmpWriteCfg (cfgs idx) (v.extractLsb' (8 * k) 8))

/-- `pmpWriteCfgReg`. -/
def pmpWriteCfgReg (n : Fin 16) (v : Xlenbits) : M Unit :=
  if xlen = 32 then
    Exec.update (fun s => { s with pmpcfg := writeCfgs s.pmpcfg (n.val * 4) v 4 })
  else do
    assert (n.val % 2 == 0) "Unexpected pmp config reg write"
    Exec.update (fun s => { s with pmpcfg := writeCfgs s.pmpcfg (n.val * 4) v 8 })

/-- `pmpWriteAddr`. -/
def pmpWriteAddr (locked torLocked : Bool) (reg v : Xlenbits) : Xlenbits :=
  if locked || torLocked then reg
  else if xlen = 32 then v else v &&& lowOnes xlen 54

/-- Whether the entry after `n` is a locked TOR entry, which protects `pmpaddr n`. -/
def nextTORLocked (s : State) (n : Fin 64) : Bool :=
  if h : n.val + 1 < 64 then pmpTORLocked (s.pmpcfg ⟨n.val + 1, h⟩) else false

/-- `pmpWriteAddrReg`. -/
def pmpWriteAddrReg (n : Fin 64) (v : Xlenbits) : M Unit :=
  Exec.update (fun s => { s with
    pmpaddr := Function.update s.pmpaddr n
      (pmpWriteAddr (pmpLocked (s.pmpcfg n)) (nextTORLocked s n) (s.pmpaddr n) v) })

/-! ## Address ranges -/

/-- `pmpAddrRange`: the bounds `[lo, hi)` of an entry, in units of 4 bytes. -/
def pmpAddrRange (cfg : BitVec 8) (pmpaddr prevPmpaddr : Xlenbits) :
    Except ModelError (Option (Xlenbits × Xlenbits)) :=
  match pmpMatchType cfg with
  | .OFF => .ok none
  | .TOR => .ok (some (prevPmpaddr, pmpaddr))
  | .NA4 =>
      if sysPmpGrain < 1 then .ok (some (pmpaddr, pmpaddr + 1#_))
      else .error (.assertFailed "NA4 cannot be selected when PMP grain G >= 1.")
  | .NAPOT =>
      let mask := pmpaddr ^^^ (pmpaddr + 1#_)
      let lo := pmpaddr &&& ~~~mask
      let len := mask + 1#_
      .ok (some (lo, lo + len))

/-! ## Permissions -/

/-- `pmpCheckRWX`. -/
def pmpCheckRWX (ent : BitVec 8) (acc : AccessType) : Bool :=
  match acc with
  | .Read => Pmpcfg.R.get ent == 1#1
  | .Write => Pmpcfg.W.get ent == 1#1
  | .ReadWrite => (Pmpcfg.R.get ent == 1#1) && (Pmpcfg.W.get ent == 1#1)
  | .Execute => Pmpcfg.X.get ent == 1#1

/-- `pmpCheckPerms`. -/
def pmpCheckPerms (ent : BitVec 8) (acc : AccessType) (priv : Privilege) : Bool :=
  match priv with
  | .Machine => if pmpLocked ent then pmpCheckRWX ent acc else true
  | _ => pmpCheckRWX ent acc

/-! ## Matching -/

inductive PmpAddrMatch where
  | PMP_NoMatch | PMP_PartialMatch | PMP_Match
  deriving DecidableEq, Repr

/-- `pmpMatchAddr`; the comparison is over unbounded integers. -/
def pmpMatchAddr (addr width : Xlenbits) (rng : Option (Xlenbits × Xlenbits)) : PmpAddrMatch :=
  match rng with
  | none => .PMP_NoMatch
  | some (lo, hi) =>
      let addr := addr.toNat
      let width := width.toNat
      let lo := lo.toNat * 4
      let hi := hi.toNat * 4
      if hi ≤ lo then .PMP_NoMatch
      else if addr + width ≤ lo ∨ hi ≤ addr then .PMP_NoMatch
      else if lo ≤ addr ∧ addr + width ≤ hi then .PMP_Match
      else .PMP_PartialMatch

inductive PmpMatch where
  | PMP_Success | PMP_Continue | PMP_Fail
  deriving DecidableEq, Repr

/-- `pmpMatchEntry`. -/
def pmpMatchEntry (addr width : Xlenbits) (acc : AccessType) (priv : Privilege)
    (ent : BitVec 8) (pmpaddr prevPmpaddr : Xlenbits) : Except ModelError PmpMatch := do
  let rng ← pmpAddrRange ent pmpaddr prevPmpaddr
  match pmpMatchAddr addr width rng with
  | .PMP_NoMatch => pure .PMP_Continue
  | .PMP_PartialMatch => pure .PMP_Fail
  | .PMP_Match => pure (if pmpCheckPerms ent acc priv then .PMP_Success else .PMP_Fail)

/-! ## The priority check -/

/-- `accessToFault`. -/
def accessToFault : AccessType → ExceptionType
  | .Read => .E_Load_Access_Fault
  | .Write | .ReadWrite => .E_SAMO_Access_Fault
  | .Execute => .E_Fetch_Access_Fault

/-- The lower bound a TOR entry takes from its predecessor. -/
def prevPmpaddr (s : State) (i : Fin 64) : Xlenbits :=
  if h : 0 < i.val then pmpReadAddrReg s ⟨i.val - 1, by omega⟩ else 0#_

/-- The range of entry `i`, as the check reads the registers. -/
def entryRange (s : State) (i : Fin 64) : Except ModelError (Option (Xlenbits × Xlenbits)) :=
  pmpAddrRange (s.pmpcfg i) (pmpReadAddrReg s i) (prevPmpaddr s i)

/-- The loop of `pmpCheck` over the entries of `is`, lowest-numbered first. -/
def pmpCheckFrom (s : State) (addr width : Xlenbits) (acc : AccessType) (priv : Privilege) :
    List (Fin 64) → Except ModelError (Option ExceptionType)
  | [] => .ok (if priv = .Machine then none else some (accessToFault acc))
  | i :: is => do
      match ← pmpMatchEntry addr width acc priv (s.pmpcfg i) (pmpReadAddrReg s i)
        (prevPmpaddr s i) with
      | .PMP_Success => pure none
      | .PMP_Fail => pure (some (accessToFault acc))
      | .PMP_Continue => pmpCheckFrom s addr width acc priv is

/-- `pmpCheck`. -/
def pmpCheck (s : State) (addr : Xlenbits) (width : ℕ) (acc : AccessType) (priv : Privilege) :
    Except ModelError (Option ExceptionType) :=
  pmpCheckFrom s addr (BitVec.ofNat xlen width) acc priv (List.finRange 64)

/-- `init_pmp`. -/
def initPmp : M Unit := do
  assert (sysPmpCount == 0 || sysPmpCount == 16 || sysPmpCount == 64)
    "sys_pmp_count() must be 0, 16, or 64"
  Exec.update (fun s => { s with
    pmpcfg := fun i =>
      Pmpcfg.L.set (Pmpcfg.A.set (s.pmpcfg i) (pmpAddrMatchTypeToBits .OFF)) 0#1 })

end SailRiscv
