/-
# The machine state

Every register the Sail sources declare, the physical memory behind them, and the
state the C emulator keeps outside the Sail model (the reservation of LR/SC, the
entropy source, the terminal, the events sent to the cache simulator).

`M` is the monad of the model: a computation over `State` that may stop with a
`ModelError`.  Functions of the source that only read registers are functions of the
state; functions that write registers are computations in `M`.
-/
import SailRiscv.Types

namespace SailRiscv

open Bits

/-! ## Registers -/

/-- `pagesize_bits`. -/
def pagesizeBits : ℕ := 12

/-- An entry of the translation look-aside buffer (`riscv_vmem_tlb.sail`). -/
@[ext]
structure TLBEntry where
  /-- Address-space identifier. -/
  asid : BitVec 16
  /-- Global translation. -/
  global : Bool
  /-- Virtual page. -/
  vAddr : BitVec 64
  /-- Physical page. -/
  pAddr : BitVec 64
  /-- Matching mask for superpages. -/
  vMatchMask : BitVec 64
  /-- Selection mask for superpages. -/
  vAddrMask : BitVec 64
  pte : BitVec 64
  /-- Where the PTE was read, for its write-back. -/
  pteAddr : BitVec 64
  age : BitVec 64
  /-- The masks split an address into a page and the offset in it, and the physical page has
  no offset. -/
  pages : ∃ shift, pagesizeBits ≤ shift ∧ vAddrMask = lowOnes 64 shift
    ∧ vMatchMask = ~~~lowOnes 64 shift ∧ pAddr &&& lowOnes 64 shift = 0#64
  deriving DecidableEq

/-- A call of the cache simulator. -/
inductive CacheEvent [Platform] where
  | icRead (addr : Xlenbits)
  | dcRead (addr : Xlenbits)
  | dcWrite (addr : Xlenbits)

/-- The registers of the model and the memory. -/
structure State [Platform] where
  pc : Xlenbits
  nextPC : Xlenbits
  /-- Bits of the instruction being executed. -/
  instbits : Xlenbits
  x : Fin 32 → Xlenbits
  -- privileged state
  curPrivilege : Privilege
  misa : Xlenbits
  mstatus : Xlenbits
  mstatush : BitVec 32
  mie : Xlenbits
  mip : Xlenbits
  medeleg : Xlenbits
  mideleg : Xlenbits
  mtvec : Xlenbits
  mcause : Xlenbits
  mepc : Xlenbits
  mtval : Xlenbits
  mscratch : Xlenbits
  stvec : Xlenbits
  scause : Xlenbits
  sepc : Xlenbits
  stval : Xlenbits
  sscratch : Xlenbits
  satp : Xlenbits
  menvcfg : BitVec 64
  senvcfg : Xlenbits
  tselect : Xlenbits
  -- counters
  mcounteren : BitVec 32
  scounteren : BitVec 32
  mcountinhibit : BitVec 32
  mcycle : BitVec 64
  mtime : BitVec 64
  minstret : BitVec 64
  /-- Whether `minstret` is to be incremented when the instruction retires. -/
  minstretIncrement : Bool
  mhpmcounter : Fin 32 → BitVec 64
  mhpmevent : Fin 32 → Xlenbits
  -- machine information
  mvendorid : BitVec 32
  mimpid : Xlenbits
  marchid : Xlenbits
  mhartid : Xlenbits
  mconfigptr : Xlenbits
  -- physical memory protection
  pmpcfg : Fin 64 → BitVec 8
  pmpaddr : Fin 64 → Xlenbits
  -- floating point
  f : Fin 32 → BitVec flen
  fcsr : BitVec 32
  -- vectors
  v : Fin 32 → BitVec 65536
  vstart : BitVec 16
  vl : Xlenbits
  vtype : Xlenbits
  vcsr : BitVec 3
  -- address translation
  tlb : Fin 64 → Option TLBEntry
  -- devices
  mtimecmp : BitVec 64
  htifTohost : BitVec 64
  htifDone : Bool
  htifExitCode : BitVec 64
  htifCmdWrite : Bool
  htifPayloadWrites : BitVec 4
  termOutput : List (BitVec 8)
  -- outside the Sail model
  mem : ℕ → BitVec 8
  reservation : Xlenbits
  reservationValid : Bool
  /-- The random bits still to be delivered. -/
  entropy : ℕ → BitVec 16
  cacheTrace : List CacheEvent

/-- Computations of the model. -/
abbrev M [Platform] (α : Type) := Exec State ModelError α

variable [Platform]

/-- The registers before `init_model`, which the emulator starts with zeros, over a given
memory. -/
def State.zero (mem : ℕ → BitVec 8) : State where
  pc := 0#_
  nextPC := 0#_
  instbits := 0#_
  x _ := 0#_
  curPrivilege := .User
  misa := 0#_
  mstatus := 0#_
  mstatush := 0#_
  mie := 0#_
  mip := 0#_
  medeleg := 0#_
  mideleg := 0#_
  mtvec := 0#_
  mcause := 0#_
  mepc := 0#_
  mtval := 0#_
  mscratch := 0#_
  stvec := 0#_
  scause := 0#_
  sepc := 0#_
  stval := 0#_
  sscratch := 0#_
  satp := 0#_
  menvcfg := 0#_
  senvcfg := 0#_
  tselect := 0#_
  mcounteren := 0#_
  scounteren := 0#_
  mcountinhibit := 0#_
  mcycle := 0#_
  mtime := 0#_
  minstret := 0#_
  minstretIncrement := false
  mhpmcounter _ := 0#_
  mhpmevent _ := 0#_
  mvendorid := 0#_
  mimpid := 0#_
  marchid := 0#_
  mhartid := 0#_
  mconfigptr := 0#_
  pmpcfg _ := 0#_
  pmpaddr _ := 0#_
  f _ := 0#_
  fcsr := 0#_
  v _ := 0#_
  vstart := 0#_
  vl := 0#_
  vtype := 0#_
  vcsr := 0#_
  tlb _ := none
  mtimecmp := 0#_
  htifTohost := 0#_
  htifDone := false
  htifExitCode := 0#_
  htifCmdWrite := false
  htifPayloadWrites := 0#_
  termOutput := []
  mem := mem
  reservation := 0#_
  reservationValid := false
  entropy _ := 0#_
  cacheTrace := []

/-- `internal_error`. -/
def internalError {α : Type} (msg : String) : M α := Exec.abort (.internalError msg)

/-- `assert`. -/
def assert (c : Bool) (msg : String) : M Unit :=
  if c then pure () else Exec.abort (.assertFailed msg)

/-- An assertion completes exactly when it holds, in the same state. -/
theorem run_assert_ok {c : Bool} {msg : String} {s s' : State} {a : Unit} :
    (assert c msg).run s = .ok (a, s') ↔ c = true ∧ s' = s := by
  unfold assert
  by_cases hc : c = true
  · rw [if_pos hc, Exec.run_pure]
    simp [hc, eq_comm]
  · rw [if_neg hc, Exec.run_abort]
    simp [hc]

/-! ## Integer registers and the program counter -/

/-- `rX_bits`: register `x0` reads as zero. -/
def State.X (s : State) (r : BitVec 5) : Xlenbits :=
  if r = 0#5 then 0#_ else s.x r.toFin

/-- `wX_bits` on states: register `x0` is not written. -/
def State.setX (s : State) (r : BitVec 5) (v : Xlenbits) : State :=
  if r = 0#5 then s else { s with x := Function.update s.x r.toFin v }

/-- `rX_bits`. -/
def rX (r : BitVec 5) : M Xlenbits := Exec.reads (fun s => s.X r)

/-- `wX_bits`. -/
def wX (r : BitVec 5) (v : Xlenbits) : M Unit := Exec.update (fun s => s.setX r v)

/-- `get_arch_pc`. -/
def getArchPc : M Xlenbits := Exec.reads State.pc

/-- `get_next_pc`. -/
def getNextPc : M Xlenbits := Exec.reads State.nextPC

/-- `set_next_pc`. -/
def setNextPc (pc : Xlenbits) : M Unit := Exec.update (fun s => { s with nextPC := pc })

/-- `tick_pc`. -/
def tickPc : M Unit := Exec.update (fun s => { s with pc := s.nextPC })

/-- A read of register `r` after a write of `r'`. -/
theorem State.X_setX (s : State) (r r' : BitVec 5) (v : Xlenbits) :
    (s.setX r' v).X r = if r = r' ∧ r ≠ 0#5 then v else s.X r := by
  unfold State.setX State.X
  by_cases hr : r = 0#5
  · simp [hr]
  · by_cases hr' : r' = 0#5
    · have hne : ¬ r = r' := fun h => hr (h.trans hr')
      simp [hr, hr']
    · by_cases h : r = r'
      · subst h
        simp [hr]
      · have hfin : r.toFin ≠ r'.toFin := fun hf => h (BitVec.eq_of_toFin_eq hf)
        simp [hr, hr', h, Function.update_of_ne hfin]

/-- The last of two writes to a register is the one that counts. -/
theorem State.setX_setX (s : State) (r : BitVec 5) (v w : Xlenbits) :
    (s.setX r v).setX r w = s.setX r w := by
  unfold State.setX
  by_cases h : r = 0#5
  · rw [if_pos h, if_pos h, if_pos h]
  · rw [if_neg h, if_neg h, if_neg h, Function.update_idem]

end SailRiscv
