/-
# What an integer instruction can change

`IntStep s s'` says that `s'` differs from `s` in the integer registers, the memory, the TLB,
the devices, the reservation, the clock and the program counter of the next instruction at
most, and that the latter is a legal target.  `IntRel R` says that `R` allows for these changes:
every instruction that is neither about CSRs nor about floating-point or vector registers
does an `R`-step and retires, or does an `R`-step and takes one exception.
-/
import SailRiscv.Lib.Settles
import SailRiscv.Trap
import SailRiscv.VmemRuns

namespace SailRiscv

open Bits Platform

variable [Platform]

/-! ## The relation -/

/-- The registers that integer instructions change, apart from `nextPC`. -/
structure IntRegs where
  x : Fin 32 → Xlenbits
  mip : Xlenbits
  mcycle : BitVec 64
  mtime : BitVec 64
  tlb : Fin 64 → Option TLBEntry
  mtimecmp : BitVec 64
  htifTohost : BitVec 64
  htifDone : Bool
  htifExitCode : BitVec 64
  htifCmdWrite : Bool
  htifPayloadWrites : BitVec 4
  termOutput : List (BitVec 8)
  mem : ℕ → BitVec 8
  reservation : Xlenbits
  reservationValid : Bool
  cacheTrace : List CacheEvent

/-- The state with other integer registers. -/
def State.withInt (s : State) (p : IntRegs) : State :=
  { s with
    x := p.x
    mip := p.mip
    mcycle := p.mcycle
    mtime := p.mtime
    tlb := p.tlb
    mtimecmp := p.mtimecmp
    htifTohost := p.htifTohost
    htifDone := p.htifDone
    htifExitCode := p.htifExitCode
    htifCmdWrite := p.htifCmdWrite
    htifPayloadWrites := p.htifPayloadWrites
    termOutput := p.termOutput
    mem := p.mem
    reservation := p.reservation
    reservationValid := p.reservationValid
    cacheTrace := p.cacheTrace }

/-- The integer registers of a state. -/
def State.intRegs (s : State) : IntRegs where
  x := s.x
  mip := s.mip
  mcycle := s.mcycle
  mtime := s.mtime
  tlb := s.tlb
  mtimecmp := s.mtimecmp
  htifTohost := s.htifTohost
  htifDone := s.htifDone
  htifExitCode := s.htifExitCode
  htifCmdWrite := s.htifCmdWrite
  htifPayloadWrites := s.htifPayloadWrites
  termOutput := s.termOutput
  mem := s.mem
  reservation := s.reservation
  reservationValid := s.reservationValid
  cacheTrace := s.cacheTrace

/-- An address at which execution can continue: it is even if the address `pc` of the
instruction is, and a multiple of four without compressed instructions. -/
def JumpTarget (s : State) (target : Xlenbits) : Prop :=
  (s.pc.getLsbD 0 = false → target.getLsbD 0 = false)
    ∧ (extensionEnabled s .Zca = true ∨ target.getLsbD 1 = false)

/-- Only the integer registers and `nextPC` differ, and `nextPC` is the same or a legal
target. -/
def IntStep (s s' : State) : Prop :=
  ∃ p n, s' = { s.withInt p with nextPC := n } ∧ (n = s.nextPC ∨ JumpTarget s n)

instance : Std.Refl IntStep := ⟨fun s => ⟨s.intRegs, s.nextPC, rfl, Or.inl rfl⟩⟩

instance : IsTrans State IntStep where
  trans := by
    rintro s _ _ ⟨p, n, rfl, hn⟩ ⟨p', n', rfl, hn'⟩
    refine ⟨p', n', rfl, ?_⟩
    rcases hn' with rfl | hn'
    · exact hn
    · exact Or.inr hn'

/-- A step that leaves `nextPC` alone. -/
theorem IntStep.of_eq {s s' : State} (h : s' = s.withInt s'.intRegs) : IntStep s s' := by
  rw [h]
  exact ⟨s'.intRegs, s.nextPC, rfl, Or.inl rfl⟩

/-- An integer instruction leaves the privileged registers alone. -/
theorem IntStep.frame {s s' : State} (h : IntStep s s') : Frame s s' := by
  obtain ⟨p, n, rfl, -⟩ := h
  rfl

/-! ## Relations that allow for integer instructions -/

/-- The relation allows for all that an integer instruction other than `WFI` changes, apart from
the reservation and the calls of the cache simulator. -/
class CoreRel (R : State → State → Prop) : Prop extends TlbClosed R where
  x : ∀ s v, R s { s with x := v }
  jump : ∀ s n, JumpTarget s n → R s { s with nextPC := n }

/-- The relation allows for changes of the cycle counter. -/
class ClockClosed (R : State → State → Prop) : Prop where
  clock : ∀ s c, R s { s with mcycle := c }

/-- The relation allows for all that an integer instruction changes, apart from the reservation
and the calls of the cache simulator. -/
class IntRel (R : State → State → Prop) : Prop extends CoreRel R where
  clock : ∀ s c, R s { s with mcycle := c }

instance {R : State → State → Prop} [h : IntRel R] : ClockClosed R := ⟨h.clock⟩

/-- The relation allows for calls of the cache simulator. -/
class TraceClosed (R : State → State → Prop) : Prop where
  trace : ∀ s t, R s { s with cacheTrace := t }

/-- The relation allows for changes of the reservation. -/
class ReservationClosed (R : State → State → Prop) : Prop where
  reservation : ∀ s a v, R s { s with
    reservation := a
    reservationValid := v }

instance : IntRel IntStep where
  devices _ _ := .of_eq rfl
  store _ _ _ _ _ := .of_eq rfl
  tlb _ _ _ := .of_eq rfl
  x _ _ := .of_eq rfl
  clock _ _ := .of_eq rfl
  jump s n hn := ⟨s.intRegs, n, rfl, Or.inr hn⟩

instance : TraceClosed IntStep := ⟨fun _ _ => .of_eq rfl⟩

instance : ReservationClosed IntStep := ⟨fun _ _ _ => .of_eq rfl⟩

/-! ## Registers and clocks -/

section Registers

variable {R : State → State → Prop}

instance keeps_rX [Std.Refl R] (r : BitVec 5) : Exec.Keeps R (rX r) := by
  unfold rX
  infer_instance

instance keeps_getArchPc [Std.Refl R] : Exec.Keeps R getArchPc := by
  unfold getArchPc
  infer_instance

instance keeps_getNextPc [Std.Refl R] : Exec.Keeps R getNextPc := by
  unfold getNextPc
  infer_instance

variable [CoreRel R]

/-- A write to an integer register. -/
theorem rel_setX (s : State) (r : BitVec 5) (v : Xlenbits) : R s (s.setX r v) := by
  unfold State.setX
  split
  · exact Std.Refl.refl s
  · exact CoreRel.x s _

instance keeps_wX (r : BitVec 5) (v : Xlenbits) : Exec.Keeps R (wX r v) :=
  Exec.keeps_update (fun s => rel_setX s r v)

variable [ClockClosed R]

/-- A change of the clocks. -/
theorem rel_clock (s : State) (mtime mcycle : BitVec 64) :
    R s { s with
      mtime := mtime
      mcycle := mcycle } := by
  have hmtime : R s { s with mtime := mtime } :=
    DeviceClosed.devices s { s.deviceRegs with mtime := mtime }
  exact IsTrans.trans _ _ _ hmtime (ClockClosed.clock { s with mtime := mtime } mcycle)

instance keeps_platformWfi : Exec.Keeps R platformWfi := by
  unfold platformWfi
  refine Exec.keeps_update (fun s => ?_)
  split_ifs
  · exact rel_clock s _ _
  · exact Std.Refl.refl s

instance keeps_tickClock : Exec.Keeps R tickClock := by
  have htick : Exec.Keeps R (Exec.update (fun s => { s with
      mcycle := if Counteren.CY.get s.mcountinhibit = 0#1 then s.mcycle + 1#64 else s.mcycle
      mtime := s.mtime + 1#64 }) : M Unit) := Exec.keeps_update (fun s => rel_clock s _ _)
  unfold tickClock
  infer_instance

end Registers

end SailRiscv
