/-
# The pending bit of the timer

`mip.MTI` says whether the clock `mtime` has reached the threshold `mtimecmp`.  It is derived
state, which `clint_dispatch` refreshes.  Every operation that can change one of the three
registers keeps it true, except the wait for an interrupt, which moves the clock to the
threshold and leaves the bit (`timerPending_iff`).
-/
import SailRiscv.CsrClocks
import SailRiscv.Insts.Base
import SailRiscv.Lib.Run

namespace SailRiscv

open Bits Platform

variable [Platform]

/-! ## The operations -/

/-- The timer interrupt is pending exactly if the clock has reached the threshold. -/
def TimerPending (s : State) : Prop := Minterrupts.MTI.get s.mip = 1#1 ↔ s.mtimecmp ≤ s.mtime

/-- What can change `mtime`, `mtimecmp` or `mip`: a store to the CLINT, a tick of the clock, the
wait for an interrupt, and a CSR write. -/
inductive TimerOp where
  | store (addr : Xlenbits) (n : ℕ) (data : BitVec (8 * n))
  | tick
  | wfi
  | csr (csr : BitVec 12) (value : Xlenbits)

/-- A completed operation. -/
def TimerStep : TimerOp → State → State → Prop
  | .store addr n data, s, s' => ∃ r, (clintStore addr n data).run s = .ok (r, s')
  | .tick, s, s' => tickClock.run s = .ok ((), s')
  | .wfi, s, s' => platformWfi.run s = .ok ((), s')
  | .csr csr value, s, s' => ∃ r, (writeCSR csr value).run s = .ok (r, s')

/-- The clock and the cycle counter at the threshold. -/
def State.fastForward (s : State) : State :=
  { s with
    mtime := s.mtimecmp
    mcycle := s.mtimecmp }

/-- What the wait for an interrupt does. -/
theorem run_platformWfi (s : State) :
    platformWfi.run s = .ok ((), if s.mtime < s.mtimecmp then s.fastForward else s) := rfl

/-- The operation moves the clock forward to the threshold. -/
def FastForwards (s : State) (op : TimerOp) : Prop := op = .wfi ∧ s.mtime < s.mtimecmp

/-! ## The timer registers -/

/-- The registers of the timer are the same. -/
structure SameTimer (s s' : State) : Prop where
  mti : Minterrupts.MTI.get s'.mip = Minterrupts.MTI.get s.mip
  mtime : s'.mtime = s.mtime
  mtimecmp : s'.mtimecmp = s.mtimecmp

instance : Std.Refl SameTimer := ⟨fun _ => ⟨rfl, rfl, rfl⟩⟩

instance : IsTrans State SameTimer where
  trans _ _ _ h h' :=
    ⟨h'.mti.trans h.mti, h'.mtime.trans h.mtime, h'.mtimecmp.trans h.mtimecmp⟩

/-- The bit is right when the registers have not changed. -/
theorem TimerPending.of_same {s s' : State} (h : TimerPending s) (hs : SameTimer s s') :
    TimerPending s' := by
  unfold TimerPending
  rw [hs.mti, hs.mtime, hs.mtimecmp]
  exact h

/-- The bit is right after a dispatch. -/
theorem timerPending_of_dispatch {s s' : State} (h : clintDispatch.run s = .ok ((), s')) :
    TimerPending s' := by
  have hx := xlen_ge
  cases h
  unfold TimerPending
  rw [Field.get_set (by show 7 + 1 ≤ xlen; omega)]
  by_cases hle : s.mtimecmp ≤ s.mtime
  · simp [hle, boolToBits]
  · simp [hle, boolToBits]

/-- A store to the CLINT dispatches the timer, or fails and changes nothing. -/
theorem clintStore_cases {addr : Xlenbits} {n : ℕ} {data : BitVec (8 * n)} {s s' : State}
    {r : MemoryOpResult Bool} (h : (clintStore addr n data).run s = .ok (r, s')) :
    (∃ s₁, clintDispatch.run s₁ = .ok ((), s') ∧ r = .MemValue true)
      ∨ (s' = s ∧ r = .MemException .E_SAMO_Access_Fault) := by
  have hstored {f : State → State}
      (h : (do Exec.update f; clintDispatch; pure (.MemValue true) : M (MemoryOpResult Bool)).run s
        = .ok (r, s')) : ∃ s₁, clintDispatch.run s₁ = .ok ((), s') ∧ r = .MemValue true := by
    obtain ⟨_, s₁, -, h₁⟩ := Exec.run_bind_ok.mp h
    obtain ⟨_, s₂, h₂, hend⟩ := Exec.run_bind_ok.mp h₁
    cases hend
    exact ⟨s₁, h₂, rfl⟩
  unfold clintStore at h
  simp only at h
  split_ifs at h
  · exact Or.inl (hstored h)
  · exact Or.inl (hstored h)
  · exact Or.inl (hstored h)
  · exact Or.inl (hstored h)
  · exact Or.inl (hstored h)
  · exact Or.inl (hstored h)
  · exact Or.inl (hstored h)
  · cases h
    exact Or.inr ⟨rfl, rfl⟩

/-! ## CSR writes -/

/-- The machine timer bit cannot be written through `mip`. -/
theorem mti_legalizeMip (o v : Xlenbits) :
    Minterrupts.MTI.get (legalizeMip o v) = Minterrupts.MTI.get o := by
  unfold legalizeMip
  rw [Field.get_set_of_apart (f := Minterrupts.MTI) (g := Minterrupts.SSI) (by decide),
    Field.get_set_of_apart (f := Minterrupts.MTI) (g := Minterrupts.STI) (by decide),
    Field.get_set_of_apart (f := Minterrupts.MTI) (g := Minterrupts.SEI) (by decide)]

/-- Nor can it through `sip`. -/
theorem mti_legalizeSip (o d v : Xlenbits) :
    Minterrupts.MTI.get (legalizeSip o d v) = Minterrupts.MTI.get o := by
  unfold legalizeSip
  split
  · rw [Field.get_set_of_apart (f := Minterrupts.MTI) (g := Minterrupts.SSI) (by decide)]
  · rfl

/-- **CSR writes leave the timer alone.** -/
theorem sameTimer_of_writeCSR {csr : BitVec 12} {value : Xlenbits} {s s' : State} {r : Xlenbits}
    (h : (writeCSR csr value).run s = .ok (r, s')) : SameTimer s s' := by
  have hw : s'.clocks = clocksWritten s csr value := (clocksWritten_writeCSR csr value).rel h
  have hmip : s'.mip = (clocksWritten s csr value).mip := congrArg Clocks.mip hw
  have hmtime : s'.mtime = (clocksWritten s csr value).mtime := congrArg Clocks.mtime hw
  have hcmp : s'.mtimecmp = (clocksWritten s csr value).mtimecmp := congrArg Clocks.mtimecmp hw
  unfold clocksWritten at hmip hmtime hcmp
  constructor
  · rw [hmip]
    split_ifs
    · exact mti_legalizeMip _ _
    · exact mti_legalizeSip _ _ _
    all_goals rfl
  · rw [hmtime]
    split_ifs <;> rfl
  · rw [hcmp]
    split_ifs <;> rfl

/-! ## The law -/

/-- Every operation keeps the bit right, unless it is a wait that moves the clock. -/
theorem timerPending_of_step {s s' : State} {op : TimerOp} (h : TimerPending s)
    (hstep : TimerStep op s s') (hf : ¬ FastForwards s op) : TimerPending s' := by
  cases op with
  | store addr n data =>
      obtain ⟨r, hrun⟩ := hstep
      rcases clintStore_cases hrun with ⟨s₁, hdispatch, -⟩ | ⟨rfl, -⟩
      · exact timerPending_of_dispatch hdispatch
      · exact h
  | tick =>
      obtain ⟨_, s₁, -, hdispatch⟩ := Exec.run_bind_ok.mp hstep
      exact timerPending_of_dispatch hdispatch
  | csr csr value =>
      obtain ⟨r, hrun⟩ := hstep
      exact h.of_same (sameTimer_of_writeCSR hrun)
  | wfi =>
      have hrun : platformWfi.run s = .ok ((), s') := hstep
      rw [run_platformWfi, if_neg (fun hlt => hf ⟨rfl, hlt⟩)] at hrun
      cases hrun
      exact h

/-- **The bit stays right except when the wait for an interrupt moves the clock.** -/
theorem timerPending_iff {s s' : State} {op : TimerOp} (h : TimerPending s)
    (hstep : TimerStep op s s') : TimerPending s' ↔ ¬ FastForwards s op := by
  refine ⟨?_, timerPending_of_step h hstep⟩
  rintro hs ⟨rfl, hlt⟩
  -- the clock reaches the threshold, and the bit still says that it has not
  have hrun : platformWfi.run s = .ok ((), s') := hstep
  rw [run_platformWfi, if_pos hlt] at hrun
  cases hrun
  have hle : s.mtimecmp ≤ s.mtime := h.mp (hs.mpr (BitVec.le_refl _))
  exact absurd hlt (BitVec.not_lt.mpr hle)

/-- In a run without such a wait the bit is always right. -/
theorem timerPending_of_run {s₀ s : State} (h : TimerPending s₀)
    (hrun : Run TimerStep (fun s op => ¬ FastForwards s op) s₀ s) : TimerPending s :=
  hrun.invariant h (fun hs hf hstep => timerPending_of_step hs hstep hf)

/-! ## A wait that moves the clock -/

/-- A clock one tick before its threshold. -/
def clockBeforeThreshold : State := { State.zero (fun _ => 0#8) with mtimecmp := 1#64 }

/-- The bit is right there. -/
theorem timerPending_clockBeforeThreshold : TimerPending clockBeforeThreshold := by
  refine iff_of_false (fun hbit => ?_) (show ¬ (1#64 : BitVec 64) ≤ 0#64 by decide)
  have hzero : Minterrupts.MTI.get (0#_ : Xlenbits) = 0#1 := BitVec.extractLsb'_zero
  exact absurd (hzero.symm.trans hbit) (by decide)

omit [Platform] in
/-- The wait leaves the clock at its threshold and the timer interrupt not pending. -/
theorem wfi_leaves_mti :
    ¬ ∀ [Platform] (s s' : State) (op : TimerOp), TimerPending s → TimerStep op s s' →
      TimerPending s' := by
  intro h
  let := rv64Pmp 16 (by decide)
  have hstep : TimerStep .wfi clockBeforeThreshold
      { clockBeforeThreshold with
        mtime := 1#64
        mcycle := 1#64 } := rfl
  have hafter := h _ _ _ timerPending_clockBeforeThreshold hstep
  exact absurd (hafter.mpr (by decide)) (by decide)

omit [Platform] in
/-- A tick there makes it pending. -/
theorem timerPending_iff_tick :
    letI := rv64Pmp 16 (by decide)
    ∃ s', TimerStep .tick clockBeforeThreshold s'
      ∧ (TimerPending s' ↔ ¬ FastForwards clockBeforeThreshold .tick) := by
  let := rv64Pmp 16 (by decide)
  obtain ⟨s', hstep⟩ : ∃ s', TimerStep .tick clockBeforeThreshold s' := ⟨_, rfl⟩
  exact ⟨s', hstep, timerPending_iff timerPending_clockBeforeThreshold hstep⟩

end SailRiscv
