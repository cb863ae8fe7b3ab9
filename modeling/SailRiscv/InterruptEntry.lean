/-
# Interrupts between two steps

The registers that the selection of interrupts depends on are legal in every state that the
machine can come to.  So each step begins with a selection that completes: where an interrupt is to
be taken, the step is the entry to its handler, and nothing is fetched or executed; where none is,
the step fetches.  The handler is not interrupted before the devices raise another interrupt, or
the handler itself lets one in.
-/
import SailRiscv.Interrupts
import SailRiscv.TrapReturn

namespace SailRiscv

open Bits Platform

variable [Platform] {s s' : State}

/-! ## The registers of the interrupts -/

/-- The registers that the selection depends on, apart from those of the devices. -/
def interruptRegs (s : State) : Xlenbits × Xlenbits × Xlenbits × Xlenbits × Xlenbits :=
  (s.mie, s.mideleg, s.misa, s.mtvec, s.stvec)

/-- The step keeps the registers of the interrupts legal. -/
def InterruptStep (s s' : State) : Prop := InterruptLegal s → InterruptLegal s'

instance : Std.Refl InterruptStep := ⟨fun _ h => h⟩

instance : IsTrans State InterruptStep := ⟨fun _ _ _ h h' hs => h' (h hs)⟩

/-- A step that leaves the registers alone. -/
theorem interruptStep_of_eq (heq : interruptRegs s' = interruptRegs s) : InterruptStep s s' := by
  intro h
  unfold interruptRegs at heq
  obtain ⟨hmie, heq⟩ := Prod.mk.inj heq
  obtain ⟨hmideleg, heq⟩ := Prod.mk.inj heq
  obtain ⟨hmisa, heq⟩ := Prod.mk.inj heq
  obtain ⟨hmtvec, hstvec⟩ := Prod.mk.inj heq
  have hS := h.misa
  unfold extensionEnabled at hS
  constructor
  · rw [hmie]
    exact h.mie
  · rw [hmideleg]
    exact h.mideleg
  · unfold extensionEnabled
    rw [hmisa]
    exact hS
  · rw [hmtvec]
    exact h.mtvec
  · rw [hstvec]
    exact h.stvec

instance : StepRel InterruptStep where
  devices _ _ := interruptStep_of_eq rfl
  store _ _ _ _ _ := interruptStep_of_eq rfl
  tlb _ _ _ := interruptStep_of_eq rfl
  x _ _ := interruptStep_of_eq rfl
  jump _ _ _ := interruptStep_of_eq rfl
  trap h := fun hs => hs.of_trapEntry h
  vec _ _ := interruptStep_of_eq rfl
  dirtyV _ := interruptStep_of_eq rfl
  fp _ _ _ := interruptStep_of_eq rfl
  dirtyFd _ _ := interruptStep_of_eq rfl
  after _ _ := interruptStep_of_eq rfl
  bits _ _ := interruptStep_of_eq rfl

instance : TraceClosed InterruptStep := ⟨fun _ _ => interruptStep_of_eq rfl⟩

instance : ReservationClosed InterruptStep := ⟨fun _ _ _ => interruptStep_of_eq rfl⟩

instance : ClockClosed InterruptStep := ⟨fun _ _ => interruptStep_of_eq rfl⟩

instance : RetClosed InterruptStep where
  mret _ _ _ := interruptStep_of_eq rfl
  sret _ _ := interruptStep_of_eq rfl

instance keeps_interrupts_zicsr (i : ZicsrInst) : Exec.Keeps InterruptStep i.execute :=
  keeps_zicsr
    (keeps_readCSR_of (R := InterruptStep) (fun _ => interruptStep_of_eq rfl) i.csr)
    (fun v => ⟨fun h hs => hs.of_written ((csrWritten_writeCSR i.csr v).rel h)⟩)

section

variable [SoftFloat]

/-- **Every turn of the loop keeps the registers of the interrupts legal.** -/
theorem Turns.interruptStep {t : Turn} (h : Turns t s s') : InterruptStep s s' := by
  have hbegin (s : State) : InterruptStep s s.begin := interruptStep_of_eq rfl
  have hend (r : Retired) (s : State) : InterruptStep s (endStep r s) := by
    unfold endStep
    split <;> exact interruptStep_of_eq rfl
  exact h.rel_of hbegin hend keeps_interrupts_zicsr

omit [SoftFloat] in
/-- The machine starts with legal registers. -/
theorem Boots.interruptLegal {entry : Xlenbits} (h : Boots entry s) : InterruptLegal s := by
  obtain ⟨mem, s₀, hinit, rfl⟩ := h
  unfold initModel at hinit
  -- the registers of the HTIF are zero already
  rw [Exec.run_bind_of_ok (show initPlatform.run (State.zero mem) = .ok ((), State.zero mem)
    from rfl)] at hinit
  obtain ⟨_, s₁, hsys, htlb⟩ := Exec.run_bind_ok.mp hinit
  cases htlb
  exact interruptStep_of_eq (s := s₁) rfl (interruptLegal_of_reset hsys)

/-- The registers are legal in every reachable state. -/
theorem interruptLegal_of_trace {entry : Xlenbits} {s₀ : State}
    {path : List (State × Turn × State)} (hboot : Boots entry s₀)
    (h : Trace Turns s₀ path s) : InterruptLegal s :=
  h.invariant hboot.interruptLegal (fun _ hs hstep => hstep.interruptStep hs)

end

/-! ## The selection in a legal state -/

/-- The selection completes and follows the rule. -/
theorem InterruptLegal.dispatch (h : InterruptLegal s) (p : Privilege) :
    ∃ r, dispatchInterrupt s p = .ok r ∧ DispatchRule s p r := by
  by_cases hm : MachineTakes s p
  · obtain ⟨i, hd, hrule⟩ := dispatchRule_machine h hm
    exact ⟨_, hd, hrule⟩
  by_cases hs : SupervisorTakes s p
  · obtain ⟨i, hd, hrule⟩ := dispatchRule_supervisor h hm hs
    exact ⟨_, hd, hrule⟩
  · exact ⟨none, dispatchInterrupt_none h.misa hm hs, dispatchRule_none hm hs⟩

/-- The trap to a privilege that can handle it has a vector. -/
theorem InterruptLegal.exists_entry (h : InterruptLegal s) {d : Privilege}
    (hd : CanHandle s s.curPrivilege d) (i : InterruptType) :
    ∃ s', TrapEntry true (interruptTypeToBits i) none s d s' := by
  rcases hd with rfl | ⟨rfl, hS, hp⟩
  · obtain ⟨target, ht⟩ := tvecAddr_isSome h.mtvec
      (trapCause s.mcause true (interruptTypeToBits i))
    exact ⟨_, .machine ht⟩
  · obtain ⟨target, ht⟩ := tvecAddr_isSome h.stvec
      (trapCause s.scause true (interruptTypeToBits i))
    exact ⟨_, .supervisor hS hp ht⟩

/-! ## The entry to the handler -/

/-- The trap to M-mode turns the interrupts of M-mode off. -/
theorem mie_mstatusTrapM (m : Xlenbits) (p : Privilege) :
    Mstatus.MIE.get (mstatusTrapM m p) = 0#1 := by
  have hx := xlen_ge
  unfold mstatusTrapM
  dsimp only
  rw [Field.get_set_of_apart (f := Mstatus.MIE) (g := Mstatus.MPP) (by decide),
    Field.get_set (by show 3 + 1 ≤ xlen; omega)]

/-- The trap to S-mode turns the interrupts of S-mode off. -/
theorem sie_mstatusTrapS (m : Xlenbits) (spp : BitVec 1) :
    Mstatus.SIE.get (mstatusTrapS m spp) = 0#1 := by
  have hx := xlen_ge
  unfold mstatusTrapS
  dsimp only
  rw [Field.get_set_of_apart (f := Mstatus.SIE) (g := Mstatus.SPP) (by decide),
    Field.get_set (by show 1 + 1 ≤ xlen; omega)]

/-- `s'` begins the handler in M-mode of the interrupt `i` that came in `s`: apart from the
registers that record the trap, the program counter and what the loop sets when a step begins, it
is `s`. -/
structure EnteredM (s : State) (i : InterruptType) (s' : State) : Prop where
  privilege : s'.curPrivilege = .Machine
  cause : s'.mcause = trapCause s.mcause true (interruptTypeToBits i)
  epc : s'.mepc = s.pc
  vector : tvecAddr s.mtvec s'.mcause = some s'.pc
  stacked : Mstatus.MPP.get s'.mstatus = privLevelToBits s.curPrivilege
    ∧ Mstatus.MPIE.get s'.mstatus = Mstatus.MIE.get s.mstatus
  off : Mstatus.MIE.get s'.mstatus = 0#1
  mstatus : SameOutside machineTrapBits s.mstatus s'.mstatus
  frame : s' = { s with
    curPrivilege := s'.curPrivilege
    mcause := s'.mcause
    mtval := 0#_
    mepc := s'.mepc
    mstatus := s'.mstatus
    pc := s'.pc
    nextPC := s'.pc
    minstretIncrement := Counteren.IR.get s.mcountinhibit == 0#1 }

/-- `s'` begins the handler in S-mode of the interrupt `i` that came in `s`: apart from the
registers that record the trap, the program counter and what the loop sets when a step begins, it
is `s`. -/
structure EnteredS (s : State) (i : InterruptType) (s' : State) : Prop where
  privilege : s'.curPrivilege = .Supervisor
  cause : s'.scause = trapCause s.scause true (interruptTypeToBits i)
  epc : s'.sepc = s.pc
  vector : tvecAddr s.stvec s'.scause = some s'.pc
  stacked : Mstatus.SPP.get s'.mstatus = (if s.curPrivilege = .User then 0#1 else 1#1)
    ∧ Mstatus.SPIE.get s'.mstatus = Mstatus.SIE.get s.mstatus
  off : Mstatus.SIE.get s'.mstatus = 0#1
  mstatus : SameOutside supervisorTrapBits s.mstatus s'.mstatus
  frame : s' = { s with
    curPrivilege := s'.curPrivilege
    scause := s'.scause
    stval := 0#_
    sepc := s'.sepc
    mstatus := s'.mstatus
    pc := s'.pc
    nextPC := s'.pc
    minstretIncrement := Counteren.IR.get s.mcountinhibit == 0#1 }

/-- `s'` begins the handler at the privilege `d`. -/
def Entered (s : State) (i : InterruptType) (d : Privilege) (s' : State) : Prop :=
  (d = .Machine ∧ EnteredM s i s') ∨ (d = .Supervisor ∧ EnteredS s i s')

/-- The end of a step that is the entry to a trap. -/
theorem entered_of_entry {i : InterruptType} {d : Privilege}
    (h : TrapEntry true (interruptTypeToBits i) none s.begin d s') :
    Entered s i d (endStep .RETIRE_FAIL s') := by
  cases h with
  | machine ht =>
      exact Or.inl ⟨rfl, rfl, rfl, rfl, ht,
        ⟨mpp_mstatusTrapM _ _, mpie_mstatusTrapM _ _⟩, mie_mstatusTrapM _ _,
        sameOutside_mstatusTrapM _ _, rfl⟩
  | supervisor hS hp ht =>
      exact Or.inr ⟨rfl, rfl, rfl, rfl, ht,
        ⟨spp_mstatusTrapS _ _, spie_mstatusTrapS _ _⟩, sie_mstatusTrapS _ _,
        sameOutside_mstatusTrapS _ _, rfl⟩

/-- The handler of an interrupt is not interrupted before the devices or the handler itself
change what the selection depends on. -/
theorem Entered.dispatch {i : InterruptType} {d : Privilege} (h : Entered s i d s')
    (hrule : DispatchRule s s.curPrivilege (some (i, d))) (hS : extensionEnabled s .S = true) :
    dispatchInterrupt s' s'.curPrivilege = .ok none := by
  rcases h with ⟨rfl, h⟩ | ⟨rfl, h⟩
  · have hS' : extensionEnabled s' .S = true := by
      rw [h.frame]
      exact hS
    rw [h.privilege]
    refine dispatchInterrupt_none hS' ?_ ?_
    -- in M-mode the enable decides, whatever is pending
    · rintro ⟨-, hne | hmie⟩
      · exact hne rfl
      · rw [h.off] at hmie
        cases hmie
    · rintro ⟨-, hu | ⟨hs, -⟩⟩
      · cases hu
      · cases hs
  · have hS' : extensionEnabled s' .S = true := by
      rw [h.frame]
      exact hS
    obtain ⟨hmachine, hsup, -⟩ := (hrule.supervisor i).mp rfl
    have hraised (b : Bool) (j : ℕ) : Raised s' b j ↔ Raised s b j := by
      rw [h.frame]
      rfl
    have hbelow : s.curPrivilege ≠ .Machine := by
      rcases hsup.2 with hp | ⟨hp, -⟩ <;> rw [hp] <;> decide
    rw [h.privilege]
    refine dispatchInterrupt_none hS' ?_ ?_
    -- what M-mode would take now it would have taken in place of this interrupt
    · rintro ⟨⟨j, hj⟩, -⟩
      exact hmachine ⟨⟨j, (hraised false j).mp hj⟩, Or.inl hbelow⟩
    · rintro ⟨-, hu | ⟨-, hsie⟩⟩
      · cases hu
      · rw [h.off] at hsie
        cases hsie

/-! ## The step -/

section

variable [SoftFloat]

/-- A step that takes an interrupt. -/
theorem run_step_interrupt {i : InterruptType} {d : Privilege} {s₂ : State}
    (hintr : dispatchInterrupt s s.curPrivilege = .ok (some (i, d)))
    (hentry : TrapEntry true (interruptTypeToBits i) none s.begin d s₂) :
    step.run s = .ok (false, endStep .RETIRE_FAIL s₂) := by
  have hcheck : (Exec.checks (fun t : State => dispatchInterrupt t t.curPrivilege)).run s.begin
      = .ok (some (i, d), s.begin) := Exec.run_checks_ok.mpr ⟨hintr, rfl⟩
  unfold step
  rw [Exec.run_bind_of_ok (Exec.run_update _ _), Exec.run_bind_of_ok hcheck]
  unfold onInterrupt
  simp only [bind_assoc, pure_bind]
  rw [Exec.run_bind_of_ok (handleInterrupt_of_entry hentry)]
  rfl

/-- A step that takes none. -/
theorem run_step_fetch (hintr : dispatchInterrupt s s.curPrivilege = .ok none) :
    step.run s = (do
      let r ← onFetch (← fetch)
      tickPc
      retireInstruction r.1
      pure r.2 : M Bool).run s.begin := by
  have hcheck : (Exec.checks (fun t : State => dispatchInterrupt t t.curPrivilege)).run s.begin
      = .ok (none, s.begin) := Exec.run_checks_ok.mpr ⟨hintr, rfl⟩
  unfold step
  rw [Exec.run_bind_of_ok (Exec.run_update _ _), Exec.run_bind_of_ok hcheck]
  unfold onInterrupt
  simp only [bind_assoc]

/-- **An interrupt is taken at once.**  In every reachable state the selection completes and
follows the rule.  The interrupt that it selects is what the next step takes: the step completes,
nothing of the interrupted program is executed, its state is kept but for the registers that record
the trap, and the handler begins at its vector, where no interrupt is selected.  Where none is
selected the step fetches. -/
theorem interrupt_taken {entry : Xlenbits} {s₀ : State} {path : List (State × Turn × State)}
    (hboot : Boots entry s₀) (h : Trace Turns s₀ path s) :
    ∃ r, dispatchInterrupt s s.curPrivilege = .ok r ∧ DispatchRule s s.curPrivilege r
      ∧ (∀ i d, r = some (i, d) → ∃ s', step.run s = .ok (false, s') ∧ Entered s i d s'
        ∧ dispatchInterrupt s' s'.curPrivilege = .ok none)
      ∧ (r = none → step.run s = (do
          let r ← onFetch (← fetch)
          tickPc
          retireInstruction r.1
          pure r.2 : M Bool).run s.begin) := by
  have hlegal := interruptLegal_of_trace hboot h
  obtain ⟨r, hintr, hrule⟩ := hlegal.dispatch s.curPrivilege
  refine ⟨r, hintr, hrule, ?_, ?_⟩
  · rintro i d rfl
    have hbegin : InterruptLegal s.begin := interruptStep_of_eq (s := s) rfl hlegal
    have hcan : CanHandle s.begin s.begin.curPrivilege d := canHandle_dispatchInterrupt hintr
    obtain ⟨s₂, hentry⟩ := hbegin.exists_entry hcan i
    have hentered := entered_of_entry hentry
    exact ⟨_, run_step_interrupt hintr hentry, hentered, hentered.dispatch hrule hlegal.misa⟩
  · rintro rfl
    exact run_step_fetch hintr

end

/-- A memory with a program where the RAM begins that enables the interrupt of the timer: `addi`,
a write of `mie` and one of `mstatus`. -/
def timerMem : ℕ → BitVec 8 :=
  Bytes.write (fun _ => 0#8) 0x80000000 12 (0x30045073#32 ++ 0x30409073#32 ++ 0x08000093#32)

/-- Whether the interrupt of the timer is what is selected. -/
def selectsTimer (s : State) : Bool :=
  match dispatchInterrupt s s.curPrivilege with
  | .ok r => r == some (.I_M_Timer, .Machine)
  | .error _ => false

omit [Platform] in
/-- After the program and a tick of the clock, the fourth step enters the handler. -/
theorem interrupt_taken_timer :
    letI := rv64Pmp 16 (by decide)
    letI : SoftFloat := default
    ∃ s₀ s s' : State, Boots 0x80000000#_ s₀ ∧ (∃ path, Trace Turns s₀ path s)
      ∧ step.run s = .ok (false, s') ∧ EnteredM s .I_M_Timer s'
      ∧ dispatchInterrupt s' s'.curPrivilege = .ok none := by
  let := rv64Pmp 16 (by decide)
  let : SoftFloat := default
  have hall : initModel.passes (State.zero timerMem) (fun _ s₀ =>
      step.passes { s₀ with pc := 0x80000000#_ } (fun _ s₁ =>
        step.passes s₁ (fun _ s₂ =>
          step.passes s₂ (fun _ s₃ =>
            (do tickClock; tickPlatform : M Unit).passes s₃ (fun _ s => selectsTimer s))))) = true := by
    decide +kernel
  obtain ⟨_, s₀, hinit, hall⟩ := Exec.passes_iff.mp hall
  obtain ⟨b₁, s₁, hstep₁, hall⟩ := Exec.passes_iff.mp hall
  obtain ⟨b₂, s₂, hstep₂, hall⟩ := Exec.passes_iff.mp hall
  obtain ⟨b₃, s₃, hstep₃, hall⟩ := Exec.passes_iff.mp hall
  obtain ⟨_, s, htick, htest⟩ := Exec.passes_iff.mp hall
  have hboot : Boots 0x80000000#_ { s₀ with pc := 0x80000000#_ } := ⟨_, s₀, hinit, rfl⟩
  have hturn₁ : Turns .step { s₀ with pc := 0x80000000#_ } s₁ := ⟨b₁, hstep₁⟩
  have hturn₂ : Turns .step s₁ s₂ := ⟨b₂, hstep₂⟩
  have hturn₃ : Turns .step s₂ s₃ := ⟨b₃, hstep₃⟩
  have hturn₄ : Turns .tick s₃ s := htick
  have htrace := (((Trace.nil.cons hturn₁).cons hturn₂).cons hturn₃).cons hturn₄
  obtain ⟨r, hintr, -, htaken, -⟩ := interrupt_taken hboot htrace
  unfold selectsTimer at htest
  rw [hintr] at htest
  obtain ⟨s', hstep, hentered, hnone⟩ := htaken _ _ (beq_iff_eq.mp htest)
  rcases hentered with ⟨-, hM⟩ | ⟨hd, -⟩
  · exact ⟨_, s, s', hboot, ⟨_, htrace⟩, hstep, hM, hnone⟩
  · cases hd

end SailRiscv
