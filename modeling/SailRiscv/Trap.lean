/-
# What the entry to a trap does

Inversion of the trap handler: a completed trap entry goes to M-mode or to S-mode, writes
the cause, value and exception program counter of that mode, stacks the privilege in
`mstatus`, and continues at the trap vector.
-/
import SailRiscv.Frame

namespace SailRiscv

open Bits Platform

variable [Platform]

/-- The state after a trap to M-mode with the vector `target`. -/
def trapStateM (s : State) (intr : Bool) (c : BitVec 8) (info : Option Xlenbits)
    (target : Xlenbits) : State :=
  { s with
    mcause := trapCause s.mcause intr c
    mstatus := mstatusTrapM s.mstatus s.curPrivilege
    mtval := tval info
    mepc := s.pc
    curPrivilege := .Machine
    nextPC := target }

/-- The state after a trap to S-mode with the vector `target`. -/
def trapStateS (s : State) (intr : Bool) (c : BitVec 8) (info : Option Xlenbits)
    (target : Xlenbits) : State :=
  { s with
    scause := trapCause s.scause intr c
    mstatus := mstatusTrapS s.mstatus (if s.curPrivilege = .User then 0#1 else 1#1)
    stval := tval info
    sepc := s.pc
    curPrivilege := .Supervisor
    nextPC := target }

/-- A completed trap to the privilege `p`. -/
inductive TrapEntry (intr : Bool) (c : BitVec 8) (info : Option Xlenbits) (s : State) :
    Privilege → State → Prop
  | machine {target : Xlenbits} (htarget : tvecAddr s.mtvec (trapCause s.mcause intr c) = some target) :
      TrapEntry intr c info s .Machine (trapStateM s intr c info target)
  | supervisor {target : Xlenbits} (hS : extensionEnabled s .S = true)
      (hpriv : s.curPrivilege ≠ .Machine)
      (htarget : tvecAddr s.stvec (trapCause s.scause intr c) = some target) :
      TrapEntry intr c info s .Supervisor (trapStateS s intr c info target)

/-- The trap vector, when there is one. -/
theorem prepareTrapVector_ok {s : State} {p : Privilege} {cause target : Xlenbits}
    (h : prepareTrapVector s p cause = .ok target) :
    (p = .Machine ∧ tvecAddr s.mtvec cause = some target)
      ∨ (p = .Supervisor ∧ tvecAddr s.stvec cause = some target) := by
  unfold prepareTrapVector at h
  cases p with
  | User => cases h
  | Machine =>
      refine Or.inl ⟨rfl, ?_⟩
      cases ht : tvecAddr s.mtvec cause with
      | none => simp only [pure_bind, ht] at h; cases h
      | some t => simp only [pure_bind, ht] at h; cases h; rfl
  | Supervisor =>
      refine Or.inr ⟨rfl, ?_⟩
      cases ht : tvecAddr s.stvec cause with
      | none => simp only [pure_bind, ht] at h; cases h
      | some t => simp only [pure_bind, ht] at h; cases h; rfl

/-- **Inversion of the trap handler**, followed by the jump to the vector. -/
theorem trapHandler_cases {d : Privilege} {intr : Bool} {c : BitVec 8} {info : Option Xlenbits}
    {s s' : State} {target : Xlenbits}
    (h : (trapHandler d intr c s.pc info).run s = .ok (target, s')) :
    TrapEntry intr c info s d { s' with nextPC := target } := by
  unfold trapHandler at h
  cases d with
  | User => cases h
  | Machine =>
      rw [Exec.run_bind_of_ok rfl] at h
      obtain ⟨hv, rfl⟩ := Exec.run_checks_ok.mp h
      rcases prepareTrapVector_ok hv with ⟨-, ht⟩ | ⟨hp, -⟩
      · exact .machine ht
      · cases hp
  | Supervisor =>
      rw [Exec.run_bind_of_ok (Exec.run_reads _ _)] at h
      by_cases hS : extensionEnabled s .S = true
      swap
      · rw [show extensionEnabled s .S = false by simpa using hS] at h
        cases h
      rw [hS, Exec.run_bind_of_ok rfl, Exec.run_bind_of_ok (Exec.run_reads _ _)] at h
      have key {spp : BitVec 1} (hpriv : s.curPrivilege ≠ .Machine)
          (hspp : spp = if s.curPrivilege = .User then 0#1 else 1#1)
          (h : (do
            Exec.update (fun s : State => { s with
              scause := trapCause s.scause intr c
              mstatus := mstatusTrapS s.mstatus spp
              stval := tval info
              sepc := s.pc
              curPrivilege := .Supervisor })
            Exec.checks (fun s => prepareTrapVector s .Supervisor s.scause) : M Xlenbits).run s
              = .ok (target, s')) :
          TrapEntry intr c info s .Supervisor { s' with nextPC := target } := by
        subst hspp
        rw [Exec.run_bind_of_ok rfl] at h
        obtain ⟨hv, rfl⟩ := Exec.run_checks_ok.mp h
        rcases prepareTrapVector_ok hv with ⟨hp, -⟩ | ⟨-, ht⟩
        · cases hp
        · exact .supervisor hS hpriv ht
      cases hp : s.curPrivilege with
      | Machine => rw [hp] at h; cases h
      | User =>
          rw [hp] at h
          exact key (by simp [hp]) (by simp [hp]) h
      | Supervisor =>
          rw [hp] at h
          exact key (by simp [hp]) (by simp [hp]) h

/-- **Completion of the trap handler**: every trap entry is one of its runs. -/
theorem trapHandler_of_entry {d : Privilege} {intr : Bool} {c : BitVec 8}
    {info : Option Xlenbits} {s s' : State} (h : TrapEntry intr c info s d s') :
    ∃ target s₁, (trapHandler d intr c s.pc info).run s = .ok (target, s₁)
      ∧ s' = { s₁ with nextPC := target } := by
  unfold trapHandler
  cases h with
  | @machine target ht =>
      refine ⟨target, { trapStateM s intr c info target with nextPC := s.nextPC }, ?_, ?_⟩
      · simp only
        rw [Exec.run_bind_of_ok rfl]
        refine Exec.run_checks_ok.mpr ⟨?_, rfl⟩
        unfold prepareTrapVector
        simp only [pure_bind]
        rw [ht]
        rfl
      · rfl
  | @supervisor target hS hpriv ht =>
      have hprep (s₁ : State) (hstvec : s₁.stvec = s.stvec)
          (hscause : s₁.scause = trapCause s.scause intr c) :
          prepareTrapVector s₁ .Supervisor s₁.scause = .ok target := by
        unfold prepareTrapVector
        simp only [pure_bind, hstvec, hscause, ht]
        rfl
      simp only
      rw [Exec.run_bind_of_ok (Exec.run_reads _ _), hS, Exec.run_bind_of_ok rfl,
        Exec.run_bind_of_ok (Exec.run_reads _ _)]
      cases hp : s.curPrivilege with
      | Machine => exact absurd hp hpriv
      | User =>
          refine ⟨target, { trapStateS s intr c info target with nextPC := s.nextPC }, ?_, ?_⟩
          · rw [trapStateS, hp]
            simp only
            rw [Exec.run_bind_of_ok rfl, Exec.run_bind_of_ok rfl]
            exact Exec.run_checks_ok.mpr ⟨hprep _ rfl rfl, rfl⟩
          · rfl
      | Supervisor =>
          refine ⟨target, { trapStateS s intr c info target with nextPC := s.nextPC }, ?_, ?_⟩
          · rw [trapStateS, hp]
            simp only
            rw [Exec.run_bind_of_ok rfl, Exec.run_bind_of_ok rfl]
            exact Exec.run_checks_ok.mpr ⟨hprep _ rfl rfl, rfl⟩
          · rfl

/-- A synchronous exception enters a trap at the delegated privilege. -/
theorem handleSync_cases {e : SyncException} {s s' : State}
    (h : (handleSync e).run s = .ok ((), s')) :
    TrapEntry false (exceptionTypeToBits e.trap) e.excinfo s
      (exceptionDelegatee s e.trap s.curPrivilege) s' := by
  unfold handleSync exceptionHandler at h
  rw [Exec.run_bind_of_ok (Exec.run_reads _ _), Exec.run_bind_of_ok (Exec.run_reads _ _)] at h
  obtain ⟨target, s₁, hm, hset⟩ := Exec.run_bind_ok.mp h
  rw [Exec.run_bind_of_ok (Exec.run_reads _ _)] at hm
  cases hset
  exact trapHandler_cases hm

/-- An interrupt enters a trap at the privilege that handles it. -/
theorem handleInterrupt_cases {i : InterruptType} {p : Privilege} {s s' : State}
    (h : (handleInterrupt i p).run s = .ok ((), s')) :
    TrapEntry true (interruptTypeToBits i) none s p s' := by
  unfold handleInterrupt at h
  rw [Exec.run_bind_of_ok (Exec.run_reads _ _)] at h
  obtain ⟨target, s₁, hm, hset⟩ := Exec.run_bind_ok.mp h
  cases hset
  exact trapHandler_cases hm

/-- Every trap entry of an interrupt is the run of its handler. -/
theorem handleInterrupt_of_entry {i : InterruptType} {p : Privilege} {s s' : State}
    (h : TrapEntry true (interruptTypeToBits i) none s p s') :
    (handleInterrupt i p).run s = .ok ((), s') := by
  obtain ⟨target, s₁, hrun, rfl⟩ := trapHandler_of_entry h
  unfold handleInterrupt
  rw [Exec.run_bind_of_ok (Exec.run_reads _ _), Exec.run_bind_of_ok hrun]
  rfl

/-- An illegal instruction is a synchronous exception. -/
theorem handleIllegal_cases {s s' : State} (h : (handleIllegal).run s = .ok ((), s')) :
    ∃ info, (handleSync ⟨.E_Illegal_Instr, info⟩).run s = .ok ((), s') := by
  unfold handleIllegal at h
  cases hb : platMtvalHasIllegalInstBits with
  | true =>
      rw [hb, if_pos rfl, Exec.run_bind_of_ok (Exec.run_reads _ _)] at h
      exact ⟨_, h⟩
  | false =>
      rw [hb, if_neg (by simp), Exec.run_bind_of_ok (Exec.run_pure _ _)] at h
      exact ⟨_, h⟩

end SailRiscv
