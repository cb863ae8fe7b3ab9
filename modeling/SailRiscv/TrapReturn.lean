/-
# A trap and the return from it

The trap to the privilege that an exception or an interrupt is delegated to, followed by the
return from that privilege, gives back the privilege, the interrupt enable and the program
counter, and changes only what records the trap.  The handler itself never fails: only the
choice of the vector can, for a trap-vector mode that no reachable state holds.
-/
import SailRiscv.MstatusLegal

namespace SailRiscv

open Bits Platform

/-! ## Updates of a register outside some bits -/

/-- The registers agree outside the bits `B`. -/
def SameOutside {w : ℕ} (B : List ℕ) (v v' : BitVec w) : Prop :=
  ∀ i, i ∉ B → v'.getLsbD i = v.getLsbD i

namespace SameOutside

variable {w : ℕ} {B : List ℕ} {v v' v'' : BitVec w}

theorem refl (B : List ℕ) (v : BitVec w) : SameOutside B v v := fun _ _ => rfl

theorem trans (h : SameOutside B v v') (h' : SameOutside B v' v'') : SameOutside B v v'' := by
  intro i hi
  rw [h' i hi, h i hi]

/-- More bits may change. -/
theorem mono {B' : List ℕ} (h : SameOutside B v v') (hB : B ⊆ B') : SameOutside B' v v' :=
  fun i hi => h i (fun hmem => hi (hB hmem))

/-- Writing a field changes its own bits only. -/
theorem set (h : SameOutside B v v') {f : Field}
    (hf : ∀ i, f.lsb ≤ i → i < f.lsb + f.width → i ∈ B) (x : BitVec f.width) :
    SameOutside B v (f.set v' x) := by
  intro i hi
  rw [Field.getLsbD_set]
  split
  · rename_i hin
    exact absurd (hf i hin.2.1 hin.2.2) hi
  · exact h i hi

/-- A bit that turns out to be the same can be left out. -/
theorem drop {k : ℕ} (h : SameOutside (k :: B) v v') (hk : v'.getLsbD k = v.getLsbD k) :
    SameOutside B v v' := by
  intro i hi
  by_cases hik : i = k
  · rw [hik, hk]
  · exact h i (by simp [hik, hi])

end SameOutside

/-- One-bit fields with the same value. -/
theorem getLsbD_eq_of_get {w k : ℕ} {v v' : BitVec w}
    (h : Field.get ⟨k, 1⟩ v' = Field.get ⟨k, 1⟩ v) : v'.getLsbD k = v.getLsbD k := by
  rw [Field.get_bit, Field.get_bit] at h
  have hbit := congrArg (fun b : BitVec 1 => b.getLsbD 0) h
  simpa using hbit

variable [Platform]

/-! ## `mstatus` through a trap and the return -/

section

variable (m : Xlenbits) (p q lowest : Privilege)

/-- The trap to M-mode stacks the interrupt enable. -/
theorem mpie_mstatusTrapM : Mstatus.MPIE.get (mstatusTrapM m p) = Mstatus.MIE.get m := by
  have hx := xlen_ge
  unfold mstatusTrapM
  dsimp only
  rw [Field.get_set_of_apart (f := Mstatus.MPIE) (g := Mstatus.MPP) (by decide),
    Field.get_set_of_apart (f := Mstatus.MPIE) (g := Mstatus.MIE) (by decide),
    Field.get_set (by show 7 + 1 ≤ xlen; omega)]

/-- The trap to M-mode stacks the privilege. -/
theorem mpp_mstatusTrapM : Mstatus.MPP.get (mstatusTrapM m p) = privLevelToBits p := by
  have hx := xlen_ge
  unfold mstatusTrapM
  dsimp only
  rw [Field.get_set (by show 11 + 2 ≤ xlen; omega)]

/-- `MRET` unstacks the interrupt enable. -/
theorem mie_mstatusMret : Mstatus.MIE.get (mstatusMret m q lowest) = Mstatus.MPIE.get m := by
  have hx := xlen_ge
  have hmie : Mstatus.MIE.get (Mstatus.MPP.set (Mstatus.MPIE.set (Mstatus.MIE.set m
      (Mstatus.MPIE.get m)) 1#1) (privLevelToBits lowest)) = Mstatus.MPIE.get m := by
    rw [Field.get_set_of_apart (f := Mstatus.MIE) (g := Mstatus.MPP) (by decide),
      Field.get_set_of_apart (f := Mstatus.MIE) (g := Mstatus.MPIE) (by decide),
      Field.get_set (by show 3 + 1 ≤ xlen; omega)]
  unfold mstatusMret
  dsimp only
  split
  · rw [Field.get_set_of_apart (f := Mstatus.MIE) (g := Mstatus.MPRV) (by decide), hmie]
  · exact hmie

/-- The trap to S-mode stacks the interrupt enable. -/
theorem spie_mstatusTrapS (spp : BitVec 1) :
    Mstatus.SPIE.get (mstatusTrapS m spp) = Mstatus.SIE.get m := by
  have hx := xlen_ge
  unfold mstatusTrapS
  dsimp only
  rw [Field.get_set_of_apart (f := Mstatus.SPIE) (g := Mstatus.SPP) (by decide),
    Field.get_set_of_apart (f := Mstatus.SPIE) (g := Mstatus.SIE) (by decide),
    Field.get_set (by show 5 + 1 ≤ xlen; omega)]

/-- The trap to S-mode stacks the privilege. -/
theorem spp_mstatusTrapS (spp : BitVec 1) : Mstatus.SPP.get (mstatusTrapS m spp) = spp := by
  have hx := xlen_ge
  unfold mstatusTrapS
  dsimp only
  rw [Field.get_set (by show 8 + 1 ≤ xlen; omega)]

/-- `SRET` unstacks the interrupt enable. -/
theorem sie_mstatusSret : Mstatus.SIE.get (mstatusSret m q) = Mstatus.SPIE.get m := by
  have hx := xlen_ge
  have hsie : Mstatus.SIE.get (Mstatus.SPP.set (Mstatus.SPIE.set (Mstatus.SIE.set m
      (Mstatus.SPIE.get m)) 1#1) 0#1) = Mstatus.SPIE.get m := by
    rw [Field.get_set_of_apart (f := Mstatus.SIE) (g := Mstatus.SPP) (by decide),
      Field.get_set_of_apart (f := Mstatus.SIE) (g := Mstatus.SPIE) (by decide),
      Field.get_set (by show 1 + 1 ≤ xlen; omega)]
  unfold mstatusSret
  dsimp only
  split
  · rw [Field.get_set_of_apart (f := Mstatus.SIE) (g := Mstatus.MPRV) (by decide), hsie]
  · exact hsie

/-- The trap to S-mode and `SRET` return to the privilege, when it is not M-mode. -/
theorem sretPrivilege_mstatusTrapS (hp : p ≠ .Machine) :
    sretPrivilege (mstatusTrapS m (if p = .User then 0#1 else 1#1)) = p := by
  unfold sretPrivilege
  rw [spp_mstatusTrapS]
  cases p with
  | Machine => exact absurd rfl hp
  | User => rfl
  | Supervisor => rfl

omit [Platform] in
/-- The bits of a field of one bit. -/
theorem bit_mem {k : ℕ} {B : List ℕ} (hk : k ∈ B) : ∀ i, k ≤ i → i < k + 1 → i ∈ B := by
  intro i hlo hhi
  have hik : i = k := by omega
  rwa [hik]

omit [Platform] in
/-- The bits of `MPP`. -/
theorem mpp_mem {B : List ℕ} (h₁₁ : 11 ∈ B) (h₁₂ : 12 ∈ B) : ∀ i, 11 ≤ i → i < 11 + 2 → i ∈ B := by
  intro i hlo hhi
  rcases (by omega : i = 11 ∨ i = 12) with rfl | rfl
  · exact h₁₁
  · exact h₁₂

/-- The bits of `mstatus` that a trap to M-mode changes. -/
def machineTrapBits : List ℕ := [3, 7, 11, 12]

/-- The bits of `mstatus` that a trap to S-mode changes. -/
def supervisorTrapBits : List ℕ := [1, 5, 8]

theorem sameOutside_mstatusTrapM : SameOutside machineTrapBits m (mstatusTrapM m p) := by
  refine SameOutside.set ?_ (mpp_mem (by decide) (by decide)) _
  refine SameOutside.set ?_ (bit_mem (by decide)) _
  exact (SameOutside.refl _ m).set (bit_mem (by decide)) _

theorem sameOutside_mstatusTrapS (spp : BitVec 1) :
    SameOutside supervisorTrapBits m (mstatusTrapS m spp) := by
  refine SameOutside.set ?_ (bit_mem (by decide)) _
  refine SameOutside.set ?_ (bit_mem (by decide)) _
  exact (SameOutside.refl _ m).set (bit_mem (by decide)) _

/-- A trap to M-mode and the return change `MPIE`, `MPP` and `MPRV` only. -/
theorem sameOutside_mret :
    SameOutside [7, 11, 12, 17] m (mstatusMret (mstatusTrapM m p) q lowest) := by
  have htrap : SameOutside [3, 7, 11, 12, 17] m (mstatusTrapM m p) :=
    (sameOutside_mstatusTrapM m p).mono (by decide)
  have hret : SameOutside [3, 7, 11, 12, 17] m (mstatusMret (mstatusTrapM m p) q lowest) := by
    have hmpp : SameOutside [3, 7, 11, 12, 17] m (Mstatus.MPP.set (Mstatus.MPIE.set
        (Mstatus.MIE.set (mstatusTrapM m p) (Mstatus.MPIE.get (mstatusTrapM m p))) 1#1)
        (privLevelToBits lowest)) := by
      refine SameOutside.set ?_ (mpp_mem (by decide) (by decide)) _
      refine SameOutside.set ?_ (bit_mem (by decide)) _
      exact htrap.set (bit_mem (by decide)) _
    unfold mstatusMret
    dsimp only
    split
    · exact hmpp.set (bit_mem (by decide)) _
    · exact hmpp
  exact hret.drop (getLsbD_eq_of_get ((mie_mstatusMret _ _ _).trans (mpie_mstatusTrapM m p)))

/-- A trap to S-mode and the return change `SPIE`, `SPP` and `MPRV` only. -/
theorem sameOutside_sret (spp : BitVec 1) :
    SameOutside [5, 8, 17] m (mstatusSret (mstatusTrapS m spp) q) := by
  have htrap : SameOutside [1, 5, 8, 17] m (mstatusTrapS m spp) :=
    (sameOutside_mstatusTrapS m spp).mono (by decide)
  have hret : SameOutside [1, 5, 8, 17] m (mstatusSret (mstatusTrapS m spp) q) := by
    have hspp : SameOutside [1, 5, 8, 17] m (Mstatus.SPP.set (Mstatus.SPIE.set
        (Mstatus.SIE.set (mstatusTrapS m spp) (Mstatus.SPIE.get (mstatusTrapS m spp))) 1#1)
        0#1) := by
      refine SameOutside.set ?_ (bit_mem (by decide)) _
      refine SameOutside.set ?_ (bit_mem (by decide)) _
      exact htrap.set (bit_mem (by decide)) _
    unfold mstatusSret
    dsimp only
    split
    · exact hspp.set (bit_mem (by decide)) _
    · exact hspp
  exact hret.drop (getLsbD_eq_of_get ((sie_mstatusSret _ _).trans (spie_mstatusTrapS m spp)))

end

/-! ## The traps -/

variable {s : State}

/-- The program counter is aligned to two bytes, and to four without the C extension. -/
def PcAligned (s : State) : Prop :=
  s.pc.getLsbD 0 = false ∧ (Misa.C.get s.misa ≠ 1#1 → s.pc.getLsbD 1 = false)

/-- The mask of a return leaves an aligned program counter alone. -/
theorem PcAligned.masked (h : PcAligned s) : s.pc &&& pcAlignmentMask s = s.pc := by
  apply BitVec.eq_of_getLsbD_eq
  intro i hi
  unfold pcAlignmentMask
  rw [BitVec.getLsbD_and, BitVec.getLsbD_not]
  by_cases hC : Misa.C.get s.misa = 1#1
  · rw [if_pos hC, BitVec.getLsbD_ofNat]
    simp [hi]
  · rw [if_neg hC]
    by_cases h1 : i = 1
    · rw [h1, h.2 hC, Bool.false_and]
    · have hbit : (0b10#_ : Xlenbits).getLsbD i = false := by
        rw [BitVec.getLsbD_ofNat, show (2 : ℕ) = 2 ^ 1 from rfl, Nat.testBit_two_pow_of_ne (by omega),
          Bool.and_false]
      rw [hbit]
      simp [hi]

/-- The entry to a trap at the privilege `d`, as `exception_handler` and `handle_interrupt`
make it in the state `s`. -/
inductive TrapOf (s : State) : Privilege → M Xlenbits → Prop
  | exception (e : SyncException) : TrapOf s (exceptionDelegatee s e.trap s.curPrivilege)
      (exceptionHandler s.curPrivilege (.CTL_TRAP e) s.pc)
  | interrupt {i : InterruptType} {d : Privilege}
      (h : dispatchInterrupt s s.curPrivilege = .ok (some (i, d))) :
      TrapOf s d (trapHandler d true (interruptTypeToBits i) s.pc none)

/-- The privileges that can handle a trap from the privilege `p`. -/
def CanHandle (s : State) (p d : Privilege) : Prop :=
  d = .Machine ∨ (d = .Supervisor ∧ extensionEnabled s .S = true ∧ p ≠ .Machine)

/-- A trap is never handled at a lower privilege. -/
theorem CanHandle.not_lower {p d : Privilege} (h : CanHandle s p d) :
    privLevelToBits p ≤ privLevelToBits d := by
  rcases h with rfl | ⟨rfl, -, hp⟩
  · cases p <;> decide
  · cases p with
    | Machine => exact absurd rfl hp
    | Supervisor => decide
    | User => decide

theorem canHandle_exceptionDelegatee (s : State) (e : ExceptionType) (p : Privilege) :
    CanHandle s p (exceptionDelegatee s e p) := by
  unfold exceptionDelegatee
  by_cases hdeleg : (extensionEnabled s .S && s.medeleg.getLsbD (numOfExceptionType e)) = true
  · obtain ⟨hS, -⟩ := Bool.and_eq_true_iff.mp hdeleg
    simp only [hdeleg, if_true]
    cases p with
    | Machine => exact Or.inl rfl
    | Supervisor => exact Or.inr ⟨rfl, hS, by decide⟩
    | User => exact Or.inr ⟨rfl, hS, by decide⟩
  · simp only [hdeleg]
    cases p <;> exact Or.inl rfl

/-- Interrupts are found for a privilege in which they are enabled. -/
theorem enabled_of_pending {xip xie xideleg v : Xlenbits} {b : Bool}
    (h : processPending xip xie xideleg b = .Ints_Pending v) : b = true := by
  unfold processPending at h
  dsimp only at h
  split_ifs at h with hb
  exact (Bool.and_eq_true_iff.mp hb).1

theorem canHandle_getPendingSet {p d : Privilege} {ip : Xlenbits}
    (h : getPendingSet s p = .ok (some (ip, d))) : CanHandle s p d := by
  unfold getPendingSet at h
  dsimp only at h
  split at h
  · cases h
  split at h
  · cases h
  · cases h
    exact Or.inl rfl
  · -- delegated: the second stage answers only where S-mode takes interrupts
    split at h
    · cases h
    split at h
    · cases h
    · rename_i hpend
      cases h
      obtain ⟨hS, hp⟩ := Bool.and_eq_true_iff.mp (enabled_of_pending hpend)
      refine Or.inr ⟨rfl, hS, ?_⟩
      rintro rfl
      cases hp
    · cases h

theorem canHandle_dispatchInterrupt {p d : Privilege} {i : InterruptType}
    (h : dispatchInterrupt s p = .ok (some (i, d))) : CanHandle s p d := by
  unfold dispatchInterrupt at h
  cases hset : getPendingSet s p with
  | error e =>
      rw [hset] at h
      cases h
  | ok r =>
      rw [hset] at h
      rcases r with _ | ⟨ip, q⟩
      · cases h
      · change Except.ok ((findPendingInterrupt ip).map (fun i => (i, q))) = _ at h
        obtain ⟨j, -, hj⟩ := Option.map_eq_some_iff.mp (Except.ok.inj h)
        cases hj
        exact canHandle_getPendingSet hset

/-- The entry to a trap is a call of the handler at a privilege that can handle it. -/
theorem TrapOf.cases {d : Privilege} {m : M Xlenbits} (h : TrapOf s d m) :
    CanHandle s s.curPrivilege d
      ∧ ∃ intr c info, m.run s = (trapHandler d intr c s.pc info).run s := by
  rcases h with e | hi
  · exact ⟨canHandle_exceptionDelegatee s _ _, _, _, _, Exec.run_bind_of_ok (Exec.run_reads _ _)⟩
  · exact ⟨canHandle_dispatchInterrupt hi, _, _, _, rfl⟩

/-! ## The round trip -/

/-- The trap vector of the privilege `d`. -/
def tvecOf (s : State) (d : Privilege) : Xlenbits := if d = .Machine then s.mtvec else s.stvec

/-- The mode of the trap vector of `d` is a reserved one. -/
def TvecReserved (s : State) (d : Privilege) : Prop :=
  trapVectorModeOfBits (Mtvec.Mode.get (tvecOf s d)) = .TV_Reserved

/-- `s₂` is `s` after a trap to M-mode and the return. -/
structure ReturnedM (s s₂ : State) : Prop where
  privilege : s₂.curPrivilege = s.curPrivilege
  enable : Mstatus.MIE.get s₂.mstatus = Mstatus.MIE.get s.mstatus
  mstatus : SameOutside [7, 11, 12, 17] s.mstatus s₂.mstatus
  frame : s₂ = { s with
    curPrivilege := s₂.curPrivilege
    mcause := s₂.mcause
    mtval := s₂.mtval
    mepc := s₂.mepc
    mstatus := s₂.mstatus }

/-- `s₂` is `s` after a trap to S-mode and the return. -/
structure ReturnedS (s s₂ : State) : Prop where
  privilege : s₂.curPrivilege = s.curPrivilege
  enable : Mstatus.SIE.get s₂.mstatus = Mstatus.SIE.get s.mstatus
  mstatus : SameOutside [5, 8, 17] s.mstatus s₂.mstatus
  frame : s₂ = { s with
    curPrivilege := s₂.curPrivilege
    scause := s₂.scause
    stval := s₂.stval
    sepc := s₂.sepc
    mstatus := s₂.mstatus }

/-- The trap `m` to the privilege `d` records the program counter, and the return from `d` goes
back to it. -/
def RoundTrip (s : State) (d : Privilege) (m : M Xlenbits) : Prop :=
  ∃ target s₁, m.run s = .ok (target, s₁) ∧ ∀ q n,
    (d = .Machine ∧ s₁.mepc = s.pc ∧ ∃ s₂,
      (exceptionHandler q .CTL_MRET n).run s₁ = .ok (s.pc, s₂) ∧ ReturnedM s s₂)
    ∨ (d = .Supervisor ∧ s₁.sepc = s.pc ∧ ∃ s₂,
      (exceptionHandler q .CTL_SRET n).run s₁ = .ok (s.pc, s₂) ∧ ReturnedS s s₂)

/-- The vector of a handler, or the error for the reserved mode. -/
def vectorOr (v : Option Xlenbits) : Except ModelError Xlenbits :=
  match v with
  | some target => .ok target
  | none => .error (.internalError "Invalid tvec mode")

theorem prepareTrapVector_machine (s : State) (cause : Xlenbits) :
    prepareTrapVector s .Machine cause = vectorOr (tvecAddr s.mtvec cause) := by
  unfold prepareTrapVector vectorOr
  rfl

theorem prepareTrapVector_supervisor (s : State) (cause : Xlenbits) :
    prepareTrapVector s .Supervisor cause = vectorOr (tvecAddr s.stvec cause) := by
  unfold prepareTrapVector vectorOr
  rfl

/-- The handler in M-mode. -/
theorem run_trapHandler_machine (intr : Bool) (c : BitVec 8) (info : Option Xlenbits) :
    (trapHandler .Machine intr c s.pc info).run s
      = (vectorOr (tvecAddr s.mtvec (trapCause s.mcause intr c))).map
          (fun target => (target, trapStateM s intr c info s.nextPC)) := by
  unfold trapHandler
  rw [Exec.run_bind_of_ok rfl, Exec.run_checks, prepareTrapVector_machine]
  rfl

/-- The handler in S-mode. -/
theorem run_trapHandler_supervisor (hS : extensionEnabled s .S = true)
    (hp : s.curPrivilege ≠ .Machine) (intr : Bool) (c : BitVec 8) (info : Option Xlenbits) :
    (trapHandler .Supervisor intr c s.pc info).run s
      = (vectorOr (tvecAddr s.stvec (trapCause s.scause intr c))).map
          (fun target => (target, trapStateS s intr c info s.nextPC)) := by
  unfold trapHandler
  rw [Exec.run_bind_of_ok (Exec.run_reads _ _), hS, Exec.run_bind_of_ok rfl,
    Exec.run_bind_of_ok (Exec.run_reads _ _)]
  have hentry : prepareTrapVector (trapStateS s intr c info s.nextPC) .Supervisor
      (trapCause s.scause intr c) = vectorOr (tvecAddr s.stvec (trapCause s.scause intr c)) :=
    prepareTrapVector_supervisor _ _
  unfold trapStateS at hentry ⊢
  rw [← hentry]
  cases hpriv : s.curPrivilege with
  | Machine => exact absurd hpriv hp
  | User => rfl
  | Supervisor => rfl

/-- There is no vector exactly for the reserved mode. -/
theorem tvecAddr_eq_none {m c : Xlenbits}
    (h : trapVectorModeOfBits (Mtvec.Mode.get m) = .TV_Reserved) : tvecAddr m c = none := by
  unfold tvecAddr
  rw [h]

/-- After a trap to M-mode and the return. -/
theorem returnedM (hpc : PcAligned s) (intr : Bool) (c : BitVec 8) (info : Option Xlenbits)
    (q : Privilege) (n : Xlenbits) :
    ∃ s₂, (exceptionHandler q .CTL_MRET n).run (trapStateM s intr c info s.nextPC)
        = .ok (s.pc, s₂) ∧ ReturnedM s s₂ := by
  have hmpp : (Exec.checks (fun t : State => privLevelOfBits (Mstatus.MPP.get t.mstatus))).run
      (trapStateM s intr c info s.nextPC)
        = .ok (s.curPrivilege, trapStateM s intr c info s.nextPC) := by
    refine Exec.run_checks_ok.mpr ⟨?_, rfl⟩
    show privLevelOfBits (Mstatus.MPP.get (mstatusTrapM s.mstatus s.curPrivilege)) = _
    rw [mpp_mstatusTrapM, privLevelOfBits_privLevelToBits]
  refine ⟨(trapStateM s intr c info s.nextPC).mret s.curPrivilege s.nextPC, ?_, ?_⟩
  · unfold exceptionHandler
    refine (Exec.run_bind_of_ok hmpp).trans ?_
    exact congrArg (fun r => Except.ok (r, _)) hpc.masked
  · exact ⟨rfl, (mie_mstatusMret _ _ _).trans (mpie_mstatusTrapM _ _),
      sameOutside_mret _ _ _ _, rfl⟩

/-- After a trap to S-mode and the return. -/
theorem returnedS (hpc : PcAligned s) (hp : s.curPrivilege ≠ .Machine) (intr : Bool)
    (c : BitVec 8) (info : Option Xlenbits) (q : Privilege) (n : Xlenbits) :
    ∃ s₂, (exceptionHandler q .CTL_SRET n).run (trapStateS s intr c info s.nextPC)
        = .ok (s.pc, s₂) ∧ ReturnedS s s₂ := by
  refine ⟨(trapStateS s intr c info s.nextPC).sret s.nextPC, ?_, ?_⟩
  · unfold exceptionHandler
    rw [Exec.run_bind_of_ok rfl, Exec.run_reads]
    exact congrArg (fun r => Except.ok (r, _)) hpc.masked
  · exact ⟨sretPrivilege_mstatusTrapS _ _ hp, (sie_mstatusSret _ _).trans (spie_mstatusTrapS _ _),
      sameOutside_sret _ _ _, rfl⟩

/-- **The round trip**, for a trap vector of a mode that is not reserved. -/
theorem roundTrip_of_trap {d : Privilege} {m : M Xlenbits} (hpc : PcAligned s) (h : TrapOf s d m)
    (hvec : ¬ TvecReserved s d) : RoundTrip s d m := by
  obtain ⟨hd, intr, c, info, hm⟩ := h.cases
  unfold RoundTrip
  rw [hm]
  rcases hd with rfl | ⟨rfl, hS, hp⟩
  · obtain ⟨target, ht⟩ := tvecAddr_isSome hvec (trapCause s.mcause intr c)
    refine ⟨target, trapStateM s intr c info s.nextPC, ?_, ?_⟩
    · rw [run_trapHandler_machine]
      exact congrArg _ (congrArg vectorOr ht)
    · intro q n
      exact Or.inl ⟨rfl, rfl, returnedM hpc intr c info q n⟩
  · obtain ⟨target, ht⟩ := tvecAddr_isSome hvec (trapCause s.scause intr c)
    refine ⟨target, trapStateS s intr c info s.nextPC, ?_, ?_⟩
    · rw [run_trapHandler_supervisor hS hp]
      exact congrArg _ (congrArg vectorOr ht)
    · intro q n
      exact Or.inr ⟨rfl, rfl, returnedS hpc hp intr c info q n⟩

/-- For a reserved mode the vector is the only thing that fails. -/
theorem run_trap_of_reserved {d : Privilege} {m : M Xlenbits} (h : TrapOf s d m)
    (hvec : TvecReserved s d) : m.run s = .error (.internalError "Invalid tvec mode") := by
  obtain ⟨hd, intr, c, info, hm⟩ := h.cases
  rw [hm]
  rcases hd with rfl | ⟨rfl, hS, hp⟩
  · have hnone : tvecAddr s.mtvec (trapCause s.mcause intr c) = none := tvecAddr_eq_none hvec
    rw [run_trapHandler_machine, hnone]
    rfl
  · have hnone : tvecAddr s.stvec (trapCause s.scause intr c) = none := tvecAddr_eq_none hvec
    rw [run_trapHandler_supervisor hS hp, hnone]
    rfl

/-! ## The trap vectors of reachable states -/

/-- Neither trap vector has a reserved mode. -/
structure TvecLegal (s : State) : Prop where
  mtvec : trapVectorModeOfBits (Mtvec.Mode.get s.mtvec) ≠ .TV_Reserved
  stvec : trapVectorModeOfBits (Mtvec.Mode.get s.stvec) ≠ .TV_Reserved

theorem TvecLegal.not_reserved (h : TvecLegal s) (d : Privilege) : ¬ TvecReserved s d := by
  unfold TvecReserved tvecOf
  split
  · exact h.mtvec
  · exact h.stvec

/-- The step keeps the modes of the trap vectors legal. -/
def TvecStep (s s' : State) : Prop := TvecLegal s → TvecLegal s'

instance : Std.Refl TvecStep := ⟨fun _ h => h⟩

instance : IsTrans State TvecStep := ⟨fun _ _ _ h h' hs => h' (h hs)⟩

/-- A step that leaves the trap vectors alone. -/
theorem tvecStep_of_eq {s s' : State} (hm : s'.mtvec = s.mtvec) (hs : s'.stvec = s.stvec) :
    TvecStep s s' := by
  intro h
  constructor
  · rw [hm]
    exact h.mtvec
  · rw [hs]
    exact h.stvec

instance : StepRel TvecStep where
  devices _ _ := tvecStep_of_eq rfl rfl
  store _ _ _ _ _ := tvecStep_of_eq rfl rfl
  tlb _ _ _ := tvecStep_of_eq rfl rfl
  x _ _ := tvecStep_of_eq rfl rfl
  jump _ _ _ := tvecStep_of_eq rfl rfl
  trap h := tvecStep_of_eq (by rcases h with _ | _ <;> rfl) (by rcases h with _ | _ <;> rfl)
  vec _ _ := tvecStep_of_eq rfl rfl
  dirtyV _ := tvecStep_of_eq rfl rfl
  fp _ _ _ := tvecStep_of_eq rfl rfl
  dirtyFd _ _ := tvecStep_of_eq rfl rfl
  after _ _ := tvecStep_of_eq rfl rfl
  bits _ _ := tvecStep_of_eq rfl rfl

instance : TraceClosed TvecStep := ⟨fun _ _ => tvecStep_of_eq rfl rfl⟩

instance : ReservationClosed TvecStep := ⟨fun _ _ _ => tvecStep_of_eq rfl rfl⟩

instance : ClockClosed TvecStep := ⟨fun _ _ => tvecStep_of_eq rfl rfl⟩

instance : RetClosed TvecStep where
  mret _ _ _ := tvecStep_of_eq rfl rfl
  sret _ _ := tvecStep_of_eq rfl rfl

theorem tvecStep_of_written {csr : BitVec 12} {value : Xlenbits} {s s' : State}
    (hw : CsrWritten csr value s s') : TvecStep s s' := by
  intro h
  constructor
  · rw [hw.mtvec]
    split_ifs
    · exact legalizeTvec_legal h.mtvec
    · exact h.mtvec
  · rw [hw.stvec]
    split_ifs
    · exact legalizeTvec_legal h.stvec
    · exact h.stvec

instance keeps_tvec_zicsr (i : ZicsrInst) : Exec.Keeps TvecStep i.execute :=
  keeps_zicsr (keeps_readCSR_of (R := TvecStep) (fun _ => tvecStep_of_eq rfl rfl) i.csr)
    (fun v => ⟨fun h => tvecStep_of_written ((csrWritten_writeCSR i.csr v).rel h)⟩)

section

variable [SoftFloat] {s' : State}

/-- **Every turn of the loop keeps the modes of the trap vectors legal.** -/
theorem Turns.tvecStep {t : Turn} (h : Turns t s s') : TvecStep s s' := by
  have hbegin (s : State) : TvecStep s s.begin := tvecStep_of_eq rfl rfl
  have hend (r : Retired) (s : State) : TvecStep s (endStep r s) := by
    unfold endStep
    split <;> exact tvecStep_of_eq rfl rfl
  exact h.rel_of hbegin hend keeps_tvec_zicsr

omit [SoftFloat] in
/-- The mode zero is not reserved. -/
theorem not_reserved_zero :
    trapVectorModeOfBits (Mtvec.Mode.get (0#_ : Xlenbits)) ≠ .TV_Reserved := by
  unfold Field.get
  rw [BitVec.extractLsb'_zero]
  decide

omit [SoftFloat] in
instance keeps_tvec_initModel : Exec.Keeps TvecStep initModel := by
  unfold initModel initPlatform initSys initTLB initPmp
  repeat' first
    | infer_instance
    | exact Exec.keeps_update (fun _ => tvecStep_of_eq rfl rfl)
    | exact Exec.keeps_update (fun _ h => ⟨not_reserved_zero, h.stvec⟩)
    | refine @Exec.keeps_bind _ _ _ _ _ _ _ _ ?_ (fun _ => ?_)
    | refine @Exec.keeps_ite _ _ _ _ _ _ _ _ ?_ ?_

omit [SoftFloat] in
/-- The machine starts with legal trap vectors. -/
theorem Boots.tvecLegal {entry : Xlenbits} (h : Boots entry s) : TvecLegal s := by
  obtain ⟨mem, s₀, hinit, rfl⟩ := h
  have hstep : TvecStep (State.zero mem) s₀ := keeps_tvec_initModel.rel hinit
  have hlegal : TvecLegal s₀ := hstep ⟨not_reserved_zero, not_reserved_zero⟩
  exact ⟨hlegal.mtvec, hlegal.stvec⟩

/-- The trap vectors are legal in every reachable state. -/
theorem tvecLegal_of_trace {entry : Xlenbits} {s₀ : State}
    {path : List (State × Turn × State)} (hboot : Boots entry s₀)
    (h : Trace Turns s₀ path s) : TvecLegal s :=
  h.invariant hboot.tvecLegal (fun _ hs hstep => hstep.tvecStep hs)

/-- **A trap and the return from it.**  A trap is never handled at a lower privilege.  From every
state whose program counter is aligned, a trap to the privilege that handles it and the return
from that privilege are a round trip, unless the mode of the trap vector is reserved: then the
choice of the vector is what fails, and no reachable state has such a mode. -/
theorem trap_return :
    (∀ (s : State) (p : Privilege) (e : ExceptionType),
        privLevelToBits p ≤ privLevelToBits (exceptionDelegatee s e p))
    ∧ (∀ (s : State) (p : Privilege) (i : InterruptType) (d : Privilege),
        dispatchInterrupt s p = .ok (some (i, d)) → privLevelToBits p ≤ privLevelToBits d)
    ∧ (∀ (s : State) (d : Privilege) (m : M Xlenbits), PcAligned s → TrapOf s d m →
        (¬ TvecReserved s d → RoundTrip s d m)
          ∧ (TvecReserved s d → m.run s = .error (.internalError "Invalid tvec mode")))
    ∧ ∀ (entry : Xlenbits) (s₀ s : State) (path : List (State × Turn × State)),
        Boots entry s₀ → Trace Turns s₀ path s → ∀ d, ¬ TvecReserved s d := by
  refine ⟨?_, ?_, ?_, ?_⟩
  · intro s p e
    exact (canHandle_exceptionDelegatee s e p).not_lower
  · intro s p i d h
    exact (canHandle_dispatchInterrupt h).not_lower
  · intro s d m hpc h
    exact ⟨roundTrip_of_trap hpc h, run_trap_of_reserved h⟩
  · intro entry s₀ s path hboot h d
    exact (tvecLegal_of_trace hboot h).not_reserved d

end

/-- A state in U-mode whose breakpoints are delegated, with an interrupt of the timer pending. -/
def userState : State :=
  { State.zero (fun _ => 0#8) with
    pc := 0x80000002#_
    misa := initMisa 0#_
    medeleg := 0x8#_
    mip := 0x80#_
    mie := 0x80#_ }

omit [Platform] in
/-- Its breakpoint goes to S-mode and comes back, its interrupt goes to M-mode, and the machine
starts with legal trap vectors. -/
theorem trap_return_userState :
    letI := rv64Pmp 16 (by decide)
    letI : SoftFloat := default
    privLevelToBits .User ≤ privLevelToBits .Machine
      ∧ RoundTrip userState .Supervisor
          (exceptionHandler userState.curPrivilege
            (.CTL_TRAP ⟨.E_Breakpoint, some userState.pc⟩) userState.pc)
      ∧ ∃ s₀, Boots 0x80000000#_ s₀ ∧ ¬ TvecReserved s₀ .Supervisor := by
  let := rv64Pmp 16 (by decide)
  let : SoftFloat := default
  have hdeleg : exceptionDelegatee userState .E_Breakpoint userState.curPrivilege
      = .Supervisor := by decide
  have htrap : TrapOf userState .Supervisor (exceptionHandler userState.curPrivilege
      (.CTL_TRAP ⟨.E_Breakpoint, some userState.pc⟩) userState.pc) := by
    have h := TrapOf.exception (s := userState) ⟨.E_Breakpoint, some userState.pc⟩
    rwa [hdeleg] at h
  have hrun : initModel.passes (State.zero (fun _ => 0#8)) (fun _ _ => true) = true := by decide
  obtain ⟨_, s₀, hinit, -⟩ := Exec.passes_iff.mp hrun
  refine ⟨?_, ?_, ?_⟩
  · exact trap_return.2.1 userState .User .I_M_Timer .Machine (by decide)
  · exact (trap_return.2.2.1 userState _ _
      ⟨by decide, fun h => absurd (by decide) h⟩ htrap).1
      (by unfold TvecReserved; decide)
  · exact ⟨_, ⟨_, s₀, hinit, rfl⟩, trap_return.2.2.2 _ _ _ [] ⟨_, s₀, hinit, rfl⟩ .nil _⟩

end SailRiscv
