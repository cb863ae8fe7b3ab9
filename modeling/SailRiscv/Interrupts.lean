/-
# Which interrupt is taken

In the states that CSR writes, traps and the devices can reach, `dispatchInterrupt` takes the
interrupt of highest priority that is pending, enabled and not delegated, in M-mode; failing
that, the one of highest priority that is delegated, in S-mode (`dispatchInterrupt_rule`).
-/
import SailRiscv.CsrWrites
import SailRiscv.Insts.Base
import SailRiscv.Lib.Run

namespace SailRiscv

open Bits Platform

/-! ## Priorities -/

/-- The interrupts that the model can raise, from the highest priority on. -/
def interruptOrder : List InterruptType :=
  [.I_M_External, .I_M_Software, .I_M_Timer, .I_S_External, .I_S_Software, .I_S_Timer]

/-- The bit of an interrupt in `mip`, `mie` and `mideleg`. -/
def interruptBit (i : InterruptType) : ℕ := (interruptTypeToBits i).toNat

/-- The interrupt `i` has the highest priority among those in `S`. -/
def IsHighest (S : ℕ → Prop) (i : InterruptType) : Prop :=
  ∃ before after, interruptOrder = before ++ i :: after ∧ S (interruptBit i)
    ∧ ∀ j ∈ before, ¬ S (interruptBit j)

variable [Platform]

/-- The interrupt at bit `j` is pending and enabled, and delegated or not. -/
def Raised (s : State) (delegated : Bool) (j : ℕ) : Prop :=
  s.mip.getLsbD j = true ∧ s.mie.getLsbD j = true ∧ s.mideleg.getLsbD j = delegated

/-- An interrupt is to be taken in M-mode. -/
def MachineTakes (s : State) (p : Privilege) : Prop :=
  (∃ j, Raised s false j) ∧ (p ≠ .Machine ∨ Mstatus.MIE.get s.mstatus = 1#1)

/-- An interrupt is to be taken in S-mode, unless one is in M-mode. -/
def SupervisorTakes (s : State) (p : Privilege) : Prop :=
  (∃ j, Raised s true j)
    ∧ (p = .User ∨ (p = .Supervisor ∧ Mstatus.SIE.get s.mstatus = 1#1))

/-! ## The registers in reachable states -/

/-- The bits of the interrupts that the model can raise. -/
def IsInterruptBit (j : ℕ) : Prop := j ∈ interruptOrder.map interruptBit

instance (j : ℕ) : Decidable (IsInterruptBit j) := inferInstanceAs (Decidable (j ∈ _))

/-- What holds of the registers that the selection depends on. -/
structure InterruptLegal (s : State) : Prop where
  mie : ∀ j, s.mie.getLsbD j = true → IsInterruptBit j
  mideleg : ∀ j ∈ [3, 7, 11], s.mideleg.getLsbD j = false
  misa : extensionEnabled s .S = true
  mtvec : trapVectorModeOfBits (Mtvec.Mode.get s.mtvec) ≠ .TV_Reserved
  stvec : trapVectorModeOfBits (Mtvec.Mode.get s.stvec) ≠ .TV_Reserved

/-- What changes the registers: a CSR write, the entry to a trap, a store to a device, the
clock, and the wait for an interrupt. -/
inductive PrivEvent where
  | csr (csr : BitVec 12) (value : Xlenbits)
  | trap (e : SyncException)
  | interrupt (i : InterruptType) (p : Privilege)
  | store (addr : Xlenbits) (n : ℕ) (data : BitVec (8 * n))
  | tick
  | wfi

/-- A completed change. -/
def PrivStep : PrivEvent → State → State → Prop
  | .csr csr value, s, s' => ∃ r, (writeCSR csr value).run s = .ok (r, s')
  | .trap e, s, s' => (handleSync e).run s = .ok ((), s')
  | .interrupt i p, s, s' => (handleInterrupt i p).run s = .ok ((), s')
  | .store addr n data, s, s' => ∃ r, (mmioWrite addr n data).run s = .ok (r, s')
  | .tick, s, s' => tickClock.run s = .ok ((), s')
  | .wfi, s, s' => platformWfi.run s = .ok ((), s')

/-- A state that such changes reach from the reset of zeroed registers. -/
def PrivReachable (s : State) : Prop :=
  ∃ mem s₀, initSys.run (State.zero mem) = .ok ((), s₀) ∧ Run PrivStep Run.Free s₀ s

section Invariant

variable {s s' : State}

/-- The registers of the invariant are privileged registers. -/
theorem InterruptLegal.of_frame (h : InterruptLegal s) (hf : Frame s s') : InterruptLegal s' := by
  have hmie : s'.mie = s.mie := congrArg Sys.mie hf
  have hmideleg : s'.mideleg = s.mideleg := congrArg Sys.mideleg hf
  have hmisa : s'.misa = s.misa := congrArg Sys.misa hf
  have hmtvec : s'.mtvec = s.mtvec := congrArg Sys.mtvec hf
  have hstvec : s'.stvec = s.stvec := congrArg Sys.stvec hf
  constructor
  · rw [hmie]
    exact h.mie
  · rw [hmideleg]
    exact h.mideleg
  · unfold extensionEnabled
    rw [hmisa]
    exact h.misa
  · rw [hmtvec]
    exact h.mtvec
  · rw [hstvec]
    exact h.stvec

/-- The entry to a trap does not change the registers of the invariant. -/
theorem InterruptLegal.of_trapEntry {intr : Bool} {c : BitVec 8} {info : Option Xlenbits}
    {p : Privilege} (h : InterruptLegal s) (ht : TrapEntry intr c info s p s') :
    InterruptLegal s' := by
  rcases ht with _ | _ <;> exact ⟨h.mie, h.mideleg, h.misa, h.mtvec, h.stvec⟩

omit [Platform] in
/-- A bit of a register with a one-bit field replaced. -/
theorem getLsbD_set_bit {w : ℕ} (k : ℕ) (v : BitVec w) (x : BitVec 1) (j : ℕ) :
    (Field.set ⟨k, 1⟩ v x).getLsbD j = if j < w ∧ j = k then x.getLsbD 0 else v.getLsbD j := by
  rw [Field.getLsbD_set]
  by_cases h : j = k
  · subst h
    by_cases hw : j < w
    · rw [if_pos (by simp; omega), if_pos ⟨hw, rfl⟩, Nat.sub_self]
    · rw [if_neg (by simp; omega), if_neg (by omega)]
  · rw [if_neg (by simp; omega), if_neg (by omega)]

omit [Platform] in
/-- Setting a one-bit field leaves the other bits. -/
theorem getLsbD_set_bit_of_ne {w k j : ℕ} (h : j ≠ k) (v : BitVec w) (x : BitVec 1) :
    (Field.set ⟨k, 1⟩ v x).getLsbD j = v.getLsbD j := by
  rw [getLsbD_set_bit, if_neg (fun hj => h hj.2)]

omit [Platform] in
/-- Setting a one-bit field sets its bit. -/
theorem getLsbD_set_bit_self {w k : ℕ} (h : k < w) (v : BitVec w) (x : BitVec 1) :
    (Field.set ⟨k, 1⟩ v x).getLsbD k = x.getLsbD 0 := by
  rw [getLsbD_set_bit, if_pos ⟨h, rfl⟩]

omit [Platform] in
/-- A bit that is none of the six. -/
theorem ne_of_not_isInterruptBit {j : ℕ} (hj : ¬ IsInterruptBit j) :
    j ≠ 1 ∧ j ≠ 3 ∧ j ≠ 5 ∧ j ≠ 7 ∧ j ≠ 9 ∧ j ≠ 11 := by
  refine ⟨?_, ?_, ?_, ?_, ?_, ?_⟩
  all_goals
    rintro rfl
    exact hj (by decide)

/-- Only the six interrupt bits of `mie` can be written. -/
theorem legalizeMie_legal (o v : Xlenbits) {j : ℕ} (hj : ¬ IsInterruptBit j) :
    (legalizeMie o v).getLsbD j = o.getLsbD j := by
  obtain ⟨h₁, h₃, h₅, h₇, h₉, h₁₁⟩ := ne_of_not_isInterruptBit hj
  unfold legalizeMie
  simp only
  rw [getLsbD_set_bit_of_ne h₁, getLsbD_set_bit_of_ne h₅, getLsbD_set_bit_of_ne h₉,
    getLsbD_set_bit_of_ne h₃, getLsbD_set_bit_of_ne h₇, getLsbD_set_bit_of_ne h₁₁]

/-- Only the three supervisor interrupt bits of `mie` can be written through `sie`. -/
theorem legalizeSie_legal (o d v : Xlenbits) {j : ℕ} (hj : ¬ IsInterruptBit j) :
    (legalizeSie o d v).getLsbD j = o.getLsbD j := by
  obtain ⟨h₁, -, h₅, -, h₉, -⟩ := ne_of_not_isInterruptBit hj
  unfold legalizeSie
  simp only
  rw [getLsbD_set_bit_of_ne h₁, getLsbD_set_bit_of_ne h₅, getLsbD_set_bit_of_ne h₉]

/-- The M-mode interrupts cannot be delegated. -/
theorem legalizeMideleg_legal (o v : Xlenbits) {j : ℕ} (hj : j ∈ [3, 7, 11]) :
    (legalizeMideleg o v).getLsbD j = false := by
  have hx := xlen_ge
  simp only [List.mem_cons, List.not_mem_nil, or_false] at hj
  unfold legalizeMideleg
  rcases hj with rfl | rfl | rfl
  · rw [getLsbD_set_bit_self (by omega)]
    rfl
  · rw [getLsbD_set_bit_of_ne (by decide), getLsbD_set_bit_self (by omega)]
    rfl
  · rw [getLsbD_set_bit_of_ne (by decide), getLsbD_set_bit_of_ne (by decide),
      getLsbD_set_bit_self (by omega)]
    rfl

/-- The other fields of `misa` cannot be written. -/
theorem get_legalizeMisa {f : Field} (hC : f.Apart Misa.C) (hF : f.Apart Misa.F)
    (hD : f.Apart Misa.D) (m v : Xlenbits) : f.get (legalizeMisa s m v) = f.get m := by
  unfold legalizeMisa
  dsimp only
  split_ifs
  · rfl
  · rfl
  · rw [Field.get_set_of_apart hC]
  · rw [Field.get_set_of_apart hD, Field.get_set_of_apart hF]
  · rw [Field.get_set_of_apart hD, Field.get_set_of_apart hF, Field.get_set_of_apart hC]

/-- A reserved trap-vector mode is not written. -/
theorem legalizeTvec_legal {o v : Xlenbits}
    (h : trapVectorModeOfBits (Mtvec.Mode.get o) ≠ .TV_Reserved) :
    trapVectorModeOfBits (Mtvec.Mode.get (legalizeTvec o v)) ≠ .TV_Reserved := by
  have hx := xlen_ge
  unfold legalizeTvec
  cases hm : trapVectorModeOfBits (Mtvec.Mode.get v) with
  | TV_Direct =>
      dsimp only
      rw [hm]
      decide
  | TV_Vector =>
      dsimp only
      rw [hm]
      decide
  | TV_Reserved =>
      dsimp only
      rw [Field.get_set (by show 0 + 2 ≤ xlen; omega)]
      exact h

/-- A CSR write keeps the registers legal. -/
theorem InterruptLegal.of_written {csr : BitVec 12} {value : Xlenbits} (h : InterruptLegal s)
    (hw : CsrWritten csr value s s') : InterruptLegal s' := by
  constructor
  · intro j hj
    by_contra hbit
    rw [hw.mie, mieWritten] at hj
    split_ifs at hj
    · rw [legalizeMie_legal _ _ hbit] at hj
      exact hbit (h.mie j hj)
    · rw [legalizeSie_legal _ _ _ hbit] at hj
      exact hbit (h.mie j hj)
    · exact hbit (h.mie j hj)
  · intro j hj
    rw [hw.mideleg]
    split_ifs
    · exact legalizeMideleg_legal _ _ hj
    · exact h.mideleg j hj
  · have hS := h.misa
    unfold extensionEnabled at hS ⊢
    rw [hw.misa]
    split_ifs
    · rw [get_legalizeMisa (f := Misa.S) (by decide) (by decide) (by decide)]
      exact hS
    · exact hS
  · rw [hw.mtvec]
    split_ifs
    · exact legalizeTvec_legal h.mtvec
    · exact h.mtvec
  · rw [hw.stvec]
    split_ifs
    · exact legalizeTvec_legal h.stvec
    · exact h.stvec

/-- Every change keeps the registers legal. -/
theorem InterruptLegal.step {e : PrivEvent} (h : InterruptLegal s) (hstep : PrivStep e s s') :
    InterruptLegal s' := by
  cases e with
  | csr csr value =>
      obtain ⟨r, hrun⟩ := hstep
      exact h.of_written ((csrWritten_writeCSR csr value).rel hrun)
  | trap e => exact h.of_trapEntry (handleSync_cases hstep)
  | interrupt i p => exact h.of_trapEntry (handleInterrupt_cases hstep)
  | store addr n data =>
      obtain ⟨r, hrun⟩ := hstep
      exact h.of_frame ((keeps_mmioWrite (R := IntStep) addr n data).rel hrun).frame
  | tick =>
      have hk : Exec.Keeps IntStep tickClock := inferInstance
      exact h.of_frame (hk.rel hstep).frame
  | wfi =>
      have hk : Exec.Keeps IntStep platformWfi := inferInstance
      exact h.of_frame (hk.rel hstep).frame

/-- The reset enables supervisor mode. -/
theorem initMisa_S (m : Xlenbits) : Misa.S.get (initMisa m) = 1#1 := by
  have hx := xlen_ge
  unfold initMisa
  simp only
  rw [Field.get_set_of_apart (f := Misa.S) (g := Misa.D) (by decide),
    Field.get_set_of_apart (f := Misa.S) (g := Misa.F) (by decide),
    Field.get_set_of_apart (f := Misa.S) (g := Misa.V) (by decide),
    Field.get_set (by show 18 + 1 ≤ xlen; omega)]

/-- The reset makes the registers legal. -/
theorem interruptLegal_of_reset {mem : ℕ → BitVec 8}
    (h : initSys.run (State.zero mem) = .ok ((), s)) : InterruptLegal s := by
  have hzero : trapVectorModeOfBits (Mtvec.Mode.get (0#_ : Xlenbits)) ≠ .TV_Reserved := by
    unfold Field.get
    rw [BitVec.extractLsb'_zero]
    decide
  unfold initSys at h
  rw [Exec.run_bind_of_ok rfl] at h
  cases hboth : sysEnableFdext && sysEnableZfinx with
  | true =>
      rw [hboth] at h
      cases h
  | false =>
      rw [hboth, if_neg (by decide), Exec.run_bind_of_ok rfl] at h
      unfold initPmp at h
      obtain ⟨_, s₁, hcount, h⟩ := Exec.run_bind_ok.mp h
      obtain ⟨-, rfl⟩ := run_assert_ok.mp hcount
      cases h
      constructor
      · intro j hj
        simp at hj
      · intro j _
        simp
      · unfold extensionEnabled
        exact beq_iff_eq.mpr (initMisa_S _)
      · exact hzero
      · exact hzero

/-- The registers are legal in every reachable state. -/
theorem PrivReachable.legal (h : PrivReachable s) : InterruptLegal s := by
  obtain ⟨mem, s₀, hreset, hrun⟩ := h
  exact hrun.invariant (interruptLegal_of_reset hreset) (fun hi _ hs => hi.step hs)

end Invariant

/-! ## Selection -/

omit [Platform] in
/-- A one-bit field is set when its bit is. -/
theorem get_bit_eq_one {w : ℕ} (k : ℕ) (v : BitVec w) :
    Field.get ⟨k, 1⟩ v = 1#1 ↔ v.getLsbD k = true := by
  rw [Field.get_bit]
  cases v.getLsbD k <;> simp

/-- `findPendingInterrupt` searches the interrupts in the order of their priorities. -/
theorem findPendingInterrupt_eq_find (ip : Xlenbits) :
    findPendingInterrupt ip = interruptOrder.find? (fun i => ip.getLsbD (interruptBit i)) := by
  have step (k : ℕ) (i : InterruptType) (a b : Option InterruptType) (h : a = b) :
      (if Field.get ⟨k, 1⟩ ip = 1#1 then some i else a)
        = match ip.getLsbD k with
          | true => some i
          | false => b := by
    rw [h]
    by_cases hk : ip.getLsbD k = true
    · rw [if_pos ((get_bit_eq_one k ip).mpr hk), hk]
    · rw [if_neg (fun hb => hk ((get_bit_eq_one k ip).mp hb)), Bool.eq_false_iff.mpr hk]
  unfold findPendingInterrupt interruptOrder
  simp only [List.find?_cons, List.find?_nil]
  exact step 11 _ _ _ (step 3 _ _ _ (step 7 _ _ _ (step 9 _ _ _ (step 1 _ _ _
    (step 5 _ _ _ rfl)))))

/-- `findPendingInterrupt` finds the interrupt of highest priority. -/
theorem findPendingInterrupt_eq_some {ip : Xlenbits} {i : InterruptType} :
    findPendingInterrupt ip = some i ↔ IsHighest (fun j => ip.getLsbD j = true) i := by
  rw [findPendingInterrupt_eq_find, List.find?_eq_some_iff_append]
  unfold IsHighest
  constructor
  · rintro ⟨hi, before, after, heq, hbefore⟩
    refine ⟨before, after, heq, hi, ?_⟩
    intro j hj
    simpa using hbefore j hj
  · rintro ⟨before, after, heq, hi, hbefore⟩
    refine ⟨hi, before, after, heq, ?_⟩
    intro j hj
    simpa using hbefore j hj

/-- `findPendingInterrupt` finds an interrupt when one of the six bits is set. -/
theorem findPendingInterrupt_isSome {ip : Xlenbits} {j : ℕ} (hj : IsInterruptBit j)
    (hip : ip.getLsbD j = true) : ∃ i, findPendingInterrupt ip = some i := by
  obtain ⟨i, hi, rfl⟩ := List.mem_map.mp hj
  rw [findPendingInterrupt_eq_find]
  exact Option.isSome_iff_exists.mp (List.find?_isSome.mpr ⟨i, hi, hip⟩)

section Dispatch

variable {s : State} {p : Privilege}

/-- The interrupts that are pending, enabled, and delegated or not. -/
def raised (s : State) (delegated : Bool) : Xlenbits :=
  s.mip &&& s.mie &&& (if delegated then s.mideleg else ~~~s.mideleg)

/-- The bits of `raised` are the interrupts of `Raised`. -/
theorem getLsbD_raised (delegated : Bool) (j : ℕ) :
    (raised s delegated).getLsbD j = true ↔ Raised s delegated j := by
  unfold raised Raised
  have hlt : s.mip.getLsbD j = true → j < xlen := BitVec.lt_of_getLsbD
  cases delegated with
  | false =>
      rw [if_neg (by decide), BitVec.getLsbD_and, BitVec.getLsbD_and, BitVec.getLsbD_not]
      simp only [Bool.and_eq_true, decide_eq_true_eq, Bool.not_eq_true']
      tauto
  | true =>
      rw [if_pos rfl, BitVec.getLsbD_and, BitVec.getLsbD_and]
      simp only [Bool.and_eq_true]
      tauto

omit [Platform] in
/-- A vector that is not zero has a bit that is set. -/
theorem exists_getLsbD_of_ne_zero {w : ℕ} {v : BitVec w} (h : v ≠ 0#_) :
    ∃ j, v.getLsbD j = true := by
  by_contra hno
  refine h (BitVec.eq_of_getLsbD_eq (fun i _ => ?_))
  rw [BitVec.getLsbD_zero]
  exact Bool.eq_false_iff.mpr (fun hi => hno ⟨i, hi⟩)

/-- Some interrupt is raised when `raised` is not zero. -/
theorem raised_ne_zero {delegated : Bool} :
    raised s delegated ≠ 0#_ ↔ ∃ j, Raised s delegated j := by
  constructor
  · intro h
    obtain ⟨j, hj⟩ := exists_getLsbD_of_ne_zero h
    exact ⟨j, (getLsbD_raised _ j).mp hj⟩
  · rintro ⟨j, hj⟩ hzero
    have hbit := (getLsbD_raised delegated j).mpr hj
    rw [hzero, BitVec.getLsbD_zero] at hbit
    cases hbit

/-- The delegated interrupts, computed without `mie` and filtered by it later. -/
theorem raised_delegated : s.mip &&& s.mideleg &&& s.mie &&& ~~~(0#_) = raised s true := by
  unfold raised
  rw [if_pos rfl, BitVec.and_assoc, BitVec.and_assoc, BitVec.and_assoc, BitVec.not_zero,
    BitVec.and_allOnes, BitVec.and_comm s.mideleg]

/-- An interrupt that is raised is pending and enabled. -/
theorem pending_of_raised {delegated : Bool} (h : raised s delegated ≠ 0#_) :
    ¬ s.mip &&& s.mie = 0#_ := by
  intro hzero
  unfold raised at h
  rw [hzero, BitVec.zero_and] at h
  exact h rfl

/-- The condition under which `getPendingSet` considers the interrupts of M-mode. -/
theorem machineEnabled_iff :
    (p != .Machine || (p == .Machine && Mstatus.MIE.get s.mstatus == 1#1)) = true
      ↔ p ≠ .Machine ∨ Mstatus.MIE.get s.mstatus = 1#1 := by
  cases p <;> simp

/-- The condition under which `getPendingSet` considers the interrupts of S-mode. -/
theorem supervisorEnabled_iff (hS : extensionEnabled s .S = true) :
    (extensionEnabled s .S
        && (p == .User || (p == .Supervisor && Mstatus.SIE.get s.mstatus == 1#1))) = true
      ↔ p = .User ∨ (p = .Supervisor ∧ Mstatus.SIE.get s.mstatus = 1#1) := by
  rw [hS]
  cases p <;> simp

/-- `processPending` when there is an interrupt for the privilege. -/
theorem processPending_pending {xip xie xideleg : Xlenbits} {b : Bool} (hb : b = true)
    (h : xip &&& xie &&& ~~~xideleg ≠ 0#_) :
    processPending xip xie xideleg b = .Ints_Pending (xip &&& xie &&& ~~~xideleg) := by
  unfold processPending
  simp only
  rw [hb, Bool.true_and, if_pos (bne_iff_ne.mpr h)]

/-- `processPending` when there is none. -/
theorem processPending_delegated {xip xie xideleg : Xlenbits} {b : Bool}
    (h : ¬ (b = true ∧ xip &&& xie &&& ~~~xideleg ≠ 0#_)) :
    processPending xip xie xideleg b
      = if xip &&& xideleg = 0#_ then .Ints_Empty else .Ints_Delegated (xip &&& xideleg) := by
  unfold processPending
  simp only
  rw [if_neg]
  · by_cases hd : xip &&& xideleg = 0#_
    · rw [if_pos hd, if_neg (by simp [hd])]
    · rw [if_neg hd, if_pos (bne_iff_ne.mpr hd)]
  · intro hc
    rw [Bool.and_eq_true, bne_iff_ne] at hc
    exact h hc

/-- The first stage of the selection, when no interrupt is to be taken in M-mode. -/
theorem processPending_machine (hm : ¬ MachineTakes s p) :
    processPending s.mip s.mie s.mideleg
        (p != .Machine || (p == .Machine && Mstatus.MIE.get s.mstatus == 1#1))
      = if s.mip &&& s.mideleg = 0#_ then .Ints_Empty
        else .Ints_Delegated (s.mip &&& s.mideleg) := by
  refine processPending_delegated (fun hc => hm ?_)
  exact ⟨raised_ne_zero.mp hc.2, machineEnabled_iff.mp hc.1⟩

/-- An interrupt to be taken in M-mode is dispatched to M-mode. -/
theorem dispatchInterrupt_machine (hm : MachineTakes s p) :
    dispatchInterrupt s p
      = .ok ((findPendingInterrupt (raised s false)).map (fun i => (i, .Machine))) := by
  have hraised : raised s false ≠ 0#_ := raised_ne_zero.mpr hm.1
  have hset : getPendingSet s p = .ok (some (raised s false, .Machine)) := by
    unfold getPendingSet
    simp only
    rw [if_neg (pending_of_raised hraised),
      processPending_pending (machineEnabled_iff.mpr hm.2) hraised]
    rfl
  unfold dispatchInterrupt
  rw [hset]
  rfl

/-- The second stage of the selection: what `getPendingSet` returns when no interrupt is to
be taken in M-mode. -/
theorem getPendingSet_of_not_machine (hS : extensionEnabled s .S = true)
    (hm : ¬ MachineTakes s p) (hpend : ¬ s.mip &&& s.mie = 0#_)
    (hdeleg : ¬ s.mip &&& s.mideleg = 0#_) :
    getPendingSet s p
      = match processPending (s.mip &&& s.mideleg) s.mie 0#_ (extensionEnabled s .S
          && (p == .User || (p == .Supervisor && Mstatus.SIE.get s.mstatus == 1#1))) with
        | .Ints_Empty => .ok none
        | .Ints_Pending v => .ok (some (v, .Supervisor))
        | .Ints_Delegated _ => .error (.internalError "N extension not supported") := by
  unfold getPendingSet
  simp only
  rw [if_neg hpend, processPending_machine hm, if_neg hdeleg]
  have hnot : ¬ (!extensionEnabled s .S) = true := by
    rw [hS]
    exact Bool.false_ne_true
  exact (if_neg hnot).trans rfl

/-- An interrupt to be taken in S-mode is dispatched to S-mode. -/
theorem dispatchInterrupt_supervisor (hS : extensionEnabled s .S = true)
    (hm : ¬ MachineTakes s p) (hs : SupervisorTakes s p) :
    dispatchInterrupt s p
      = .ok ((findPendingInterrupt (raised s true)).map (fun i => (i, .Supervisor))) := by
  have hraised : raised s true ≠ 0#_ := raised_ne_zero.mpr hs.1
  have hdeleg : ¬ s.mip &&& s.mideleg = 0#_ := by
    intro hzero
    rw [← raised_delegated, hzero, BitVec.zero_and, BitVec.zero_and] at hraised
    exact hraised rfl
  have hset : getPendingSet s p = .ok (some (raised s true, .Supervisor)) := by
    rw [getPendingSet_of_not_machine hS hm (pending_of_raised hraised) hdeleg,
      processPending_pending ((supervisorEnabled_iff hS).mpr hs.2) (raised_delegated ▸ hraised),
      raised_delegated]
  unfold dispatchInterrupt
  rw [hset]
  rfl

/-- Otherwise no interrupt is dispatched. -/
theorem dispatchInterrupt_none (hS : extensionEnabled s .S = true) (hm : ¬ MachineTakes s p)
    (hs : ¬ SupervisorTakes s p) : dispatchInterrupt s p = .ok none := by
  have hset : getPendingSet s p = .ok none := by
    by_cases hpend : s.mip &&& s.mie = 0#_
    · unfold getPendingSet
      rw [if_pos hpend]
    by_cases hdeleg : s.mip &&& s.mideleg = 0#_
    · unfold getPendingSet
      simp only
      rw [if_neg hpend, processPending_machine hm, if_pos hdeleg]
    · rw [getPendingSet_of_not_machine hS hm hpend hdeleg, processPending_delegated, if_pos]
      · rw [BitVec.and_zero]
      · rintro ⟨hp, hne⟩
        rw [raised_delegated] at hne
        exact hs ⟨raised_ne_zero.mp hne, (supervisorEnabled_iff hS).mp hp⟩
  unfold dispatchInterrupt
  rw [hset]
  rfl

/-- What is found among the raised interrupts. -/
theorem findPendingInterrupt_raised {delegated : Bool} {i : InterruptType} :
    findPendingInterrupt (raised s delegated) = some i ↔ IsHighest (Raised s delegated) i := by
  have heq : (fun j => (raised s delegated).getLsbD j = true) = Raised s delegated := by
    funext j
    exact propext (getLsbD_raised delegated j)
  rw [findPendingInterrupt_eq_some, heq]

/-- One of the raised interrupts is found. -/
theorem exists_highest {delegated : Bool} (h : InterruptLegal s)
    (hr : ∃ j, Raised s delegated j) : ∃ i, IsHighest (Raised s delegated) i := by
  obtain ⟨j, hj⟩ := hr
  obtain ⟨i, hi⟩ := findPendingInterrupt_isSome (h.mie j hj.2.1) ((getLsbD_raised _ j).mpr hj)
  exact ⟨i, findPendingInterrupt_raised.mp hi⟩

/-- The trap vector of a mode that is not reserved. -/
theorem tvecAddr_isSome {m : Xlenbits} (h : trapVectorModeOfBits (Mtvec.Mode.get m) ≠ .TV_Reserved)
    (c : Xlenbits) : ∃ target, tvecAddr m c = some target := by
  unfold tvecAddr
  cases hm : trapVectorModeOfBits (Mtvec.Mode.get m) with
  | TV_Direct => exact ⟨_, rfl⟩
  | TV_Vector =>
      simp only
      split
      · exact ⟨_, rfl⟩
      · exact ⟨_, rfl⟩
  | TV_Reserved => exact absurd hm h

/-- A trap to M-mode completes. -/
theorem handleInterrupt_machine (h : InterruptLegal s) (i : InterruptType) :
    ∃ s', (handleInterrupt i .Machine).run s = .ok ((), s') := by
  obtain ⟨target, ht⟩ := tvecAddr_isSome h.mtvec (trapCause s.mcause true (interruptTypeToBits i))
  exact ⟨_, handleInterrupt_of_entry (.machine ht)⟩

/-- A trap to S-mode completes, except from M-mode. -/
theorem handleInterrupt_supervisor (h : InterruptLegal s) (hp : s.curPrivilege ≠ .Machine)
    (i : InterruptType) : ∃ s', (handleInterrupt i .Supervisor).run s = .ok ((), s') := by
  obtain ⟨target, ht⟩ := tvecAddr_isSome h.stvec (trapCause s.scause true (interruptTypeToBits i))
  exact ⟨_, handleInterrupt_of_entry (.supervisor h.misa hp ht)⟩

/-- The rule for the selection of an interrupt at the privilege `p`. -/
structure DispatchRule (s : State) (p : Privilege) (r : Option (InterruptType × Privilege)) :
    Prop where
  machine (i : InterruptType) :
    r = some (i, .Machine) ↔ MachineTakes s p ∧ IsHighest (Raised s false) i
  machine_exists : MachineTakes s p → ∃ i, r = some (i, .Machine)
  supervisor (i : InterruptType) : r = some (i, .Supervisor)
    ↔ ¬ MachineTakes s p ∧ SupervisorTakes s p ∧ IsHighest (Raised s true) i
  supervisor_exists : ¬ MachineTakes s p → SupervisorTakes s p → ∃ i, r = some (i, .Supervisor)
  none_of : ¬ MachineTakes s p → ¬ SupervisorTakes s p → r = none
  not_lower (i : InterruptType) (q : Privilege) :
    r = some (i, q) → privLevelToBits p ≤ privLevelToBits q

/-- The interrupt that is dispatched when one is to be taken in M-mode. -/
theorem dispatchRule_machine (h : InterruptLegal s) (hm : MachineTakes s p) :
    ∃ i, dispatchInterrupt s p = .ok (some (i, .Machine))
      ∧ DispatchRule s p (some (i, .Machine)) := by
  obtain ⟨i, hi⟩ := exists_highest h hm.1
  have hfind := findPendingInterrupt_raised.mpr hi
  refine ⟨i, ?_, ?_⟩
  · rw [dispatchInterrupt_machine hm, hfind]
    rfl
  constructor
  · intro j
    constructor
    · intro hj
      cases hj
      exact ⟨hm, hi⟩
    · rintro ⟨-, hj⟩
      have hfind' := findPendingInterrupt_raised.mpr hj
      rw [hfind] at hfind'
      cases hfind'
      rfl
  · exact fun _ => ⟨i, rfl⟩
  · intro j
    constructor
    · intro hj
      cases hj
    · exact fun hj => absurd hm hj.1
  · exact fun hno => absurd hm hno
  · exact fun hno => absurd hm hno
  · intro j q hj
    cases hj
    cases p <;> decide

/-- The interrupt that is dispatched when one is to be taken in S-mode. -/
theorem dispatchRule_supervisor (h : InterruptLegal s) (hm : ¬ MachineTakes s p)
    (hs : SupervisorTakes s p) :
    ∃ i, dispatchInterrupt s p = .ok (some (i, .Supervisor))
      ∧ DispatchRule s p (some (i, .Supervisor)) := by
  obtain ⟨i, hi⟩ := exists_highest h hs.1
  have hfind := findPendingInterrupt_raised.mpr hi
  refine ⟨i, ?_, ?_⟩
  · rw [dispatchInterrupt_supervisor h.misa hm hs, hfind]
    rfl
  constructor
  · intro j
    constructor
    · intro hj
      cases hj
    · exact fun hj => absurd hj.1 hm
  · exact fun hyes => absurd hyes hm
  · intro j
    constructor
    · intro hj
      cases hj
      exact ⟨hm, hs, hi⟩
    · rintro ⟨-, -, hj⟩
      have hfind' := findPendingInterrupt_raised.mpr hj
      rw [hfind] at hfind'
      cases hfind'
      rfl
  · exact fun _ _ => ⟨i, rfl⟩
  · exact fun _ hno => absurd hs hno
  · intro j q hj
    cases hj
    rcases hs.2 with rfl | ⟨rfl, -⟩ <;> decide

/-- Nothing is dispatched otherwise. -/
theorem dispatchRule_none (hm : ¬ MachineTakes s p) (hs : ¬ SupervisorTakes s p) :
    DispatchRule s p none := by
  constructor
  · intro j
    constructor
    · intro hj
      cases hj
    · exact fun hj => absurd hj.1 hm
  · exact fun hyes => absurd hyes hm
  · intro j
    constructor
    · intro hj
      cases hj
    · exact fun hj => absurd hj.2.1 hs
  · exact fun _ hyes => absurd hyes hs
  · exact fun _ _ => rfl
  · intro j q hj
    cases hj

/-- **Selection of interrupts.**  In every reachable state of the interrupt registers, with
any `mstatus` and privilege, the dispatch completes and follows the rule, and the interrupt
that it selects can be handled. -/
theorem dispatchInterrupt_rule (h : PrivReachable s) (m : Xlenbits) (p : Privilege) :
    ∃ r, dispatchInterrupt { s with mstatus := m, curPrivilege := p } p = .ok r
      ∧ DispatchRule { s with mstatus := m, curPrivilege := p } p r
      ∧ ∀ i q, r = some (i, q) → ∃ s',
          (handleInterrupt i q).run { s with mstatus := m, curPrivilege := p } = .ok ((), s') := by
  have hlegal : InterruptLegal { s with mstatus := m, curPrivilege := p } :=
    ⟨h.legal.mie, h.legal.mideleg, h.legal.misa, h.legal.mtvec, h.legal.stvec⟩
  generalize hs : ({ s with mstatus := m, curPrivilege := p } : State) = s₁ at hlegal
  have hpriv : s₁.curPrivilege = p := by rw [← hs]
  by_cases hm : MachineTakes s₁ p
  · obtain ⟨i, hd, hrule⟩ := dispatchRule_machine hlegal hm
    refine ⟨_, hd, hrule, ?_⟩
    intro j q hj
    cases hj
    exact handleInterrupt_machine hlegal i
  by_cases hsup : SupervisorTakes s₁ p
  · obtain ⟨i, hd, hrule⟩ := dispatchRule_supervisor hlegal hm hsup
    refine ⟨_, hd, hrule, ?_⟩
    intro j q hj
    cases hj
    refine handleInterrupt_supervisor hlegal ?_ i
    rw [hpriv]
    rcases hsup.2 with hp | ⟨hp, -⟩ <;> rw [hp] <;> decide
  · refine ⟨none, dispatchInterrupt_none hlegal.misa hm hsup, dispatchRule_none hm hsup, ?_⟩
    intro j q hj
    cases hj

end Dispatch

omit [Platform] in
/-- After the timer interrupt is enabled and the clock ticks, M-mode takes it. -/
theorem dispatchInterrupt_rule_timer :
    letI := rv64Pmp 16 (by decide)
    ∃ s : State, PrivReachable s
      ∧ DispatchRule { s with mstatus := 0x8#64, curPrivilege := .Machine } .Machine
          (some (.I_M_Timer, .Machine)) := by
  let := rv64Pmp 16 (by decide)
  have hreach : ∃ s : State, PrivReachable s
      ∧ s.mip = 0x80#64 ∧ s.mie = 0x80#64 ∧ s.mideleg = 0#64 := by
    refine ⟨_, ⟨fun _ => 0#8, _, rfl, .next (l := .tick) (.next (l := .csr 0x304#12 0x80#64)
      .start trivial ⟨_, rfl⟩) trivial rfl⟩, ?_⟩
    decide
  obtain ⟨s, hs, hmip, hmie, hmideleg⟩ := hreach
  obtain ⟨r, -, hrule, -⟩ := dispatchInterrupt_rule hs 0x8#64 .Machine
  have hraised (j : ℕ) :
      Raised { s with mstatus := 0x8#64, curPrivilege := .Machine } false j ↔ j = 7 := by
    have hbit : (0x80#64).getLsbD j = true ↔ j = 7 := by
      rw [show 0x80#64 = BitVec.twoPow 64 7 by decide, BitVec.getLsbD_twoPow]
      simp [eq_comm]
    have hzero : (0#64).getLsbD j = false := BitVec.getLsbD_zero
    unfold Raised
    simp only
    rw [hmip, hmie, hmideleg]
    exact ⟨fun h => hbit.mp h.1, fun h => ⟨hbit.mpr h, hbit.mpr h, hzero⟩⟩
  have heq : r = some (.I_M_Timer, .Machine) := by
    have henabled : Mstatus.MIE.get (0x8#64) = 1#1 := by decide
    refine (hrule.machine .I_M_Timer).mpr ⟨⟨⟨7, (hraised 7).mpr rfl⟩, Or.inr henabled⟩, ?_⟩
    refine ⟨[.I_M_External, .I_M_Software], _, rfl, (hraised 7).mpr rfl, ?_⟩
    intro i hi hr
    have hne : ∀ i ∈ [InterruptType.I_M_External, .I_M_Software], interruptBit i ≠ 7 := by decide
    exact hne i hi ((hraised _).mp hr)
  rw [heq] at hrule
  exact ⟨s, hs, hrule⟩

end SailRiscv
