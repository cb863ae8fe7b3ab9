/-
# Which privileges may read the user counters

The registers `mcounteren` and `scounteren` open the user counters to S-mode and U-mode.
`check_Counteren` looks at the CSR numbers from `0xC00` to `0xC1F` only, so on RV32 the
upper halves, from `0xC80` on, are open to every privilege (`counters_protected_iff`).
-/
import SailRiscv.CsrAccess

namespace SailRiscv

open Bits Platform

variable [Platform]

/-! ## The rule -/

omit [Platform] in
/-- The number of the user counter `n`, or of its upper half. -/
def counterCsr (high : Bool) (n : Fin 32) : BitVec 12 :=
  (if high then 0xC80#12 else 0xC00#12) + BitVec.ofNat 12 n

/-- The counter `n` is open to the privilege `p`. -/
def CounterEnabled (s : State) (n : Fin 32) (p : Privilege) : Prop :=
  p = .Machine
    ∨ (p = .Supervisor ∧ s.mcounteren.getLsbD n = true)
    ∨ (p = .User ∧ s.mcounteren.getLsbD n = true
        ∧ (extensionEnabled s .S = false ∨ s.scounteren.getLsbD n = true))

/-- A read of the counter, or of its upper half, is let through exactly if the register is
defined and the counter is open. -/
def HalfProtected (s : State) (n : Fin 32) (p : Privilege) (high : Bool) : Prop :=
  checkCSR s (counterCsr high n) p false = true
    ↔ isCSRDefined s (counterCsr high n) = true ∧ CounterEnabled s n p

/-- Reads of the counter follow the rule, and both halves are open to the same privileges. -/
structure CounterProtected (s : State) (n : Fin 32) (p : Privilege) : Prop where
  low : HalfProtected s n p false
  high : xlen = 32 → HalfProtected s n p true
  same : xlen = 32 →
    checkCSR s (counterCsr false n) p false = checkCSR s (counterCsr true n) p false

/-! ## The checks -/

/-- The user counters exist with user mode, the upper halves on RV32. -/
theorem defined_counterCsr (s : State) (high : Bool) (n : Fin 32) :
    isCSRDefined s (counterCsr high n)
      = (extensionEnabled s .U && (!high || decide (xlen = 32))) := by
  cases high <;> fin_cases n <;>
    simp [isCSRDefined, counterCsr, pmpcfgIdx, pmpaddrIdx, hpmIdx, extensionEnabled]

omit [Platform] in
/-- The user counters are read-only registers of the lowest privilege, and none of the
registers with a check of its own. -/
theorem counterCsr_fields (high : Bool) (n : Fin 32) :
    (counterCsr high n).extractLsb' 8 2 = 0b00#2 ∧ counterCsr high n ≠ 0x180#12
      ∧ counterCsr high n ≠ 0x015#12 ∧ ((counterCsr high n).extractLsb' 0 5).toNat = n.val
      ∧ (¬ (counterCsr high n < 0xC00#12 ∨ 0xC1F#12 < counterCsr high n) ↔ high = false) := by
  revert high n
  decide

/-- What the check of a read of a user counter comes down to. -/
theorem checkCSR_counter (s : State) (n : Fin 32) (p : Privilege) (high : Bool) :
    checkCSR s (counterCsr high n) p false
      = (isCSRDefined s (counterCsr high n) && checkCounteren s (counterCsr high n) p) := by
  obtain ⟨hpriv, hsatp, hseed, -, -⟩ := counterCsr_fields high n
  have hle : 0b00#2 ≤ privLevelToBits p := by cases p <;> decide
  have hsatp' : (counterCsr high n == 0x180#12) = false := beq_eq_false_iff_ne.mpr hsatp
  unfold checkCSR checkCSRAccess checkTVMSATP checkSeedCSR
  rw [hpriv, hsatp', if_pos hseed]
  simp [hle]

/-- The lower halves are checked. -/
theorem checkCounteren_low (s : State) (n : Fin 32) (p : Privilege) :
    checkCounteren s (counterCsr false n) p = true ↔ CounterEnabled s n p := by
  obtain ⟨-, -, -, hidx, hrange⟩ := counterCsr_fields false n
  unfold checkCounteren featureEnabledForPriv CounterEnabled
  rw [if_neg (hrange.mpr rfl)]
  simp only [hidx]
  cases p <;> simp

/-- The upper halves are not. -/
theorem checkCounteren_high (s : State) (n : Fin 32) (p : Privilege) :
    checkCounteren s (counterCsr true n) p = true := by
  obtain ⟨-, -, -, -, hrange⟩ := counterCsr_fields true n
  unfold checkCounteren
  rw [if_pos (by
    by_contra h
    exact absurd (hrange.mp h) (by decide))]

/-! ## The law -/

/-- The lower halves follow the rule. -/
theorem halfProtected_low (s : State) (n : Fin 32) (p : Privilege) :
    HalfProtected s n p false := by
  unfold HalfProtected
  rw [checkCSR_counter, Bool.and_eq_true, checkCounteren_low]

/-- The upper halves do so where there is nothing to protect. -/
theorem halfProtected_high (s : State) (n : Fin 32) (p : Privilege) :
    HalfProtected s n p true
      ↔ (isCSRDefined s (counterCsr true n) = true → CounterEnabled s n p) := by
  unfold HalfProtected
  rw [checkCSR_counter, checkCounteren_high, Bool.and_true]
  constructor
  · intro h hdef
    exact (h.mp hdef).2
  · intro h
    exact ⟨fun hdef => ⟨hdef, h hdef⟩, fun hdef => hdef.1⟩

/-- On RV32 both halves of a counter are defined together. -/
theorem defined_halves (hx : xlen = 32) (s : State) (n : Fin 32) :
    isCSRDefined s (counterCsr true n) = isCSRDefined s (counterCsr false n) := by
  rw [defined_counterCsr, defined_counterCsr]
  simp [hx]

/-- **Reads of a counter are protected exactly if there is no upper half, or it is open to the
privilege anyway.** -/
theorem counters_protected_iff (s : State) (n : Fin 32) (p : Privilege) :
    CounterProtected s n p
      ↔ ¬ (xlen = 32 ∧ isCSRDefined s (counterCsr true n) = true ∧ ¬ CounterEnabled s n p) := by
  constructor
  · rintro h ⟨hx, hdef, hclosed⟩
    exact hclosed ((halfProtected_high s n p).mp (h.high hx) hdef)
  · intro h
    have hopen (hx : xlen = 32) (hdef : isCSRDefined s (counterCsr true n) = true) :
        CounterEnabled s n p := by
      by_contra hclosed
      exact h ⟨hx, hdef, hclosed⟩
    constructor
    · exact halfProtected_low s n p
    · intro hx
      exact (halfProtected_high s n p).mpr (hopen hx)
    · intro hx
      rw [checkCSR_counter, checkCSR_counter, checkCounteren_high, Bool.and_true,
        defined_halves hx]
      cases hdef : isCSRDefined s (counterCsr false n) with
      | false => rfl
      | true =>
          rw [Bool.true_and]
          exact (checkCounteren_low s n p).mpr (hopen hx (by rw [defined_halves hx, hdef]))

/-! ## An upper half in user mode -/

/-- A machine with user mode that opens no counter. -/
def countersClosed : State := { State.zero (fun _ => 0#8) with misa := 0x40140101#_ }

omit [Platform] in
/-- On RV32, U-mode reads the upper half of the cycle counter, which no enable bit opens. -/
theorem cycleh_open_to_user :
    ¬ ∀ [Platform] (s : State) (n : Fin 32) (p : Privilege), CounterProtected s n p := by
  intro h
  let := rv32Pmp 0 (by decide)
  have hclosed : ¬ CounterEnabled countersClosed 0 .User := by
    unfold CounterEnabled
    decide
  exact hclosed ((halfProtected_high countersClosed 0 .User).mp ((h _ _ _).high rfl) (by decide))

end SailRiscv
