/-
# What a CSR write does to the PMP registers

One inversion lemma, `writeCSR_pmp`, says everything a CSR write can do to the PMP
registers: nothing, write one configuration register, or write one address register.
The invariants of the PMP are derived from it, by induction over runs of CSR writes.
-/
import SailRiscv.Frame
import SailRiscv.Lib.Run
import SailRiscv.Lib.TrailingOnes

namespace SailRiscv

open Bits Platform

variable [Platform]

/-! ## Closed forms of the register accesses -/

/-- `writeCfgs` writes the `k` entries from `start` on and no other. -/
theorem writeCfgs_apply (cfgs : Fin 64 → BitVec 8) (start : ℕ) (v : Xlenbits) (k : ℕ)
    (hk : start + k ≤ 64) (i : Fin 64) :
    writeCfgs cfgs start v k i
      = if start ≤ i.val ∧ i.val < start + k
        then pmpWriteCfg (cfgs i) (v.extractLsb' (8 * (i.val - start)) 8) else cfgs i := by
  induction k with
  | zero => simp [writeCfgs, show ¬ (start ≤ i.val ∧ i.val < start) by omega]
  | succ k ih =>
      have hmod : (start + k) % 64 = start + k := Nat.mod_eq_of_lt (by omega)
      rw [writeCfgs]
      by_cases hi : i = Fin.ofNat 64 (start + k)
      · have hval : i.val = start + k := by rw [hi]; exact hmod
        have hidx : i.val - start = k := by omega
        subst hi
        rw [Function.update_self, ih (by omega), if_neg (by omega), if_pos (by omega), hidx]
      · have hval : i.val ≠ start + k := by
          intro h
          exact hi (Fin.ext (h.trans hmod.symm))
        rw [Function.update_of_ne hi, ih (by omega)]
        by_cases h : start ≤ i.val ∧ i.val < start + k
        · rw [if_pos h, if_pos (by omega)]
        · rw [if_neg h, if_neg (by omega)]

/-- How many entries one configuration register holds. -/
def cfgsPerReg : ℕ := if xlen = 32 then 4 else 8

/-- The entries of a configuration register that exists at this `xlen` are in range. -/
theorem cfgsPerReg_le {n : Fin 16} (h : pmpcfgEven n = true) : n.val * 4 + cfgsPerReg ≤ 64 := by
  unfold cfgsPerReg
  unfold pmpcfgEven at h
  split
  · omega
  · rename_i hx
    simp only [hx, decide_false, Bool.or_false, beq_iff_eq] at h
    omega

/-- `pmpWriteCfgReg` of a register that exists completes and writes its entries. -/
theorem run_pmpWriteCfgReg {n : Fin 16} (h : pmpcfgEven n = true) (v : Xlenbits) (s : State) :
    (pmpWriteCfgReg n v).run s
      = .ok ((), { s with pmpcfg := writeCfgs s.pmpcfg (n.val * 4) v cfgsPerReg }) := by
  unfold pmpWriteCfgReg cfgsPerReg
  by_cases hx : xlen = 32
  · rw [if_pos hx, if_pos hx]
    rfl
  · have hn : (n.val % 2 == 0) = true := by
      unfold pmpcfgEven at h
      simpa [hx] using h
    rw [if_neg hx, if_neg hx, hn]
    rfl

/-! ## The inversion lemma -/

/-- The PMP registers of two states are the same. -/
def SamePmp (s s' : State) : Prop := s'.pmpcfg = s.pmpcfg ∧ s'.pmpaddr = s.pmpaddr

instance : Std.Refl SamePmp := ⟨fun _ => ⟨rfl, rfl⟩⟩

instance : IsTrans State SamePmp :=
  ⟨fun _ _ _ h₁ h₂ => ⟨h₂.1.trans h₁.1, h₂.2.trans h₁.2⟩⟩

/-- The check depends on the PMP registers only. -/
theorem pmpCheck_congr {s s' : State} (h : SamePmp s s') (addr : Xlenbits) (width : ℕ)
    (acc : AccessType) (priv : Privilege) :
    pmpCheck s' addr width acc priv = pmpCheck s addr width acc priv := by
  have hread (n : Fin 64) : pmpReadAddrReg s' n = pmpReadAddrReg s n := by
    unfold pmpReadAddrReg
    rw [h.1, h.2]
  have hprev (n : Fin 64) : prevPmpaddr s' n = prevPmpaddr s n := by
    unfold prevPmpaddr
    split
    · exact hread _
    · rfl
  unfold pmpCheck
  generalize BitVec.ofNat xlen width = w
  induction List.finRange 64 with
  | nil => rfl
  | cons i is ih => rw [pmpCheckFrom, pmpCheckFrom, hread, hprev, h.1, ih]

/-- A register write keeps `R` when the update does. -/
theorem keeps_writeReg {R : State → State → Prop} [Std.Refl R] [IsTrans State R]
    {write : State → State} {read : State → Xlenbits} (h : ∀ s, R s (write s)) :
    Exec.Keeps R (writeReg write read) := by
  have := Exec.keeps_update (ε := ModelError) h
  unfold writeReg
  infer_instance

/-- An update of the registers outside the PMP. -/
theorem keeps_samePmp_update {f : State → State} (h : ∀ s, SamePmp s (f s)) :
    Exec.Keeps SamePmp (Exec.update f : M Unit) :=
  Exec.keeps_update h

/-- The PMP registers are privileged registers. -/
theorem Frame.samePmp {s s' : State} (h : Frame s s') : SamePmp s s' :=
  ⟨congrArg Sys.pmpcfg h, congrArg Sys.pmpaddr h⟩

/-- What leaves the privileged registers alone leaves the PMP registers alone. -/
instance (priority := low) keeps_samePmp_of_frame {α : Type} (m : M α) [h : Exec.Keeps Frame m] :
    Exec.Keeps SamePmp m :=
  h.mono Frame.samePmp

instance keeps_samePmp_writeSatp (value : Xlenbits) : Exec.Keeps SamePmp (writeSatp value) := by
  have h := fun arch => keeps_samePmp_update
    (f := fun s => { s with satp := legalizeSatp arch s.satp value }) (fun _ => ⟨rfl, rfl⟩)
  unfold writeSatp
  infer_instance

instance keeps_samePmp_setXretTarget (p : Privilege) (value : Xlenbits) :
    Exec.Keeps SamePmp (setXretTarget p value) := by
  have h1 := fun target => keeps_samePmp_update
    (f := fun s => { s with mepc := target }) (fun _ => ⟨rfl, rfl⟩)
  have h2 := fun target => keeps_samePmp_update
    (f := fun s => { s with sepc := target }) (fun _ => ⟨rfl, rfl⟩)
  unfold setXretTarget
  cases p <;> infer_instance

theorem samePmp_writeMhpmcounterAt {n : ℕ} (i : Fin 32) (lo : ℕ) (value : BitVec n)
    (s : State) : SamePmp s (writeMhpmcounterAt i lo value s) := by
  unfold writeMhpmcounterAt
  split <;> exact ⟨rfl, rfl⟩

theorem samePmp_writeMhpmevent (i : Fin 32) (value : Xlenbits) (s : State) :
    SamePmp s (writeMhpmevent i value s) := by
  unfold writeMhpmevent
  split <;> exact ⟨rfl, rfl⟩

/-- A write to a CSR outside the PMP blocks leaves the PMP registers alone. -/
theorem keeps_samePmp_writeCSR (csr : BitVec 12) (value : Xlenbits)
    (h1 : (pmpcfgIdx csr).any pmpcfgEven = false) (h2 : (pmpaddrIdx csr).isSome = false) :
    Exec.Keeps SamePmp (writeCSR csr value) := by
  unfold writeCSR
  simp only [h1, h2, Bool.false_eq_true, if_false]
  repeat' first
    | infer_instance
    | exact keeps_writeReg (fun _ => ⟨rfl, rfl⟩)
    | exact keeps_writeReg (samePmp_writeMhpmcounterAt _ _ _)
    | exact keeps_writeReg (samePmp_writeMhpmevent _ _)
    | refine @Exec.keeps_ite _ _ _ _ _ _ _ _ ?_ ?_

omit [Platform] in
/-- The configuration registers are the block `0x3A0`. -/
theorem block_of_pmpcfgIdx {csr : BitVec 12} {n : Fin 16} (h : pmpcfgIdx csr = some n) :
    csr.extractLsb' 4 8 = 0x3A#8 := by
  unfold pmpcfgIdx at h
  split at h
  · assumption
  · cases h

omit [Platform] in
/-- The address registers are the blocks `0x3B0` to `0x3E0`. -/
theorem block_of_pmpaddrIdx {csr : BitVec 12} {n : Fin 64} (h : pmpaddrIdx csr = some n) :
    csr.extractLsb' 4 8 = 0x3B#8 ∨ csr.extractLsb' 4 8 = 0x3C#8
      ∨ csr.extractLsb' 4 8 = 0x3D#8 ∨ csr.extractLsb' 4 8 = 0x3E#8 := by
  unfold pmpaddrIdx at h
  split at h
  · exact Or.inl ‹_›
  · split at h
    · exact Or.inr (Or.inl ‹_›)
    · split at h
      · exact Or.inr (Or.inr (Or.inl ‹_›))
      · split at h
        · exact Or.inr (Or.inr (Or.inr ‹_›))
        · cases h

/-- The clause of `writeCSR` for a configuration register. -/
theorem writeCSR_pmpcfg {csr : BitVec 12} {n : Fin 16} (value : Xlenbits)
    (h : pmpcfgIdx csr = some n) (hn : pmpcfgEven n = true) :
    writeCSR csr value = (do
      pmpWriteCfgReg n value
      Exec.checks (fun s => pmpReadCfgReg s n)) := by
  have hb := block_of_pmpcfgIdx h
  have hany : (pmpcfgIdx csr).any pmpcfgEven = true := by rw [h]; exact hn
  unfold writeCSR
  -- no clause before this one has a number in the block
  repeat rw [if_neg (by
    first
    | (rintro rfl; exact absurd hb (by decide))
    | (rintro ⟨rfl, -⟩; exact absurd hb (by decide)))]
  rw [if_pos hany, h]
  rfl

/-- The clause of `writeCSR` for an address register. -/
theorem writeCSR_pmpaddr {csr : BitVec 12} {n : Fin 64} (value : Xlenbits)
    (h : pmpaddrIdx csr = some n) :
    writeCSR csr value = (do
      pmpWriteAddrReg n value
      Exec.reads (fun s => pmpReadAddrReg s n)) := by
  have hb := block_of_pmpaddrIdx h
  have hany : ¬ (pmpcfgIdx csr).any pmpcfgEven = true := by
    cases hm : pmpcfgIdx csr with
    | none => simp
    | some m =>
        have hcfg := block_of_pmpcfgIdx hm
        rcases hb with hb | hb | hb | hb <;> rw [hb] at hcfg <;> exact absurd hcfg (by decide)
  unfold writeCSR
  repeat rw [if_neg (by
    first
    | (rintro rfl; exact absurd hb (by decide))
    | (rintro ⟨rfl, -⟩; exact absurd hb (by decide)))]
  rw [if_neg hany, if_pos (by rw [h]; rfl), h]
  rfl

omit [Platform] in
/-- No CSR is both a configuration and an address register. -/
theorem pmpaddrIdx_eq_none {csr : BitVec 12} {n : Fin 16} (h : pmpcfgIdx csr = some n) :
    pmpaddrIdx csr = none := by
  cases hm : pmpaddrIdx csr with
  | none => rfl
  | some m =>
      have hcfg := block_of_pmpcfgIdx h
      rcases block_of_pmpaddrIdx hm with hb | hb | hb | hb <;> rw [hb] at hcfg <;>
        exact absurd hcfg (by decide)

/-- **What a CSR write does to the PMP registers.**  It leaves them alone, or it writes
the entries of one configuration register, or it writes one address register. -/
theorem writeCSR_pmp {csr : BitVec 12} {value r : Xlenbits} {s s' : State}
    (h : (writeCSR csr value).run s = .ok (r, s')) :
    (SamePmp s s' ∧ (pmpcfgIdx csr).any pmpcfgEven = false ∧ pmpaddrIdx csr = none)
      ∨ (∃ n, pmpcfgIdx csr = some n ∧ pmpcfgEven n = true ∧ s'.pmpaddr = s.pmpaddr
          ∧ s'.pmpcfg = writeCfgs s.pmpcfg (n.val * 4) value cfgsPerReg)
      ∨ (∃ n, pmpaddrIdx csr = some n ∧ s'.pmpcfg = s.pmpcfg
          ∧ s'.pmpaddr = Function.update s.pmpaddr n
              (pmpWriteAddr (pmpLocked (s.pmpcfg n)) (nextTORLocked s n) (s.pmpaddr n) value)) := by
  by_cases h1 : (pmpcfgIdx csr).any pmpcfgEven = true
  · cases hn : pmpcfgIdx csr with
    | none => rw [hn] at h1; cases h1
    | some n =>
        rw [hn] at h1
        rw [writeCSR_pmpcfg value hn h1,
          Exec.run_bind_of_ok (run_pmpWriteCfgReg h1 value s)] at h
        have hsame := (Exec.keeps_checks (R := Eq) _).rel h
        subst hsame
        exact Or.inr (Or.inl ⟨n, rfl, h1, rfl, rfl⟩)
  · cases hn : pmpaddrIdx csr with
    | some n =>
        rw [writeCSR_pmpaddr value hn, pmpWriteAddrReg, Exec.run_bind_of_ok rfl] at h
        cases h
        exact Or.inr (Or.inr ⟨n, rfl, rfl, rfl⟩)
    | none =>
        have hk := keeps_samePmp_writeCSR csr value (by simpa using h1) (by rw [hn]; rfl)
        exact Or.inl ⟨hk.rel h, by simpa using h1, rfl⟩

/-! ## One entry at a time -/

/-- The byte that the write of `value` to `csr` has for the configuration of entry `j`,
if `csr` is the configuration register of that entry. -/
def writtenCfg (csr : BitVec 12) (value : Xlenbits) (j : Fin 64) : Option (BitVec 8) :=
  match pmpcfgIdx csr with
  | some n =>
      if pmpcfgEven n ∧ n.val * 4 ≤ j.val ∧ j.val < n.val * 4 + cfgsPerReg
      then some (value.extractLsb' (8 * (j.val - n.val * 4)) 8) else none
  | none => none

/-- The configuration of an entry after a CSR write. -/
theorem writeCSR_pmpcfg_apply {csr : BitVec 12} {value r : Xlenbits} {s s' : State}
    (h : (writeCSR csr value).run s = .ok (r, s')) (j : Fin 64) :
    s'.pmpcfg j
      = (writtenCfg csr value j).elim (s.pmpcfg j) (pmpWriteCfg (s.pmpcfg j)) := by
  unfold writtenCfg
  rcases writeCSR_pmp h with ⟨hsame, hcfg, -⟩ | ⟨n, hn, heven, -, hcfg⟩ | ⟨n, hn, hcfg, -⟩
  · rw [hsame.1]
    cases hn : pmpcfgIdx csr with
    | none => rfl
    | some n =>
        have heven : pmpcfgEven n = false := by simpa [hn] using hcfg
        simp [heven]
  · rw [hn, hcfg, writeCfgs_apply _ _ _ _ (cfgsPerReg_le heven)]
    by_cases hj : n.val * 4 ≤ j.val ∧ j.val < n.val * 4 + cfgsPerReg
    · simp [heven, hj]
    · simp [hj]
  · have hnone : pmpcfgIdx csr = none := by
      cases hm : pmpcfgIdx csr with
      | none => rfl
      | some m => rw [pmpaddrIdx_eq_none hm] at hn; cases hn
    rw [hnone, hcfg]
    rfl

/-- The address register of an entry after a CSR write. -/
theorem writeCSR_pmpaddr_apply {csr : BitVec 12} {value r : Xlenbits} {s s' : State}
    (h : (writeCSR csr value).run s = .ok (r, s')) (j : Fin 64) :
    s'.pmpaddr j = if pmpaddrIdx csr = some j
      then pmpWriteAddr (pmpLocked (s.pmpcfg j)) (nextTORLocked s j) (s.pmpaddr j) value
      else s.pmpaddr j := by
  rcases writeCSR_pmp h with ⟨hsame, -, hn⟩ | ⟨n, hn, -, haddr, -⟩ | ⟨n, hn, -, haddr⟩
  · rw [hsame.2, hn]
    simp
  · rw [haddr, pmpaddrIdx_eq_none hn]
    simp
  · rw [haddr, hn]
    by_cases hj : n = j
    · subst hj
      simp
    · rw [Function.update_of_ne (fun h => hj h.symm), if_neg (by simpa using hj)]

/-! ## Runs of CSR writes -/

/-- A completed write of a value to a CSR. -/
def CsrStep (w : BitVec 12 × Xlenbits) (s s' : State) : Prop :=
  ∃ r, (writeCSR w.1 w.2).run s = .ok (r, s')

/-- The PMP registers after a reset: `init_pmp` run on registers that are zero. -/
def PmpReset (s : State) : Prop := (∀ i, s.pmpcfg i = 0#8) ∧ ∀ i, s.pmpaddr i = 0#_

/-- The states whose PMP registers are reached from a reset by CSR writes. -/
def PmpReachable (s : State) : Prop :=
  ∃ s₀ s₁, PmpReset s₀ ∧ Run CsrStep Run.Free s₀ s₁ ∧ SamePmp s₁ s

/-- What CSR writes keep true of the PMP registers. -/
structure PmpLegal (s : State) : Prop where
  /-- NA4 is not selected when there is a grain. -/
  na4 : ∀ i, pmpMatchType (s.pmpcfg i) = .NA4 → sysPmpGrain = 0
  /-- On RV64 the address registers have 54 bits. -/
  addr_lt : ∀ i, xlen = 64 → (s.pmpaddr i).toNat < 2 ^ 54

/-- A locked configuration is not written. -/
theorem pmpWriteCfg_of_locked {cfg : BitVec 8} (h : pmpLocked cfg = true) (v : BitVec 8) :
    pmpWriteCfg cfg v = cfg := by
  unfold pmpWriteCfg
  rw [if_pos h]

/-- Without a lock, a configuration takes the match type written to it, except that NA4
becomes OFF when there is a grain. -/
theorem pmpMatchType_pmpWriteCfg {cfg : BitVec 8} (h : pmpLocked cfg = false) (v : BitVec 8) :
    pmpMatchType (pmpWriteCfg cfg v)
      = if 1 ≤ sysPmpGrain ∧ pmpMatchType v = .NA4 then .OFF else pmpMatchType v := by
  unfold pmpWriteCfg
  rw [if_neg (by simp [h])]
  by_cases hG : 1 ≤ sysPmpGrain
  · simp only [hG, true_and]
    clear h
    revert v
    decide
  · simp only [hG, false_and, if_false]
    clear h
    revert v
    decide

/-- The reset state is legal. -/
theorem PmpReset.legal {s : State} (h : PmpReset s) : PmpLegal s where
  na4 i hi := by
    rw [h.1 i] at hi
    exact absurd hi (by decide)
  addr_lt i _ := by
    rw [h.2 i]
    simp

/-- A CSR write keeps the PMP registers legal. -/
theorem PmpLegal.step {s s' : State} {w : BitVec 12 × Xlenbits} (h : PmpLegal s)
    (hstep : CsrStep w s s') : PmpLegal s' := by
  obtain ⟨r, hr⟩ := hstep
  constructor
  · intro i hi
    rw [writeCSR_pmpcfg_apply hr i] at hi
    cases hw : writtenCfg w.1 w.2 i with
    | none => rw [hw] at hi; exact h.na4 i hi
    | some b =>
        rw [hw, Option.elim_some] at hi
        cases hl : pmpLocked (s.pmpcfg i) with
        | true =>
            rw [pmpWriteCfg_of_locked hl] at hi
            exact h.na4 i hi
        | false =>
            rw [pmpMatchType_pmpWriteCfg hl] at hi
            split at hi
            · cases hi
            · rename_i hne
              by_contra hG
              exact hne ⟨by omega, hi⟩
  · intro i hx
    rw [writeCSR_pmpaddr_apply hr i]
    split
    · unfold pmpWriteAddr
      split
      · exact h.addr_lt i hx
      · rw [if_neg (by omega)]
        have h54 : (lowOnes xlen 54).toNat = 2 ^ 54 - 1 := toNat_lowOnes _ _ (by omega)
        have hle : (w.2 &&& lowOnes xlen 54).toNat ≤ (lowOnes xlen 54).toNat := by
          rw [BitVec.toNat_and]
          exact Nat.and_le_right
        omega
    · exact h.addr_lt i hx

/-- Legality is about the PMP registers only. -/
theorem PmpLegal.of_samePmp {s s' : State} (h : PmpLegal s) (hsame : SamePmp s s') :
    PmpLegal s' where
  na4 i := by rw [hsame.1]; exact h.na4 i
  addr_lt i := by rw [hsame.2]; exact h.addr_lt i

/-- **The PMP registers are legal in every reachable state.** -/
theorem PmpReachable.legal {s : State} (h : PmpReachable s) : PmpLegal s := by
  obtain ⟨s₀, s₁, hreset, hrun, hsame⟩ := h
  have hlegal := hrun.invariant hreset.legal (fun hi _ hs => hi.step hs)
  exact hlegal.of_samePmp hsame

/-! ## Sequences of writes -/

/-- The state after a sequence of CSR writes; a write that aborts is skipped. -/
def afterWrites (s : State) (ws : List (BitVec 12 × Xlenbits)) : State :=
  ws.foldl (fun s w => ((writeCSR w.1 w.2).run s).toOption.elim s Prod.snd) s

/-- One CSR write is a run under every condition it meets. -/
theorem run_afterWrites_one {P : State → BitVec 12 × Xlenbits → Prop} {s : State}
    {w : BitVec 12 × Xlenbits} (h : P s w) : Run CsrStep P s (afterWrites s [w]) := by
  cases hw : (writeCSR w.1 w.2).run s with
  | error e =>
      have hs : afterWrites s [w] = s := by simp [afterWrites, hw, Except.toOption]
      rw [hs]
      exact .start
  | ok p =>
      have hs : afterWrites s [w] = p.2 := by simp [afterWrites, hw, Except.toOption]
      rw [hs]
      exact .next .start h ⟨p.1, hw⟩

/-- A sequence of CSR writes is a run. -/
theorem run_afterWrites (s : State) (ws : List (BitVec 12 × Xlenbits)) :
    Run CsrStep Run.Free s (afterWrites s ws) := by
  induction ws generalizing s with
  | nil => exact .start
  | cons w ws ih =>
      have hone : Run CsrStep Run.Free s (afterWrites s [w]) := run_afterWrites_one trivial
      exact hone.trans (ih _)

/-- The state after a sequence of CSR writes from zeroed registers. -/
def configured (ws : List (BitVec 12 × Xlenbits)) : State :=
  afterWrites (State.zero fun _ => 0#8) ws

theorem pmpReachable_configured (ws : List (BitVec 12 × Xlenbits)) :
    PmpReachable (configured ws) :=
  ⟨_, _, ⟨fun _ => rfl, fun _ => rfl⟩, run_afterWrites _ ws, rfl, rfl⟩

end SailRiscv
