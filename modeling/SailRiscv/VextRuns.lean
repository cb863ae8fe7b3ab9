/-
# Runs of vector instructions

What the accessors of the vector registers read and write, in terms of the elements of register
groups, and what the loop over the active elements leaves behind.
-/
import SailRiscv.Lib.ReadOnly
import SailRiscv.FixedPoint
import SailRiscv.VextFree

namespace SailRiscv

open Bits Platform

variable [Platform]

/-! ## Computations that only read -/

/-- An error of an assertion. -/
def IsAssert (e : ModelError) : Prop := ∃ msg, e = .assertFailed msg

/-- A computation that reads the state, and may fail an assertion. -/
abbrev Reads {α : Type} (m : M α) : Prop := Exec.ReadOnly IsAssert m

/-- A sequence that completes, after a part that only reads. -/
theorem run_bind_reads {α β : Type} {m : M α} {f : α → M β} [h : Reads m] {s s' : State} {b : β}
    (hrun : (m >>= f).run s = .ok (b, s')) :
    ∃ a, m.run s = .ok (a, s) ∧ (f a).run s = .ok (b, s') :=
  Exec.run_bind_readOnly h hrun

omit [Platform] in
theorem isAssert_orAssert {α : Type} {v : Option α} {msg : String} {e : ModelError}
    (h : orAssert v msg = .error e) : IsAssert e := by
  unfold orAssert at h
  cases v with
  | none =>
      cases h
      exact ⟨msg, rfl⟩
  | some a => cases h

instance (c : Bool) (msg : String) : Reads (assert c msg) where
  run_cases s := by
    unfold assert
    cases c with
    | true => exact Or.inl ⟨(), rfl⟩
    | false => exact Or.inr ⟨_, ⟨msg, rfl⟩, rfl⟩

instance : Reads getSewPow := Exec.readOnly_checks (fun _ _ h => isAssert_orAssert h)

instance : Reads getLmulPow := Exec.readOnly_checks (fun _ _ h => isAssert_orAssert h)

instance : Reads getSew := by
  unfold getSew
  infer_instance

instance (lmul : ℤ) (SEW : ℕ) : Reads (getNumElem lmul SEW) := by
  unfold getNumElem
  infer_instance

instance : Reads vconf := by
  unfold vconf
  infer_instance

instance (r : Regidx) : Reads (rV r) := by
  unfold rV
  infer_instance

instance (numElem SEW : ℕ) (vrid : Regidx) : Reads (readSingleVreg numElem SEW vrid) := by
  unfold readSingleVreg
  infer_instance

instance (numElem numElemSingle i : ℕ) : Reads (assertInGroup numElem numElemSingle i) := by
  unfold assertInGroup
  infer_instance

instance reads_readVreg (numElem SEW : ℕ) (lmul : ℤ) (vrid : Regidx) :
    Reads (readVreg numElem SEW lmul vrid) := by
  unfold readVreg
  infer_instance

instance (numElem : ℕ) (vm : BitVec 1) (vrid : Regidx) : Reads (readVmask numElem vm vrid) := by
  unfold readVmask
  infer_instance

instance (numElem : ℕ) (vm : BitVec 1) (vrid : Regidx) :
    Reads (readVmaskCarry numElem vm vrid) := by
  unfold readVmaskCarry
  infer_instance

instance (r : BitVec 5) : Reads (rX r) := by
  unfold rX
  infer_instance

instance (rs1 : Regidx) (SEW : ℕ) : Reads (getScalar rs1 SEW) := by
  unfold getScalar
  infer_instance

instance : Reads getEndElement := by
  unfold getEndElement
  infer_instance

instance (c : VConf) (r : Regidx) : Reads (c.group r) := reads_readVreg _ _ _ _

instance (c : VConf) (r : Regidx) : Reads (c.scalar r) := by
  unfold VConf.scalar
  infer_instance

instance (c : VConf) (simm : BitVec 5) : Reads (c.imm simm) := by
  unfold VConf.imm
  infer_instance

instance (r : Regidx) (c : VConf) : Reads (srcV r c) := reads_readVreg _ _ _ _

instance (r : Regidx) (c : VConf) : Reads (srcX r c) := by
  unfold srcX
  infer_instance

instance (simm : BitVec 5) (c : VConf) : Reads (srcI simm c) := by
  unfold srcI
  infer_instance

/-! ## Elements -/

/-- The number of elements of `SEW` bits in a register. -/
def perReg (SEW : ℕ) : ℕ := VLEN / SEW

/-- The number of elements of `SEW` bits in the registers of a group. -/
def groupLen (SEW : ℕ) (lmul : ℤ) : ℕ := groupRegs lmul * perReg SEW

/-- Element `i` of the group of registers that starts at `r`. -/
def State.elem (s : State) (SEW : ℕ) (r : Regidx) (i : ℕ) : BitVec SEW :=
  bits (s.V (groupReg r (i / perReg SEW))) (i % perReg SEW * SEW) SEW

/-- The registers from `r` on are a group: they exist, and `r` is a multiple of their number. -/
structure IsGroup (lmul : ℤ) (r : Regidx) : Prop where
  le : r.toNat + groupRegs lmul ≤ 32
  aligned : r.toNat % groupRegs lmul = 0

omit [Platform] in
theorem groupRegs_of_neg {lmul : ℤ} (h : lmul < 0) : groupRegs lmul = 1 := by
  unfold groupRegs
  rw [Int.toNat_of_nonpos h.le, pow_zero]

/-- What `read_single_vreg` returns. -/
theorem run_readSingleVreg_ok {numElem SEW : ℕ} {r : Regidx} {s s' : State} {v : ℕ → BitVec SEW}
    (h : (readSingleVreg numElem SEW r).run s = .ok (v, s')) :
    v = fun i => if i < numElem then bits (s.V r) (i * SEW) SEW else BitVec.ofNat SEW 0 := by
  unfold readSingleVreg at h
  obtain ⟨bv, hbv, h⟩ := run_bind_reads h
  obtain ⟨-, -, h⟩ := run_bind_reads h
  cases hbv
  cases h
  rfl

omit [Platform] in
theorem groupReg_zero (r : Regidx) : groupReg r 0 = r := BitVec.add_zero r

/-- Element `i` of a group, by its place in register `k`. -/
theorem elem_of_mem {s : State} {SEW k i : ℕ} (r : Regidx) (hlo : k * perReg SEW ≤ i)
    (hhi : i < k * perReg SEW + perReg SEW) :
    s.elem SEW r i = bits (s.V (groupReg r k)) ((i - k * perReg SEW) * SEW) SEW := by
  have hdiv : i / perReg SEW = k := by
    refine Nat.div_eq_of_lt_le hlo ?_
    rwa [Nat.succ_mul]
  unfold State.elem
  rw [hdiv, Nat.mod_eq_sub_mul_div, hdiv, mul_comm (perReg SEW)]

/-- The loop of `read_vreg` over the registers of a group. -/
theorem run_readGroup_ok {numElem SEW : ℕ} {r : Regidx} {s s' : State} {v : ℕ → BitVec SEW}
    (n start : ℕ) {acc : ℕ → BitVec SEW}
    (h : (Exec.foreach start n acc fun iLmul result => do
        let numElemSingle := VLEN / SEW
        let single ← readSingleVreg numElemSingle SEW (groupReg r iLmul)
        assertInGroup numElem numElemSingle iLmul
        let first := iLmul * numElemSingle
        pure fun i =>
          if first ≤ i ∧ i < first + numElemSingle then single (i - first) else result i : M _).run s
        = .ok (v, s')) (i : ℕ) :
    v i = if start * perReg SEW ≤ i ∧ i < (start + n) * perReg SEW
      then s.elem SEW r i else acc i := by
  induction n generalizing start acc with
  | zero =>
      rw [Exec.foreach] at h
      cases h
      rw [Nat.add_zero, if_neg (by omega)]
  | succ n ih =>
      rw [Exec.foreach] at h
      obtain ⟨acc', hbody, hrest⟩ := run_bind_reads h
      obtain ⟨single, hsingle, hbody⟩ := run_bind_reads hbody
      obtain ⟨-, -, hbody⟩ := run_bind_reads hbody
      have hacc : acc' i = if start * perReg SEW ≤ i ∧ i < start * perReg SEW + perReg SEW
          then s.elem SEW r i else acc i := by
        cases hbody
        show (if start * perReg SEW ≤ i ∧ i < start * perReg SEW + perReg SEW
          then single (i - start * perReg SEW) else acc i) = _
        by_cases hin : start * perReg SEW ≤ i ∧ i < start * perReg SEW + perReg SEW
        · have hlt : i - start * perReg SEW < VLEN / SEW := by
            show _ < perReg SEW
            omega
          rw [if_pos hin, if_pos hin, run_readSingleVreg_ok hsingle, elem_of_mem r hin.1 hin.2]
          exact if_pos hlt
        · rw [if_neg hin, if_neg hin]
      rw [ih (start + 1) hrest, hacc]
      have hnext : (start + 1) * perReg SEW = start * perReg SEW + perReg SEW := Nat.succ_mul _ _
      have hmono : (start + 1) * perReg SEW ≤ (start + (n + 1)) * perReg SEW :=
        Nat.mul_le_mul_right _ (by omega)
      rw [show start + 1 + n = start + (n + 1) by omega]
      by_cases hrange : start * perReg SEW ≤ i ∧ i < (start + (n + 1)) * perReg SEW
      · rw [if_pos hrange]
        split
        · rfl
        · rw [if_pos (by omega)]
      · rw [if_neg hrange, if_neg (by omega), if_neg (by omega)]

/-- The elements that `read_vreg` returns: those of the registers, and beyond them zeros, or for
a fractional group the bits that follow. -/
def State.group (s : State) (n SEW : ℕ) (lmul : ℤ) (r : Regidx) (i : ℕ) : BitVec SEW :=
  if lmul < 0 then (if i < n then bits (s.V r) (i * SEW) SEW else BitVec.ofNat SEW 0)
  else if i < groupLen SEW lmul then s.elem SEW r i else BitVec.ofNat SEW 0

/-- **What `read_vreg` returns.** -/
theorem run_readVreg_ok {n SEW : ℕ} {lmul : ℤ} {r : Regidx} {s s' : State} {v : ℕ → BitVec SEW}
    (h : (readVreg n SEW lmul r).run s = .ok (v, s')) :
    s' = s ∧ IsGroup lmul r ∧ v = s.group n SEW lmul r := by
  refine ⟨(reads_readVreg n SEW lmul r).state_eq h, ?_⟩
  unfold readVreg at h
  obtain ⟨_, hle, h⟩ := run_bind_reads h
  obtain ⟨_, hal, h⟩ := run_bind_reads h
  refine ⟨⟨of_decide_eq_true (run_assert_ok.mp hle).1, of_decide_eq_true (run_assert_ok.mp hal).1⟩,
    ?_⟩
  funext i
  unfold State.group
  by_cases hneg : lmul < 0
  · rw [if_pos hneg] at h ⊢
    exact congrFun (run_readSingleVreg_ok h) i
  · rw [if_neg hneg] at h ⊢
    rw [run_readGroup_ok _ 0 h i, Nat.zero_mul, Nat.zero_add]
    refine if_congr ?_ rfl rfl
    unfold groupLen
    omega

/-- The elements of the registers. -/
theorem group_eq_elem {n SEW : ℕ} {lmul : ℤ} {r : Regidx} {s : State} {i : ℕ}
    (hi : i < groupLen SEW lmul) (hn : i < n) : s.group n SEW lmul r i = s.elem SEW r i := by
  unfold State.group
  by_cases hneg : lmul < 0
  · rw [if_pos hneg, if_pos hn]
    unfold groupLen at hi
    rw [groupRegs_of_neg hneg, Nat.one_mul] at hi
    rw [elem_of_mem (k := 0) r (by omega) (by omega), groupReg_zero, Nat.zero_mul, Nat.sub_zero]
  · rw [if_neg hneg, if_pos hi]

/-! ## Writing -/

/-- The elements `v`, one after the other, in front of `acc`. -/
def packed (SEW n : ℕ) (acc : Vregtype) (v : ℕ → BitVec SEW) : Vregtype :=
  forDown n acc fun i r => r <<< SEW ||| (v i).setWidth _

omit [Platform] in
/-- The bits of packed elements. -/
theorem getLsbD_packed {SEW n k : ℕ} {acc : Vregtype} {v : ℕ → BitVec SEW} (hS : 0 < SEW)
    (hk : k < 65536) :
    (packed SEW n acc v).getLsbD k
      = if k < n * SEW then (v (k / SEW)).getLsbD (k % SEW) else acc.getLsbD (k - n * SEW) := by
  unfold packed
  induction n generalizing acc with
  | zero =>
      rw [forDown, Nat.zero_mul, if_neg (by omega), Nat.sub_zero]
  | succ n ih =>
      rw [forDown, ih, Nat.succ_mul]
      by_cases hlow : k < n * SEW
      · rw [if_pos hlow, if_pos (by omega)]
      · rw [if_neg hlow, BitVec.getLsbD_or, BitVec.getLsbD_shiftLeft, BitVec.getLsbD_setWidth]
        have hbound : k - n * SEW < 65536 := by omega
        by_cases hmid : k < n * SEW + SEW
        · have hdiv : k / SEW = n := Nat.div_eq_of_lt_le (by omega) (by rw [Nat.succ_mul]; omega)
          have hmod : k % SEW = k - n * SEW := by
            rw [Nat.mod_eq_sub_mul_div, hdiv, mul_comm]
          rw [if_pos hmid, hdiv, hmod]
          simp [hbound, show k - n * SEW < SEW by omega]
        · rw [if_neg hmid, BitVec.getLsbD_of_ge _ _ (show SEW ≤ k - n * SEW by omega)]
          simp [hbound, show ¬ k - n * SEW < SEW by omega, Nat.sub_sub]

omit [Platform] in
/-- Element `j` of packed elements. -/
theorem bits_packed {SEW n j : ℕ} {acc : Vregtype} {v : ℕ → BitVec SEW} (hn : n * SEW ≤ 65536)
    (hj : j < n) : bits (packed SEW n acc v) (j * SEW) SEW = v j := by
  apply BitVec.eq_of_getLsbD_eq
  intro t ht
  have hlt : j * SEW + t < n * SEW := by
    calc j * SEW + t < j * SEW + SEW := by omega
      _ = (j + 1) * SEW := (Nat.succ_mul _ _).symm
      _ ≤ n * SEW := Nat.mul_le_mul_right _ hj
  unfold bits
  rw [BitVec.getLsbD_extractLsb', getLsbD_packed (by omega) (by omega), if_pos hlt,
    Nat.mul_comm j, Nat.mul_add_div (by omega), Nat.div_eq_of_lt ht, Nat.add_zero,
    Nat.mul_add_mod, Nat.mod_eq_of_lt ht]
  simp [ht]

omit [Platform] in
/-- The registers of a group are different. -/
theorem groupReg_inj {r : Regidx} {k k' : ℕ} (hk : k < 32) (hk' : k' < 32)
    (h : groupReg r k = groupReg r k') : k = k' := by
  unfold groupReg at h
  have hadd := congrArg BitVec.toNat (BitVec.add_right_inj r |>.mp h)
  rw [BitVec.toNat_ofNat, BitVec.toNat_ofNat] at hadd
  omega

/-- The registers of the elements fit. -/
theorem perReg_mul_le (SEW : ℕ) : perReg SEW * SEW ≤ 65536 := by
  have hv := (Platform.sysVectorVlenExp_mem).2
  calc perReg SEW * SEW ≤ VLEN := Nat.div_mul_le_self _ _
    _ ≤ 2 ^ 16 := Nat.pow_le_pow_right (by omega) hv

/-- The state after a write to a register. -/
def State.setV (s : State) (r : Regidx) (v : Vregtype) : State :=
  { s with
    v := Function.update s.v r.toFin v }

theorem V_setV (s : State) (r q : Regidx) (v : Vregtype) :
    (s.setV r v).V q = if q = r then v else s.V q := by
  show Function.update s.v r.toFin v q.toFin = _
  by_cases h : q = r
  · rw [if_pos h, h, Function.update_self]
  · rw [if_neg h, Function.update_of_ne (fun hq => h (BitVec.toFin_inj.mp hq))]
    rfl

/-- A write to a register completes when the vector unit is there. -/
theorem run_wV_ok {r : Regidx} {v : Vregtype} {s s' : State} {u : Unit}
    (h : (wV r v).run s = .ok (u, s')) : s' = (s.setV r v).dirtyV := by
  unfold wV dirtyVContext at h
  rw [Exec.run_bind_of_ok rfl] at h
  obtain ⟨_, s₁, hdirty, h⟩ := Exec.run_bind_ok.mp h
  obtain ⟨_, hassert, hdirty⟩ := run_bind_reads hdirty
  cases hdirty
  obtain ⟨-, rfl⟩ := run_assert_ok.mp h
  rfl

/-- A write to a register of a group. -/
theorem run_writeSingleVreg_ok {n SEW : ℕ} {r : Regidx} {v : ℕ → BitVec SEW} {s s' : State}
    {u : Unit} (h : (writeSingleVreg n SEW r v).run s = .ok (u, s')) :
    s' = (s.setV r (packed SEW n 0#_ v)).dirtyV := by
  unfold writeSingleVreg at h
  obtain ⟨_, _, h⟩ := run_bind_reads h
  exact run_wV_ok h

/-- The registers that a write to a group changes, among the first `n` from `start` on. -/
theorem run_writeGroup_ok {numElem SEW : ℕ} {r : Regidx} {vec : ℕ → BitVec SEW} {u : Unit}
    (n start : ℕ) (hn : start + n ≤ 32) {s s' : State}
    (h : (Exec.foreach start n () fun iLmul _ => do
        let numElemSingle := VLEN / SEW
        assertInGroup numElem numElemSingle iLmul
        writeSingleVreg numElemSingle SEW (groupReg r iLmul)
          (fun i => vec (iLmul * numElemSingle + i)) : M Unit).run s = .ok (u, s')) :
    (∀ k, start ≤ k → k < start + n → s'.V (groupReg r k)
        = packed SEW (perReg SEW) 0#_ (fun i => vec (k * perReg SEW + i)))
      ∧ (∀ q, (∀ k, start ≤ k → k < start + n → q ≠ groupReg r k) → s'.V q = s.V q)
      ∧ s' = { s with
          v := s'.v
          mstatus := s'.mstatus } := by
  induction n generalizing start s with
  | zero =>
      rw [Exec.foreach] at h
      cases h
      exact ⟨fun k hlo hhi => absurd hhi (by omega), fun _ _ => rfl, rfl⟩
  | succ n ih =>
      rw [Exec.foreach] at h
      obtain ⟨_, s₁, hbody, hrest⟩ := Exec.run_bind_ok.mp h
      obtain ⟨_, -, hbody⟩ := run_bind_reads hbody
      have hs₁ := run_writeSingleVreg_ok hbody
      obtain ⟨hin, hout, hframe⟩ := ih (start + 1) (by omega) hrest
      have hV₁ (q : Regidx) : s₁.V q = if q = groupReg r start
          then packed SEW (perReg SEW) 0#_ (fun i => vec (start * perReg SEW + i)) else s.V q := by
        rw [hs₁]
        exact V_setV s _ q _
      refine ⟨?_, ?_, ?_⟩
      · intro k hlo hhi
        by_cases hk : k = start
        · rw [hk, hout _ (fun k' hlo' hhi' heq => ?_), hV₁, if_pos rfl]
          have := groupReg_inj (by omega) (by omega) heq
          omega
        · exact hin k (by omega) (by omega)
      · intro q hq
        rw [hout q (fun k hlo hhi => hq k (by omega) (by omega)), hV₁,
          if_neg (hq start le_rfl (by omega))]
      · rw [hframe, hs₁]
        rfl

/-- The state after a write of `vec` to the group at `r`. -/
structure WritesGroup (SEW : ℕ) (lmul : ℤ) (r : Regidx) (vec : ℕ → BitVec SEW) (s s' : State) :
    Prop where
  elem : ∀ i < groupLen SEW lmul, s'.elem SEW r i = vec i
  other : ∀ q, (∀ k < groupRegs lmul, q ≠ groupReg r k) → s'.V q = s.V q
  frame : s' = { s with
    v := s'.v
    mstatus := s'.mstatus }

/-- **What `write_vreg` writes.** -/
theorem run_writeVreg_ok {n SEW : ℕ} {lmul : ℤ} {r : Regidx} {vec : ℕ → BitVec SEW}
    {s s' : State} {u : Unit} (hg : IsGroup lmul r)
    (h : (writeVreg n SEW lmul r vec).run s = .ok (u, s')) : WritesGroup SEW lmul r vec s s' := by
  have hle := hg.le
  obtain ⟨hin, hout, hframe⟩ := run_writeGroup_ok (groupRegs lmul) 0 (by omega) h
  refine ⟨fun i hi => ?_, fun q hq => hout q (fun k _ hk => hq k (by omega)), hframe⟩
  have hper : 0 < perReg SEW := by
    refine Nat.pos_of_ne_zero (fun h0 => ?_)
    rw [groupLen, h0, Nat.mul_zero] at hi
    omega
  have hreg : i / perReg SEW < groupRegs lmul := Nat.div_lt_of_lt_mul (by rwa [Nat.mul_comm])
  unfold State.elem
  rw [hin _ (Nat.zero_le _) (by omega), bits_packed (perReg_mul_le SEW) (Nat.mod_lt _ hper),
    Nat.div_add_mod']

/-! ## The body -/

/-- The vector registers, the vector CSRs and the integer registers are the same. -/
structure SameRegs (s s' : State) : Prop where
  vec : s'.vecRegs = s.vecRegs
  x : s'.x = s.x

theorem SameRegs.refl (s : State) : SameRegs s s := ⟨rfl, rfl⟩

/-- A trap leaves the registers alone. -/
theorem TrapEntry.sameRegs {intr : Bool} {c : BitVec 8} {info : Option Xlenbits} {p : Privilege}
    {s s' : State} (h : TrapEntry intr c info s p s') : SameRegs s s' := by
  rcases h with _ | _ <;> exact ⟨rfl, rfl⟩

theorem SyncTrap.sameRegs {s s' : State} (h : SyncTrap s s') : SameRegs s s' := by
  obtain ⟨e, h⟩ := h
  exact (handleSync_cases h).sameRegs

/-- What `get_start_element` returns; at a start that no element can have there is a trap. -/
theorem run_getStartElement_ok {k : ℕ} {s s' : State}
    (h : getStartElement.run s = .ok (k, s')) :
    k = s.vstart.toNat ∧ SameRegs s s' ∧ (s.vstart = 0#16 → s' = s) := by
  unfold getStartElement at h
  obtain ⟨start, hstart, h⟩ := run_bind_reads h
  cases hstart
  obtain ⟨pow, -, h⟩ := run_bind_reads h
  obtain ⟨_, s₁, hcheck, h⟩ := Exec.run_bind_ok.mp h
  cases h
  refine ⟨rfl, ?_⟩
  unfold checkStart at hcheck
  split at hcheck
  · rename_i hgt
    refine ⟨(syncTrap_of_handleIllegal hcheck).sameRegs, fun h0 => ?_⟩
    change s.vstart.toNat > _ at hgt
    rw [h0] at hgt
    exact absurd hgt (Nat.not_lt_zero _)
  · cases hcheck
    exact ⟨SameRegs.refl s, fun _ => rfl⟩

/-- The body of the instruction that executes in the state. -/
def State.body (s : State) (n : ℕ) (lmul : ℤ) (i : ℕ) : Bool :=
  inBody n lmul s.vstart.toNat ((s.vl.toNat : ℤ) - 1) i

theorem run_bodyOf_ok {n : ℕ} {lmul : ℤ} {body : ℕ → Bool} {s s' : State}
    (h : (bodyOf n lmul).run s = .ok (body, s')) :
    body = s.body n lmul ∧ SameRegs s s' ∧ (s.vstart = 0#16 → s' = s) := by
  unfold bodyOf at h
  obtain ⟨k, s₁, hstart, h⟩ := Exec.run_bind_ok.mp h
  obtain ⟨rfl, hsame, heq⟩ := run_getStartElement_ok hstart
  obtain ⟨last, hlast, h⟩ := run_bind_reads h
  obtain ⟨_, -, h⟩ := run_bind_reads h
  cases hlast
  cases h
  have hvl : s'.vl = s.vl := congrArg VecRegs.vl hsame.vec
  refine ⟨?_, hsame, heq⟩
  funext i
  show inBody n lmul s.vstart.toNat ((s'.vl.toNat : ℤ) - 1) i = s.body n lmul i
  rw [hvl]
  rfl

/-! ## The loop over the active elements -/

omit [Platform] in
theorem set_vxsat_twice (c : BitVec 3) :
    Vcsr.vxsat.set (Vcsr.vxsat.set c 1#1) 1#1 = Vcsr.vxsat.set c 1#1 := by
  revert c
  decide

theorem satIf_satIf (s : State) (b c : Bool) : (s.satIf b).satIf c = s.satIf (b || c) := by
  unfold State.satIf
  cases b with
  | false => rw [Bool.false_or]; rfl
  | true =>
      cases c with
      | false => rfl
      | true =>
          rw [Bool.true_or, if_pos rfl, if_pos rfl]
          exact congrArg (fun c => { s with vcsr := c }) (set_vxsat_twice s.vcsr)

@[simp] theorem satIf_false (s : State) : s.satIf false = s := rfl

/-- Whatever `vxsat` is in `s`, the element is `a`, if it is computed at all, and it sets `vxsat`
if `b`. -/
def Computes {α : Type} (s : State) (m : M (Option α)) (a : α) (b : Bool) : Prop :=
  ∀ c r t, m.run (s.satIf c) = .ok (some r, t) → r = a ∧ t = (s.satIf c).satIf b

/-- The loop from `start` on. -/
theorem run_foreachActive_ok {α : Type} {mask : ℕ → Bool} {elem : ℕ → M (Option α)}
    {f : ℕ → α} {sat : ℕ → Bool} {s t : State} {res : ℕ → α} (n start : ℕ) (b : Bool)
    (init : ℕ → α)
    (h : ∀ i, start ≤ i → i < start + n → mask i = true → Computes s (elem i) (f i) (sat i))
    (hrun : (Exec.foreachTry start n init fun i r =>
      if mask i then do
        let v ← elem i
        pure (v.map (Function.update r i))
      else pure (some r) : M (Option (ℕ → α))).run (s.satIf b) = .ok (some res, t)) :
    (∀ i, res i = if start ≤ i ∧ i < start + n ∧ mask i = true then f i else init i)
      ∧ t = s.satIf (b || (List.range' start n).any fun i => mask i && sat i) := by
  induction n generalizing start b init with
  | zero =>
      rw [Exec.foreachTry] at hrun
      cases hrun
      refine ⟨fun i => ?_, ?_⟩
      · rw [if_neg (by omega)]
      · rw [List.range'_zero, List.any_nil, Bool.or_false]
  | succ n ih =>
      rw [Exec.foreachTry] at hrun
      obtain ⟨r, s₁, hbody, hrest⟩ := Exec.run_bind_ok.mp hrun
      cases r with
      | none => cases hrest
      | some acc =>
      rw [List.range'_succ, List.any_cons]
      by_cases hm : mask start = true
      · rw [if_pos hm] at hbody
        obtain ⟨v, s₂, helem, hmap⟩ := Exec.run_bind_ok.mp hbody
        cases v with
        | none => cases hmap
        | some a =>
        cases hmap
        obtain ⟨rfl, rfl⟩ := h start le_rfl (by omega) hm b a _ helem
        rw [satIf_satIf] at hrest
        obtain ⟨hres, hst⟩ := ih (start + 1) (b || sat start) _
          (fun i hlo hhi => h i (by omega) (by omega)) hrest
        refine ⟨fun i => ?_, ?_⟩
        · rw [hres i]
          by_cases hi : i = start
          · rw [hi, if_neg (by omega), Function.update_self, if_pos ⟨le_rfl, by omega, hm⟩]
          · rw [Function.update_of_ne hi]
            refine if_congr ?_ rfl rfl
            constructor
            · rintro ⟨h₁, h₂, h₃⟩
              exact ⟨by omega, by omega, h₃⟩
            · rintro ⟨h₁, h₂, h₃⟩
              exact ⟨by omega, by omega, h₃⟩
        · rw [hst, hm, Bool.true_and, Bool.or_assoc]
      · rw [if_neg hm] at hbody
        cases hbody
        obtain ⟨hres, hst⟩ := ih (start + 1) b _ (fun i hlo hhi => h i (by omega) (by omega)) hrest
        refine ⟨fun i => ?_, ?_⟩
        · rw [hres i]
          refine if_congr ?_ rfl rfl
          constructor
          · rintro ⟨h₁, h₂, h₃⟩
            exact ⟨by omega, by omega, h₃⟩
          · rintro ⟨h₁, h₂, h₃⟩
            refine ⟨Nat.lt_of_le_of_ne h₁ ?_, by omega, h₃⟩
            rintro rfl
            exact hm h₃
        · rw [hst, Bool.eq_false_iff.mpr hm, Bool.false_and, Bool.false_or]

/-- **The loop over the active elements.** -/
theorem run_forActive_ok {α : Type} {n : ℕ} {mask : ℕ → Bool} {init : ℕ → α}
    {elem : ℕ → M (Option α)} {f : ℕ → α} {sat : ℕ → Bool} {s t : State} {res : ℕ → α}
    (h : ∀ i < n, mask i = true → Computes s (elem i) (f i) (sat i))
    (hrun : (forActive n mask init elem).run s = .ok (some res, t)) :
    (∀ i, res i = if i < n ∧ mask i = true then f i else init i)
      ∧ t = s.satIf ((List.range n).any fun i => mask i && sat i) := by
  obtain ⟨hres, hst⟩ := run_foreachActive_ok n 0 false init (fun i _ hi => h i (by omega)) hrun
  rw [Bool.false_or, ← List.range_eq_range'] at hst
  refine ⟨fun i => ?_, hst⟩
  rw [hres i]
  refine if_congr ?_ rfl rfl
  rw [Nat.zero_add]
  exact ⟨fun hi => hi.2, fun hi => ⟨Nat.zero_le _, hi⟩⟩

/-! ## Clauses that compute the active elements -/

/-- Some active element sets `vxsat`. -/
def anySat (n : ℕ) (active sat : ℕ → Bool) : Bool :=
  (List.range n).any fun i => active i && sat i

omit [Platform] in
theorem anySat_iff {n : ℕ} {active sat : ℕ → Bool} :
    anySat n active sat = true ↔ ∃ i < n, active i = true ∧ sat i = true := by
  unfold anySat
  simp

/-- What a clause that writes the group at `vd` leaves behind: the active elements are those of
`f`, and the others are as they were. -/
structure VecOutcome (SEW : ℕ) (lmul : ℤ) (vd : Regidx) (active : ℕ → Bool) (f : ℕ → BitVec SEW)
    (sat : Bool) (s s' : State) : Prop where
  elem : ∀ i < groupLen SEW lmul,
    s'.elem SEW vd i = if active i then f i else s.elem SEW vd i
  other : ∀ q, (∀ k < groupRegs lmul, q ≠ groupReg vd k) → s'.V q = s.V q
  vcsr : s'.vcsr = (s.satIf sat).vcsr
  vstart : s'.vstart = 0#16
  vl : s'.vl = s.vl
  vtype : s'.vtype = s.vtype
  x : s'.x = s.x

theorem vecRegs_satIf (s : State) (b : Bool) :
    (s.satIf b).vecRegs = { s.vecRegs with
      vcsr := (s.satIf b).vcsr } := by
  unfold State.satIf
  cases b <;> rfl

theorem x_satIf (s : State) (b : Bool) : (s.satIf b).x = s.x := by
  unfold State.satIf
  cases b <;> rfl

/-- Setting `vxsat` changes `vcsr` in the same way in states with the same registers. -/
theorem SameRegs.vcsr_satIf {s t : State} (h : SameRegs s t) (b : Bool) :
    (t.satIf b).vcsr = (s.satIf b).vcsr := by
  have hv : t.vcsr = s.vcsr := congrArg VecRegs.vcsr h.vec
  unfold State.satIf
  cases b with
  | false => exact hv
  | true => exact congrArg (fun c => Vcsr.vxsat.set c 1#1) hv

/-- The end of a clause that has computed the elements `res`. -/
theorem outcome_of_write {n SEW : ℕ} {lmul : ℤ} {vd : Regidx} {res f : ℕ → BitVec SEW}
    {active : ℕ → Bool} {b : Bool} {s t s' : State} (hg : IsGroup lmul vd) (hsame : SameRegs s t)
    (hres : ∀ i < groupLen SEW lmul, res i = if active i then f i else s.elem SEW vd i)
    (h : (do
      writeVreg n SEW lmul vd res
      endVector : M Retired).run (t.satIf b) = .ok (.RETIRE_SUCCESS, s')) :
    VecOutcome SEW lmul vd active f b s s' := by
  obtain ⟨_, s₁, hwrite, hend⟩ := Exec.run_bind_ok.mp h
  cases hend
  obtain ⟨helem, hother, hframe⟩ := run_writeVreg_ok hg hwrite
  have hvec := vecRegs_satIf t b
  have hV (q : Regidx) : (t.satIf b).V q = s.V q := by
    have hv : (t.satIf b).v = s.v :=
      (congrArg VecRegs.v hvec).trans (congrArg VecRegs.v hsame.vec)
    exact congrFun hv q.toFin
  refine ⟨fun i hi => ?_, fun q hq => ?_, ?_, rfl, ?_, ?_, ?_⟩
  · exact (helem i hi).trans (hres i hi)
  · exact (hother q hq).trans (hV q)
  · rw [← hsame.vcsr_satIf b, hframe]
  · rw [hframe]
    exact (congrArg VecRegs.vl hvec).trans (congrArg VecRegs.vl hsame.vec)
  · rw [hframe]
    exact (congrArg VecRegs.vtype hvec).trans (congrArg VecRegs.vtype hsame.vec)
  · rw [hframe]
    exact (x_satIf t b).trans hsame.x

/-- The elements that are active in a clause with the mask `vm`. -/
def State.active (s : State) (n : ℕ) (lmul : ℤ) (vm : ℕ → Bool) (i : ℕ) : Bool :=
  s.body n lmul i && vm i

/-- The active elements are among those of the configuration. -/
theorem lt_of_active {s : State} {n : ℕ} {lmul : ℤ} {vm : ℕ → Bool} {j : ℕ}
    (h : s.active n lmul vm j = true) : j < n := by
  unfold State.active State.body inBody at h
  rw [Bool.and_eq_true, decide_eq_true_iff] at h
  refine lt_of_lt_of_le h.1.2.2 ?_
  unfold realNumElem
  split
  · exact le_rfl
  · exact Nat.div_le_self _ _

/-- **Clauses that end with `write_vreg` of the elements that the loop has computed.** -/
theorem run_writeElems_ok {n SEW : ℕ} {lmul : ℤ} {vd : Regidx} {old f : ℕ → BitVec SEW}
    {vm sat : ℕ → Bool} {elem : ℕ → M (Option (BitVec SEW))} {s s' : State}
    (hg : IsGroup lmul vd) (hn : groupLen SEW lmul ≤ n)
    (hold : ∀ i < groupLen SEW lmul, old i = s.elem SEW vd i)
    (h : ∀ t, SameRegs s t → ∀ i < n, s.active n lmul vm i = true →
      Computes t (elem i) (f i) (sat i))
    (hrun : (writeElems n SEW lmul vd old vm elem).run s = .ok (.RETIRE_SUCCESS, s')) :
    VecOutcome SEW lmul vd (s.active n lmul vm) f (anySat n (s.active n lmul vm) sat) s s' := by
  unfold writeElems initMaskedResult at hrun
  obtain ⟨init, t, hinit, hrun⟩ := Exec.run_bind_ok.mp hrun
  obtain ⟨body, t', hbody, hinit⟩ := Exec.run_bind_ok.mp hinit
  cases hinit
  obtain ⟨rfl, hsame, -⟩ := run_bodyOf_ok hbody
  obtain ⟨res, t₁, hloop, hrun⟩ := Exec.run_bind_ok.mp hrun
  cases res with
  | none =>
      obtain ⟨_, _, -, hfail⟩ := Exec.run_bind_ok.mp hrun
      cases hfail
  | some res =>
      obtain ⟨hres, rfl⟩ := run_forActive_ok (h t hsame) hloop
      refine outcome_of_write hg hsame (fun i hi => ?_) hrun
      refine (hres i).trans ?_
      show (if i < n ∧ s.active n lmul vm i = true then f i else old i) = _
      rw [hold i hi]
      refine if_congr ?_ rfl rfl
      exact ⟨fun hi => hi.2, fun ha => ⟨by omega, ha⟩⟩

end SailRiscv
