/-
# Laws of the mask instructions

The instructions on masks count, search and number the elements that are set, each with a loop of
its own.  The loops are tied together by the number of set elements before an element: it is what
`viota.m` writes, and the place at which `vcompress.vm` puts the element (`mask_laws`).
-/
import SailRiscv.VextLateChecks
import SailRiscv.VextFrame

namespace SailRiscv

open Bits Platform

/-! ## The loops -/

section Loops

/-- The loop of `vcpop.m` and `viota.m` counts. -/
theorem countSet_eq (n : ℕ) (v : ℕ → Bool) : countSet n v = Nat.count (fun i => v i = true) n := by
  induction n with
  | zero => rfl
  | succ n ih =>
      show (if v n then countSet n v + 1 else countSet n v) = _
      rw [ih, Nat.count_succ]
      split <;> rfl

/-- The loop of `vmsbf.m`, `vmsif.m` and `vmsof.m` has found an element. -/
theorem foundElem_eq_true (mask v2 : ℕ → Bool) (n : ℕ) :
    foundElem mask v2 n = true ↔ ∃ j < n, mask j = true ∧ v2 j = true := by
  induction n with
  | zero => exact ⟨nofun, fun ⟨j, hj, _⟩ => absurd hj (Nat.not_lt_zero j)⟩
  | succ n ih =>
      show (foundElem mask v2 n || (mask n && v2 n)) = true ↔ _
      rw [Bool.or_eq_true, Bool.and_eq_true, ih]
      constructor
      · rintro (⟨j, hj, hset⟩ | hset)
        · exact ⟨j, by omega, hset⟩
        · exact ⟨n, by omega, hset⟩
      · rintro ⟨j, hj, hset⟩
        rcases Nat.lt_succ_iff_lt_or_eq.mp hj with hlt | rfl
        · exact Or.inl ⟨j, hlt, hset⟩
        · exact Or.inr hset

/-- The loop of `vfirst.m` has found no element, or the first one. -/
theorem firstSet_cases (n : ℕ) (v : ℕ → Bool) :
    (firstSet n v = -1 ∧ ∀ j < n, v j = false)
      ∨ ∃ i < n, firstSet n v = i ∧ v i = true ∧ ∀ j < i, v j = false := by
  induction n with
  | zero => exact Or.inl ⟨rfl, fun j hj => absurd hj (Nat.not_lt_zero j)⟩
  | succ n ih =>
      have hstep : firstSet (n + 1) v
          = if firstSet n v == -1 && v n then (n : ℤ) else firstSet n v := rfl
      rcases ih with ⟨hnone, hclear⟩ | ⟨i, hi, hfirst, hset, hclear⟩
      · rw [hnone] at hstep
        rcases hv : v n with _ | _
        · refine Or.inl ⟨by rw [hstep, hv]; rfl, fun j hj => ?_⟩
          rcases Nat.lt_succ_iff_lt_or_eq.mp hj with hlt | rfl
          · exact hclear j hlt
          · exact hv
        · exact Or.inr ⟨n, by omega, by rw [hstep, hv]; rfl, hv, hclear⟩
      · refine Or.inr ⟨i, by omega, ?_, hset, hclear⟩
        rw [hstep, hfirst, if_neg]
        rw [Bool.and_eq_true, beq_iff_eq]
        omega

/-- The loop of `vcompress.vm` puts every element that is set in its place. -/
theorem compress_spec {m : ℕ} (n : ℕ) (last : ℤ) (mask : ℕ → Bool) (v2 : ℕ → BitVec m) :
    (compress n last mask v2).2 = Nat.count (fun i => (i : ℤ) ≤ last ∧ mask i = true) n
      ∧ ∀ i < n, (i : ℤ) ≤ last ∧ mask i = true →
        (compress n last mask v2).1 (Nat.count (fun i => (i : ℤ) ≤ last ∧ mask i = true) i)
          = v2 i := by
  induction n with
  | zero => exact ⟨rfl, fun i hi => absurd hi (Nat.not_lt_zero i)⟩
  | succ n ih =>
      obtain ⟨hcount, hplace⟩ := ih
      have hstep : compress (n + 1) last mask v2
          = if decide ((n : ℤ) ≤ last) && mask n
            then (Function.update (compress n last mask v2).1 (compress n last mask v2).2 (v2 n),
              (compress n last mask v2).2 + 1)
            else compress n last mask v2 := rfl
      have hcond : (decide ((n : ℤ) ≤ last) && mask n) = true ↔ (n : ℤ) ≤ last ∧ mask n = true := by
        rw [Bool.and_eq_true, decide_eq_true_iff]
      rw [Nat.count_succ]
      by_cases hset : (n : ℤ) ≤ last ∧ mask n = true
      · rw [if_pos (hcond.mpr hset)] at hstep
        rw [hstep, if_pos hset, hcount]
        refine ⟨rfl, fun i hi hP => ?_⟩
        rcases Nat.lt_succ_iff_lt_or_eq.mp hi with hlt | rfl
        · have hne := (Nat.count_strict_mono (p := fun i : ℕ => (i : ℤ) ≤ last ∧ mask i = true)
            hP hlt).ne
          exact (Function.update_of_ne hne _ _).trans (hplace i hlt hP)
        · exact Function.update_self _ _ _
      · rw [if_neg (fun h => hset (hcond.mp h))] at hstep
        rw [hstep, if_neg hset, hcount]
        refine ⟨rfl, fun i hi hP => ?_⟩
        rcases Nat.lt_succ_iff_lt_or_eq.mp hi with hlt | rfl
        · exact hplace i hlt hP
        · exact absurd hP hset

end Loops

/-! ## The runs complete -/

section Runs

variable [Platform] {s : State} {c : VConf}

/-- A state in which vector instructions without a mask are legal: the configuration `c` is in
force, and no element before the first has been passed over. -/
structure VectorReady (s : State) (c : VConf) : Prop where
  conf : ConfOf s c
  sew_le : c.sewPow ≤ elenPow
  valid : validVtype s = true
  start : s.vstart = 0#16
  vl : VlFits s c
  vext : sysEnableVext = true

theorem VLEN_pos : 0 < VLEN := Nat.two_pow_pos _

/-- A mask can be read. -/
theorem run_readVmask_total {n : ℕ} (hn : n ≤ vlenmax) (vm : BitVec 1) (r : Regidx) :
    (readVmask n vm r).run s = .ok (fun i => vm == 1#1 || (s.V r).getLsbD i, s) := by
  unfold readVmask
  rw [Exec.run_bind_of_ok (run_assert_of (decide_eq_true hn)), Exec.run_bind_of_ok rfl]
  rfl

/-- A register can be written while the vector unit is there. -/
theorem run_wV_total (hv : sysEnableVext = true) (r : Regidx) (v : Vregtype) :
    (wV r v).run s = .ok ((), (s.setV r v).dirtyV) := by
  have hdirty : (dirtyVContext).run (s.setV r v) = .ok ((), (s.setV r v).dirtyV) := by
    unfold dirtyVContext
    rw [Exec.run_bind_of_ok (run_assert_of hv)]
    rfl
  have hset : (Exec.update (fun s => { s with v := Function.update s.v r.toFin v }) : M Unit).run s
      = .ok ((), s.setV r v) := rfl
  unfold wV
  rw [Exec.run_bind_of_ok hset, Exec.run_bind_of_ok hdirty]
  exact run_assert_of (decide_eq_true ⟨VLEN_pos, VLEN_le⟩)

/-- A mask can be written. -/
theorem run_writeVmask_total (hv : sysEnableVext = true) (r : Regidx) (v : ℕ → Bool) :
    ∃ s', (writeVmask VLEN r v).run s = .ok ((), s') := by
  unfold writeVmask
  rw [Exec.run_bind_of_ok (run_assert_of (decide_eq_true ⟨VLEN_pos, VLEN_le⟩)),
    Exec.run_bind_of_ok (run_assert_of (decide_eq_true ⟨VLEN_pos, le_rfl⟩)),
    Exec.run_bind_of_ok rfl]
  exact ⟨_, run_wV_total hv _ _⟩

/-- A loop of which all parts complete. -/
theorem run_foreach_completes {α : Type} {body : ℕ → α → M α} (n start : ℕ) (acc : α) (s : State)
    (h : ∀ i < start + n, ∀ a s, ∃ b s', (body i a).run s = .ok (b, s')) :
    ∃ b s', (Exec.foreach start n acc body).run s = .ok (b, s') := by
  induction n generalizing start acc s with
  | zero =>
      rw [Exec.foreach]
      exact ⟨acc, s, rfl⟩
  | succ n ih =>
      rw [Exec.foreach]
      obtain ⟨b, s₁, hb⟩ := h start (by omega) acc s
      rw [Exec.run_bind_of_ok hb]
      exact ih (start + 1) b s₁ fun i hi => h i (by omega)

/-- A group can be written. -/
theorem run_writeVreg_total (hv : sysEnableVext = true) {n SEW : ℕ} {lmul : ℤ} (r : Regidx)
    (hsew : 8 ≤ SEW ∧ SEW ≤ 64) (hn : groupLen SEW lmul ≤ n) (vec : ℕ → BitVec SEW) :
    ∃ s', (writeVreg n SEW lmul r vec).run s = .ok ((), s') := by
  have hin : ∀ k < groupRegs lmul, ∀ j < VLEN / SEW, k * (VLEN / SEW) + j < n := by
    intro k hk j hj
    calc k * (VLEN / SEW) + j < (k + 1) * (VLEN / SEW) := by
          rw [Nat.succ_mul]
          omega
      _ ≤ groupRegs lmul * (VLEN / SEW) := Nat.mul_le_mul_right _ hk
      _ ≤ n := hn
  have hbody : ∀ k < 0 + groupRegs lmul, ∀ (_ : Unit) (s : State), ∃ b s', (do
      assertInGroup n (VLEN / SEW) k
      writeSingleVreg (VLEN / SEW) SEW (groupReg r k) fun i =>
        vec (k * (VLEN / SEW) + i)).run s = .ok (b, s') := by
    intro k hk _ s
    have hassert : (assertInGroup n (VLEN / SEW) k).run s = .ok ((), s) :=
      run_assert_of (decide_eq_true (hin k (by omega)))
    rw [Exec.run_bind_of_ok hassert]
    unfold writeSingleVreg
    rw [Exec.run_bind_of_ok (run_assert_of (decide_eq_true hsew))]
    exact ⟨_, _, run_wV_total hv _ _⟩
  obtain ⟨_, s', h⟩ := run_foreach_completes (groupRegs lmul) 0 () s hbody
  exact ⟨s', h⟩

/-- A group can be read. -/
theorem ConfOf.run_group_total (hc : ConfOf s c) {r : Regidx} (hg : IsGroup c.lmul r) :
    (c.group r).run s = .ok (c.read s r, s) := by
  obtain ⟨hlo, hhi⟩ := hc.sew_bounds
  have hsew : 8 ≤ c.sew ∧ c.sew ≤ 64 :=
    ⟨Nat.pow_le_pow_right Nat.two_pos hlo, Nat.pow_le_pow_right Nat.two_pos hhi⟩
  obtain ⟨v, hv⟩ := (run_readVreg_iff hsew hc.groupLen_le).mpr hg
  have hrun : (c.group r).run s = .ok (v, s) := hv
  rw [hrun, (run_group_ok hrun).2]

/-- The element of the body that is set. -/
def State.maskSet (s : State) (m : Regidx) (i : ℕ) : Bool :=
  decide (i < s.vl.toNat) && (s.V m).getLsbD i

/-- The body fits in a mask. -/
theorem VectorReady.lt_VLEN (h : VectorReady s c) {i : ℕ} (hi : i < s.vl.toNat) : i < VLEN := by
  have hreal := h.conf.lt_real h.vl hi
  refine lt_of_lt_of_le (lt_of_lt_of_le hreal ?_) h.conf.n_le_VLEN
  unfold realNumElem
  split
  · exact le_rfl
  · exact Nat.div_le_self _ _

/-- The active elements of a mask, without a mask. -/
theorem VectorReady.active_mask (h : VectorReady s c) :
    s.active VLEN 0 (fun i => 1#1 == 1#1 || (s.V 0b00000#5).getLsbD i)
      = fun i => decide (i < s.vl.toNat) := by
  funext i
  rw [Bool.eq_iff_iff, decide_eq_true_iff, active_iff fun hi => h.lt_VLEN hi]
  unfold InBody
  rw [h.start]
  exact ⟨fun hin => hin.2.1, fun hi => ⟨Nat.zero_le i, hi, rfl⟩⟩

/-- The active elements of a group, without a mask. -/
theorem VectorReady.active_group (h : VectorReady s c) :
    s.active c.n c.lmul (fun i => 1#1 == 1#1 || (s.V 0b00000#5).getLsbD i)
      = fun i => decide (i < s.vl.toNat) := by
  funext i
  rw [Bool.eq_iff_iff, decide_eq_true_iff, active_iff fun hi => h.conf.lt_real h.vl hi]
  unfold InBody
  rw [h.start]
  exact ⟨fun hin => hin.2.1, fun hi => ⟨Nat.zero_le i, hi, rfl⟩⟩

theorem VectorReady.run_getSew (h : VectorReady s c) : getSew.run s = .ok (c.sew, s) := by
  unfold getSew
  rw [Exec.run_bind_of_ok (run_getSewPow_ok.mpr ⟨h.conf.sew, rfl⟩)]
  rfl

theorem VectorReady.run_getLmulPow (h : VectorReady s c) :
    getLmulPow.run s = .ok (c.lmul, s) := run_getLmulPow_ok.mpr ⟨h.conf.lmul, rfl⟩

/-- What is computed from a mask. -/
theorem VectorReady.run_maskToX (h : VectorReady s c) (m rd : Regidx)
    (result : (ℕ → Bool) → Xlenbits) :
    (maskToX 1#1 m rd result).run s
      = .ok (.RETIRE_SUCCESS, { s.setX rd (result (s.maskSet m)) with vstart := 0#16 }) := by
  have hcheck : (illegalVdUnmasked s || !assertVstart s 0) = false := by
    unfold illegalVdUnmasked assertVstart
    rw [h.valid, h.start]
    rfl
  have hset : (fun i => s.active VLEN 0 (fun i => 1#1 == 1#1 || (s.V 0b00000#5).getLsbD i) i
      && (0#1 == 1#1 || (s.V m).getLsbD i)) = s.maskSet m := by
    rw [h.active_mask]
    rfl
  have hinit := h.conf.run_initMasked_zero h.start VLEN 0 (fun i => 0#1 == 1#1 || (s.V m).getLsbD i)
    (fun i => 1#1 == 1#1 || (s.V 0b00000#5).getLsbD i)
  unfold maskToX
  rw [Exec.run_bind_of_ok h.run_getSew, Exec.run_bind_of_ok h.run_getLmulPow,
    run_orIllegal_of_false hcheck, Exec.run_bind_of_ok (run_readVmask_total VLEN_le _ _),
    Exec.run_bind_of_ok (run_readVmask_total VLEN_le _ _)]
  unfold initMaskedResultCmp
  rw [Exec.run_bind_of_ok hinit]
  simp only [hset]
  rfl

/-- A check of the clauses without a mask passes. -/
theorem VectorReady.legal_unmasked (h : VectorReady s c) {vd m : Regidx} (hne : vd ≠ m) :
    (illegalNormal s vd 1#1 || !assertVstart s 0 || vd == m) = false := by
  have hbeq : (vd == m) = false := beq_eq_false_iff_ne.mpr hne
  unfold illegalNormal assertVstart
  rw [h.valid, h.start, hbeq]
  rfl

/-- What is left in a mask register by the computation of a mask. -/
theorem VectorReady.run_maskToMask (h : VectorReady s c) {m vd : Regidx} (hne : vd ≠ m)
    (result : (mask v2 : ℕ → Bool) → ℕ → Bool) :
    ∃ s', (maskToMask 1#1 m vd result).run s = .ok (.RETIRE_SUCCESS, s')
      ∧ ∀ i < s.vl.toNat, (s'.V vd).getLsbD i
        = result (fun j => decide (j < s.vl.toNat)) (fun j => (s.V m).getLsbD j) i := by
  have hinit := h.conf.run_initMasked_zero h.start VLEN 0
    (fun i => 0#1 == 1#1 || (s.V vd).getLsbD i) (fun i => 1#1 == 1#1 || (s.V 0b00000#5).getLsbD i)
  rw [h.active_mask] at hinit
  obtain ⟨s', hwrite⟩ := run_writeVmask_total (s := s) h.vext vd (fun i =>
    if decide (i < s.vl.toNat) then
      result (fun j => decide (j < s.vl.toNat)) (fun j => 0#1 == 1#1 || (s.V m).getLsbD j) i
    else 0#1 == 1#1 || (s.V vd).getLsbD i)
  obtain ⟨hbits, -, -⟩ := run_writeVmask_ok hwrite
  refine ⟨{ s' with vstart := 0#16 }, ?_, fun i hi => ?_⟩
  · unfold maskToMask
    rw [Exec.run_bind_of_ok h.run_getSew, Exec.run_bind_of_ok h.run_getLmulPow,
      run_orIllegal_of_false (h.legal_unmasked hne),
      Exec.run_bind_of_ok (run_readVmask_total VLEN_le _ _),
      Exec.run_bind_of_ok (run_readVmask_total VLEN_le _ _),
      Exec.run_bind_of_ok (run_readVmask_total VLEN_le _ _)]
    unfold initMaskedResultCmp
    rw [Exec.run_bind_of_ok hinit]
    simp only
    rw [Exec.run_bind_of_ok hwrite]
    rfl
  · have hlt := h.lt_VLEN hi
    have hbit := hbits i hlt
    rw [if_pos hlt, decide_eq_true hi, if_pos rfl] at hbit
    exact hbit

/-- The elements of a legal configuration fit in a register. -/
theorem VectorReady.groupLen_eq (h : VectorReady s c) (hvlen : elenPow ≤ vlenPow) :
    groupLen c.sew c.lmul = c.n := by
  have hdvd : c.sew ∣ VLEN := Nat.pow_dvd_pow 2 (le_trans h.sew_le hvlen)
  exact (SailRiscv.groupLen_eq c.lmul hdvd).trans h.conf.n.symm

/-- The body fits in a group. -/
theorem VectorReady.lt_groupLen (h : VectorReady s c) (hvlen : elenPow ≤ vlenPow) {i : ℕ}
    (hi : i < s.vl.toNat) : i < groupLen c.sew c.lmul := by
  have hreal := h.conf.lt_real h.vl hi
  rw [h.groupLen_eq hvlen]
  refine lt_of_lt_of_le hreal ?_
  unfold realNumElem
  split
  · exact le_rfl
  · exact Nat.div_le_self _ _

theorem VectorReady.sew_bounds (h : VectorReady s c) : 8 ≤ c.sew ∧ c.sew ≤ 64 := by
  obtain ⟨hlo, hhi⟩ := h.conf.sew_bounds
  exact ⟨Nat.pow_le_pow_right Nat.two_pos hlo, Nat.pow_le_pow_right Nat.two_pos hhi⟩

/-- What `viota.m` leaves in its group. -/
theorem VectorReady.run_viota (h : VectorReady s c) (hvlen : elenPow ≤ vlenPow) {m vd : Regidx}
    (hne : vd ≠ m) (hvd : IsGroup c.lmul vd) :
    ∃ s', (executeVIOTA_M 1#1 m vd).run s = .ok (.RETIRE_SUCCESS, s')
      ∧ ∀ i < s.vl.toNat, s'.elem c.sew vd i = toBits c.sew (countSet i (s.maskSet m)) := by
  have hinit := h.conf.run_initMasked_zero h.start c.n c.lmul (c.read s vd)
    (fun i => 1#1 == 1#1 || (s.V 0b00000#5).getLsbD i)
  rw [h.active_group] at hinit
  obtain ⟨s', hwrite⟩ := run_writeVreg_total (s := s) h.vext vd h.sew_bounds h.conf.groupLen_le
    (fun i => if decide (i < s.vl.toNat) then toBits c.sew (countSet i fun j =>
      decide (j < s.vl.toNat) && (0#1 == 1#1 || (s.V m).getLsbD j)) else c.read s vd i)
  refine ⟨{ s' with vstart := 0#16 }, ?_, fun i hi => ?_⟩
  · unfold executeVIOTA_M
    rw [Exec.run_bind_of_ok (run_vconf_ok.mpr ⟨h.conf, rfl⟩),
      run_orIllegal_of_false (h.legal_unmasked hne),
      Exec.run_bind_of_ok (run_readVmask_total h.conf.n_le _ _),
      Exec.run_bind_of_ok (run_readVmask_total h.conf.n_le _ _),
      Exec.run_bind_of_ok (h.conf.run_group_total hvd), Exec.run_bind_of_ok hinit]
    simp only
    rw [Exec.run_bind_of_ok hwrite]
    rfl
  · have helem := (run_writeVreg_ok hvd hwrite).elem i (h.lt_groupLen hvlen hi)
    rw [decide_eq_true hi, if_pos rfl] at helem
    exact helem

/-- What `vcompress.vm` leaves in its group. -/
theorem VectorReady.run_compress (h : VectorReady s c) {m vs2 vd : Regidx} (hm : m ≠ vd)
    (hne : vs2 ≠ vd) (hvs2 : IsGroup c.lmul vs2) (hvd : IsGroup c.lmul vd) :
    ∃ s', (executeMVVCOMPRESS vs2 m vd).run s = .ok (.RETIRE_SUCCESS, s')
      ∧ ∀ i < groupLen c.sew c.lmul, s'.elem c.sew vd i
        = if i < (compress c.n (s.vl.toNat - 1) (fun j => (s.V m).getLsbD j) (c.read s vs2)).2
          then (compress c.n (s.vl.toNat - 1) (fun j => (s.V m).getLsbD j) (c.read s vs2)).1 i
          else c.read s vd i := by
  have hstart : getStartElement.run s = .ok (0, s) := by
    rw [run_getStartElement_zero h.start,
      Exec.run_bind_of_ok (run_getSewPow_ok.mpr ⟨h.conf.sew, rfl⟩)]
    rfl
  have hlast : getEndElement.run s = .ok ((s.vl.toNat - 1 : ℤ), s) := rfl
  have hcheck : ((0 : ℕ) != 0 || m == vd || vs2 == vd || illegalVdUnmasked s) = false := by
    unfold illegalVdUnmasked
    rw [h.valid, beq_eq_false_iff_ne.mpr hm, beq_eq_false_iff_ne.mpr hne]
    rfl
  obtain ⟨s', hwrite⟩ := run_writeVreg_total (s := s) h.vext vd h.sew_bounds h.conf.groupLen_le
    (fun i => if i < (compress c.n (s.vl.toNat - 1) (fun j => 0#1 == 1#1 || (s.V m).getLsbD j)
        (c.read s vs2)).2
      then (compress c.n (s.vl.toNat - 1) (fun j => 0#1 == 1#1 || (s.V m).getLsbD j)
        (c.read s vs2)).1 i
      else c.read s vd i)
  refine ⟨{ s' with vstart := 0#16 }, ?_, fun i hi => ?_⟩
  · unfold executeMVVCOMPRESS
    rw [Exec.run_bind_of_ok hstart, Exec.run_bind_of_ok hlast,
      Exec.run_bind_of_ok (run_vconf_ok.mpr ⟨h.conf, rfl⟩), run_orIllegal_of_false hcheck,
      Exec.run_bind_of_ok (run_readVmask_total h.conf.n_le _ _),
      Exec.run_bind_of_ok (h.conf.run_group_total hvs2),
      Exec.run_bind_of_ok (h.conf.run_group_total hvd), Exec.run_bind_of_ok hwrite]
    rfl
  · exact (run_writeVreg_ok hvd hwrite).elem i hi

end Runs

/-! ## The laws -/

section Laws

variable [Platform] {s : State} {c : VConf} {m : Regidx}

/-- The number of elements of the body that are set. -/
def State.maskCount (s : State) (m : Regidx) : ℕ :=
  Nat.count (fun i => (s.V m).getLsbD i = true) s.vl.toNat

/-- `k` is the first element of the body that is set, or -1 where none is. -/
def State.IsFirstSet (s : State) (m : Regidx) (k : ℤ) : Prop :=
  (k = -1 ∧ ∀ j < s.vl.toNat, (s.V m).getLsbD j = false)
    ∨ ∃ i < s.vl.toNat, k = i ∧ (s.V m).getLsbD i = true ∧ ∀ j < i, (s.V m).getLsbD j = false

/-- `vcpop.m` is the number of elements that are set. -/
def CountLaw (s : State) (m : Regidx) : Prop :=
  ∀ rd, rd ≠ 0#5 → ∃ s', (executeVCPOP_M 1#1 m rd).run s = .ok (.RETIRE_SUCCESS, s')
    ∧ (s'.X rd).toNat = s.maskCount m

/-- `vfirst.m` is the first element that is set, or -1. -/
def FirstLaw (s : State) (m : Regidx) : Prop :=
  ∀ rd, rd ≠ 0#5 → ∃ s', (executeVFIRST_M 1#1 m rd).run s = .ok (.RETIRE_SUCCESS, s')
    ∧ s.IsFirstSet m (s'.X rd).toInt

/-- `vmsof.m` sets the first element that is set and no other, `vmsbf.m` those before it, and
`vmsif.m` both. -/
def SearchLaw (s : State) (m : Regidx) : Prop :=
  ∀ vb vi vo, vb ≠ m → vi ≠ m → vo ≠ m → ∃ sb si so,
    (executeVMSBF_M 1#1 m vb).run s = .ok (.RETIRE_SUCCESS, sb)
      ∧ (executeVMSIF_M 1#1 m vi).run s = .ok (.RETIRE_SUCCESS, si)
      ∧ (executeVMSOF_M 1#1 m vo).run s = .ok (.RETIRE_SUCCESS, so)
      ∧ ∀ i < s.vl.toNat, ((so.V vo).getLsbD i = true ↔ s.IsFirstSet m i)
        ∧ (si.V vi).getLsbD i = ((sb.V vb).getLsbD i || (so.V vo).getLsbD i)
        ∧ ((sb.V vb).getLsbD i = true ↔ ∀ j ≤ i, (s.V m).getLsbD j = false)

/-- `viota.m` gives the place of every element that is set in the result of `vcompress.vm`, which
leaves the elements after its result alone. -/
def CompressLaw (s : State) (c : VConf) (m : Regidx) : Prop :=
  ∀ vs2 vi vc, IsGroup c.lmul vs2 → IsGroup c.lmul vi → IsGroup c.lmul vc →
    vi ≠ m → m ≠ vc → vs2 ≠ vc → ∃ si sc,
      (executeVIOTA_M 1#1 m vi).run s = .ok (.RETIRE_SUCCESS, si)
        ∧ (executeMVVCOMPRESS vs2 m vc).run s = .ok (.RETIRE_SUCCESS, sc)
        ∧ (s.maskCount m ≤ 2 ^ c.sew → ∀ i < s.vl.toNat, (s.V m).getLsbD i = true →
          sc.elem c.sew vc (si.elem c.sew vi i).toNat = s.elem c.sew vs2 i)
        ∧ ∀ k, s.maskCount m ≤ k → k < groupLen c.sew c.lmul →
          sc.elem c.sew vc k = s.elem c.sew vc k

omit [Platform] in
/-- Counting below a bound. -/
theorem count_lt_and (p : ℕ → Prop) [DecidablePred p] (k n : ℕ) :
    Nat.count (fun i => i < k ∧ p i) n = Nat.count p (min n k) := by
  induction n with
  | zero => rw [Nat.zero_min, Nat.count_zero, Nat.count_zero]
  | succ n ih =>
      rw [Nat.count_succ, ih]
      rcases Nat.lt_or_ge n k with hlt | hge
      · have hmin : min (n + 1) k = n + 1 := by omega
        have hmin' : min n k = n := by omega
        rw [hmin, hmin', Nat.count_succ]
        simp [hlt]
      · have hmin : min (n + 1) k = min n k := by omega
        have hnot : ¬ (n < k ∧ p n) := by omega
        rw [hmin, if_neg hnot, Nat.add_zero]

/-- The number of elements that are set, before an element. -/
theorem countSet_maskSet (n : ℕ) : countSet n (s.maskSet m)
    = Nat.count (fun i => (s.V m).getLsbD i = true) (min n s.vl.toNat) := by
  rw [countSet_eq, ← count_lt_and]
  congr 1
  funext i
  unfold State.maskSet
  rw [Bool.and_eq_true, decide_eq_true_iff]

/-- The body is no longer than a register has bits. -/
theorem VectorReady.vl_le (h : VectorReady s c) : s.vl.toNat ≤ VLEN := by
  rcases Nat.eq_zero_or_pos s.vl.toNat with hzero | hpos
  · omega
  · have hlt := h.lt_VLEN (show s.vl.toNat - 1 < s.vl.toNat by omega)
    omega

/-- The positions of a mask fit in a register, as signed numbers. -/
theorem VLEN_lt : VLEN < 2 ^ (xlen - 1) := by
  have hx := xlen_ge
  calc VLEN ≤ vlenmax := VLEN_le
    _ < 2 ^ 31 := by decide
    _ ≤ 2 ^ (xlen - 1) := Nat.pow_le_pow_right Nat.two_pos (by omega)

theorem maskCount_le (s : State) (m : Regidx) : s.maskCount m ≤ s.vl.toNat := Nat.count_le _

theorem VectorReady.countLaw (h : VectorReady s c) (m : Regidx) : CountLaw s m := by
  intro rd hrd
  refine ⟨_, h.run_maskToX m rd _, ?_⟩
  show ((s.setX rd (toBits xlen (countSet VLEN (s.maskSet m)))).X rd).toNat = _
  have hle := h.vl_le
  have hcount := maskCount_le s m
  rw [State.X_setX, if_pos ⟨rfl, hrd⟩, countSet_maskSet, Nat.min_eq_right hle]
  unfold toBits
  rw [BitVec.ofInt_natCast, BitVec.toNat_ofNat]
  refine Nat.mod_eq_of_lt ?_
  calc s.maskCount m ≤ VLEN := le_trans hcount hle
    _ < 2 ^ (xlen - 1) := VLEN_lt
    _ ≤ 2 ^ xlen := Nat.pow_le_pow_right Nat.two_pos (Nat.sub_le _ _)

theorem VectorReady.firstLaw (h : VectorReady s c) (m : Regidx) : FirstLaw s m := by
  intro rd hrd
  refine ⟨_, h.run_maskToX m rd _, ?_⟩
  show s.IsFirstSet m ((s.setX rd (toBits xlen (firstSet VLEN (s.maskSet m)))).X rd).toInt
  have hx := xlen_ge
  have hvlen : (VLEN : ℤ) < 2 ^ (xlen - 1) := by exact_mod_cast VLEN_lt
  rw [State.X_setX, if_pos ⟨rfl, hrd⟩]
  unfold toBits
  rcases firstSet_cases VLEN (s.maskSet m) with ⟨hnone, hclear⟩ | ⟨i, hi, hfirst, hset, hclear⟩
  · rw [hnone, BitVec.toInt_ofInt_eq_self (by omega) (by omega) (by omega)]
    refine Or.inl ⟨rfl, fun j hj => ?_⟩
    have hj' := hclear j (h.lt_VLEN hj)
    unfold State.maskSet at hj'
    rwa [decide_eq_true hj, Bool.true_and] at hj'
  · rw [hfirst, BitVec.toInt_ofInt_eq_self (by omega) (by omega) (by omega)]
    unfold State.maskSet at hset
    rw [Bool.and_eq_true, decide_eq_true_iff] at hset
    refine Or.inr ⟨i, hset.1, rfl, hset.2, fun j hj => ?_⟩
    have hj' := hclear j hj
    unfold State.maskSet at hj'
    rwa [decide_eq_true (lt_trans hj hset.1), Bool.true_and] at hj'

/-- None of the elements before an element of the body is set. -/
theorem foundElem_eq_false {n : ℕ} (hn : n ≤ s.vl.toNat) :
    (!foundElem (fun j => decide (j < s.vl.toNat)) (fun j => (s.V m).getLsbD j) n) = true
      ↔ ∀ j < n, (s.V m).getLsbD j = false := by
  rw [Bool.not_eq_true', ← Bool.not_eq_true, foundElem_eq_true]
  constructor
  · intro hnone j hj
    rw [← Bool.not_eq_true]
    exact fun hset => hnone ⟨j, hj, decide_eq_true (by omega), hset⟩
  · rintro hclear ⟨j, hj, -, hset⟩
    rw [hclear j hj] at hset
    cases hset

/-- The element of the body that `vfirst.m` finds. -/
theorem isFirstSet_iff {i : ℕ} (hi : i < s.vl.toNat) : s.IsFirstSet m i
    ↔ (s.V m).getLsbD i = true ∧ ∀ j < i, (s.V m).getLsbD j = false := by
  unfold State.IsFirstSet
  constructor
  · rintro (⟨hneg, -⟩ | ⟨k, -, hk, hset⟩)
    · omega
    · obtain rfl : i = k := by omega
      exact hset
  · exact fun hset => Or.inr ⟨i, hi, rfl, hset⟩

theorem VectorReady.searchLaw (h : VectorReady s c) (m : Regidx) : SearchLaw s m := by
  intro vb vi vo hb hi ho
  obtain ⟨sb, hsb, hbits⟩ := h.run_maskToMask hb fun mask v2 i => !foundElem mask v2 (i + 1)
  obtain ⟨si, hsi, hibits⟩ := h.run_maskToMask hi fun mask v2 i => !foundElem mask v2 i
  obtain ⟨so, hso, hobits⟩ := h.run_maskToMask ho fun mask v2 i => v2 i && !foundElem mask v2 i
  refine ⟨sb, si, so, hsb, hsi, hso, fun i hlt => ?_⟩
  have hbefore := foundElem_eq_false (s := s) (m := m) (n := i) (by omega)
  have hupto := foundElem_eq_false (s := s) (m := m) (n := i + 1) (by omega)
  refine ⟨?_, ?_, ?_⟩
  · rw [hobits i hlt, Bool.and_eq_true, hbefore, isFirstSet_iff hlt]
  · rw [hibits i hlt, hbits i hlt, hobits i hlt, Bool.eq_iff_iff, Bool.or_eq_true,
      Bool.and_eq_true, hbefore, hupto]
    constructor
    · intro hclear
      rcases hset : (s.V m).getLsbD i with _ | _
      · refine Or.inl fun j hj => ?_
        rcases Nat.lt_succ_iff_lt_or_eq.mp hj with hj' | rfl
        · exact hclear j hj'
        · exact hset
      · exact Or.inr ⟨hset, hclear⟩
    · rintro (hclear | ⟨-, hclear⟩)
      · exact fun j hj => hclear j (by omega)
      · exact hclear
  · rw [hbits i hlt, hupto]
    exact forall_congr' fun j => imp_congr Nat.lt_succ_iff Iff.rfl

/-- The elements that `vcompress.vm` packs before an element. -/
theorem count_last (n : ℕ) : Nat.count (fun i : ℕ => (i : ℤ) ≤ s.vl.toNat - 1
      ∧ (s.V m).getLsbD i = true) n
    = Nat.count (fun i => (s.V m).getLsbD i = true) (min n s.vl.toNat) := by
  rw [← count_lt_and]
  congr 1
  funext i
  refine propext (and_congr_left' ?_)
  omega

theorem VectorReady.compressLaw (h : VectorReady s c) (hvlen : elenPow ≤ vlenPow) (m : Regidx) :
    CompressLaw s c m := by
  intro vs2 vi vc hvs2 hvi hvc hi hm hne
  obtain ⟨si, hsi, hielem⟩ := h.run_viota hvlen hi hvi
  obtain ⟨sc, hsc, hcelem⟩ := h.run_compress hm hne hvs2 hvc
  obtain ⟨hcount, hplace⟩ := compress_spec c.n (s.vl.toNat - 1) (fun j => (s.V m).getLsbD j)
    (c.read s vs2)
  have hlen := h.groupLen_eq hvlen
  have hbody : s.vl.toNat ≤ c.n := by
    by_contra hlt
    have hreal := h.lt_groupLen hvlen (show s.vl.toNat - 1 < s.vl.toNat by omega)
    omega
  rw [count_last, Nat.min_eq_right hbody] at hcount
  refine ⟨si, sc, hsi, hsc, fun hfits i hlt hset => ?_, fun k hge hk => ?_⟩
  · have hpos : Nat.count (fun i => (s.V m).getLsbD i = true) i < s.maskCount m :=
      Nat.count_strict_mono (p := fun i => (s.V m).getLsbD i = true) hset hlt
    have hiota : (si.elem c.sew vi i).toNat
        = Nat.count (fun i => (s.V m).getLsbD i = true) i := by
      rw [hielem i hlt, countSet_maskSet, Nat.min_eq_left hlt.le]
      unfold toBits
      rw [BitVec.ofInt_natCast, BitVec.toNat_ofNat]
      exact Nat.mod_eq_of_lt (lt_of_lt_of_le hpos hfits)
    have hvl := maskCount_le s m
    have hput := hplace i (by omega) ⟨by omega, hset⟩
    rw [count_last, Nat.min_eq_left hlt.le] at hput
    rw [hiota, hcelem _ (by omega), hcount]
    have hcond : Nat.count (fun i => (s.V m).getLsbD i = true) i
        < Nat.count (fun i => (s.V m).getLsbD i = true) s.vl.toNat := hpos
    rw [if_pos hcond, hput]
    exact h.conf.read_eq_elem vs2 (h.lt_groupLen hvlen hlt)
  · have hcond : ¬ k < Nat.count (fun i => (s.V m).getLsbD i = true) s.vl.toNat :=
      Nat.not_lt.mpr hge
    rw [hcelem k hk, hcount, if_neg hcond]
    exact h.conf.read_eq_elem vc hk

/-- **The laws of the mask instructions**: counting, searching, and the places that `viota.m` and
`vcompress.vm` give to the elements that are set. -/
theorem mask_laws (hvlen : elenPow ≤ vlenPow) (h : VectorReady s c) (m : Regidx) :
    CountLaw s m ∧ FirstLaw s m ∧ SearchLaw s m ∧ CompressLaw s c m :=
  ⟨h.countLaw m, h.firstLaw m, h.searchLaw m, h.compressLaw hvlen m⟩

/-- Five elements of a byte in groups of two registers; three of the mask `v1` are set. -/
def fiveElements : State :=
  { State.zero (fun _ => 0#8) with
    v := fun r => if r = 1 then 0b10110#_ else 0#_
    vtype := 0b000001#_
    vl := 5#_ }

omit [Platform] in
/-- The mask instructions obey their laws in this state. -/
theorem mask_laws_fiveElements :
    letI := rv64Pmp 16 (by decide)
    CountLaw fiveElements 1#5 ∧ FirstLaw fiveElements 1#5 ∧ SearchLaw fiveElements 1#5
      ∧ CompressLaw fiveElements ⟨3, 1, 128⟩ 1#5 := by
  let := rv64Pmp 16 (by decide)
  have hvl : fiveElements.vl.toNat = 5 := by decide
  have hvlen : VLEN = 512 := by decide
  have hfits : VlFits fiveElements ⟨3, 1, 128⟩ := by
    unfold VlFits VLMAX
    rw [hvl, hvlen]
    norm_num
  exact mask_laws (by decide)
    ⟨⟨by decide, by decide, by decide, by decide⟩, by decide, by decide, by decide, hfits,
      by decide⟩ 1#5

end Laws

end SailRiscv
