/-
# The reference rule of the PMP

What `pmpCheck` is for, stated over unbounded integers: each entry protects a region of
the address space, and the lowest-numbered entry whose region meets an access decides it.
`pmpCheck` computes the bounds of the regions modulo `2 ^ xlen`, so that the region of a
NAPOT entry that spans the whole address space comes out empty.  With such entries left
out the check is exactly the rule.

* `pmpRegion s i` : the bytes that entry `i` protects;
* `pmpRule` : the verdict of the lowest-numbered entry that meets the access;
* `WholeSpace s i` : the entries that the check overlooks;
* `pmpCheck_eq` : the check is the rule over the entries it does not overlook.
-/
import SailRiscv.PmpLock

namespace SailRiscv

open Bits Platform

variable [Platform]

/-! ## Regions and the rule -/

/-- The region of an entry with the match type `m`, from the values read from its own
address register and from its predecessor's. -/
noncomputable def pmpRegionOf (m : PmpAddrMatchType) (addr prev : ℕ) : Set ℕ :=
  match m with
  | .OFF => ∅
  | .TOR => Set.Ico (4 * prev) (4 * addr)
  | .NA4 => Set.Ico (4 * addr) (4 * addr + 4)
  | .NAPOT =>
      -- the aligned block of `2 ^ (t + 3)` bytes around the address, for `t` trailing ones
      Set.Ico (2 ^ (trailingOnes addr + 3) * blockIndex addr)
        (2 ^ (trailingOnes addr + 3) * (blockIndex addr + 1))

/-- The bytes that entry `i` protects. -/
noncomputable def pmpRegion (s : State) (i : Fin 64) : Set ℕ :=
  pmpRegionOf (pmpMatchType (s.pmpcfg i)) (pmpReadAddrReg s i).toNat (prevPmpaddr s i).toNat

/-- The bytes of an access. -/
def accessBytes (addr : Xlenbits) (width : ℕ) : Set ℕ :=
  Set.Ico addr.toNat (addr.toNat + width)

/-- Entry `i` meets the access. -/
def Meets (s : State) (addr : Xlenbits) (width : ℕ) (i : Fin 64) : Prop :=
  (pmpRegion s i ∩ accessBytes addr width).Nonempty

/-- The permissions of an entry allow the access: M-mode is bound by locked entries only. -/
def Permits (cfg : BitVec 8) (acc : AccessType) (priv : Privilege) : Prop :=
  (priv = .Machine ∧ Pmpcfg.L.get cfg = 0#1) ∨ pmpCheckRWX cfg acc = true

open Classical in
/-- The first of the entries `is` with a property. -/
noncomputable def firstEntry (p : Fin 64 → Prop) (is : List (Fin 64)) : Option (Fin 64) :=
  is.find? (fun i => decide (p i))

/-- The lowest-numbered entry with a property. -/
noncomputable def lowestEntry (p : Fin 64 → Prop) : Option (Fin 64) :=
  firstEntry p (List.finRange 64)

open Classical in
/-- The verdict on an access that entry `i` decides, or that no entry meets. -/
noncomputable def pmpVerdict (s : State) (addr : Xlenbits) (width : ℕ) (acc : AccessType)
    (priv : Privilege) (i : Option (Fin 64)) : Option ExceptionType :=
  match i with
  | none => if priv = .Machine then none else some (accessToFault acc)
  | some i =>
      if accessBytes addr width ⊆ pmpRegion s i ∧ Permits (s.pmpcfg i) acc priv then none
      else some (accessToFault acc)

/-- The reference rule. -/
noncomputable def pmpRule (s : State) (addr : Xlenbits) (width : ℕ) (acc : AccessType)
    (priv : Privilege) : Option ExceptionType :=
  pmpVerdict s addr width acc priv (lowestEntry (Meets s addr width))

/-- A NAPOT entry whose region is the whole address space: all bits of the address but
possibly the highest are ones. -/
def WholeSpace (s : State) (i : Fin 64) : Prop :=
  pmpMatchType (s.pmpcfg i) = .NAPOT
    ∧ (pmpReadAddrReg s i).toNat % 2 ^ (xlen - 1) = 2 ^ (xlen - 1) - 1

instance (s : State) (i : Fin 64) : Decidable (WholeSpace s i) :=
  inferInstanceAs (Decidable (_ ∧ _))

/-- The rule over the entries that do not span the whole address space. -/
noncomputable def pmpRuleBounded (s : State) (addr : Xlenbits) (width : ℕ) (acc : AccessType)
    (priv : Privilege) : Option ExceptionType :=
  pmpVerdict s addr width acc priv
    (lowestEntry (fun i => Meets s addr width i ∧ ¬ WholeSpace s i))

omit [Platform] in
/-- The lowest entry is the one that has the property while no entry before it has. -/
theorem lowestEntry_eq_some {p : Fin 64 → Prop} {i : Fin 64} :
    lowestEntry p = some i ↔ p i ∧ ∀ j < i, ¬ p j := by
  unfold lowestEntry firstEntry
  rw [List.find?_eq_some_iff_getElem]
  simp only [decide_eq_true_eq, List.length_finRange, List.getElem_finRange,
    Bool.not_eq_true', decide_eq_false_iff_not]
  constructor
  · rintro ⟨hp, n, hn, rfl, hlt⟩
    exact ⟨hp, fun j hj => hlt j.val hj⟩
  · rintro ⟨hp, hlt⟩
    exact ⟨hp, i.val, i.isLt, rfl, fun j hj => hlt ⟨j, by omega⟩ hj⟩

omit [Platform] in
/-- There is no lowest entry when no entry has the property. -/
theorem lowestEntry_eq_none {p : Fin 64 → Prop} : lowestEntry p = none ↔ ∀ i, ¬ p i := by
  unfold lowestEntry firstEntry
  rw [List.find?_eq_none]
  simp

/-- The verdict of an entry. -/
theorem pmpVerdict_some (s : State) (addr : Xlenbits) (width : ℕ) (acc : AccessType)
    (priv : Privilege) (i : Fin 64)
    [Decidable (accessBytes addr width ⊆ pmpRegion s i ∧ Permits (s.pmpcfg i) acc priv)] :
    pmpVerdict s addr width acc priv (some i)
      = if accessBytes addr width ⊆ pmpRegion s i ∧ Permits (s.pmpcfg i) acc priv then none
        else some (accessToFault acc) := by
  simp only [pmpVerdict]
  congr

/-! ## Matching -/

open Classical in
/-- How a region meets an access. -/
noncomputable def classify (region access : Set ℕ) : PmpAddrMatch :=
  if (region ∩ access).Nonempty then
    if access ⊆ region then .PMP_Match else .PMP_PartialMatch
  else .PMP_NoMatch

/-- The comparison of `pmpMatchAddr` classifies the access by the range as a region. -/
theorem pmpMatchAddr_eq_classify (addr lo hi : Xlenbits) {width : ℕ} (hw : 0 < width)
    (hlt : width < 2 ^ xlen) :
    pmpMatchAddr addr (BitVec.ofNat xlen width) (some (lo, hi))
      = classify (Set.Ico (4 * lo.toNat) (4 * hi.toNat)) (accessBytes addr width) := by
  unfold pmpMatchAddr classify accessBytes
  rw [Set.Ico_inter_Ico, Set.nonempty_Ico, Set.Ico_subset_Ico_iff (by omega)]
  simp only [BitVec.toNat_ofNat, Nat.mod_eq_of_lt hlt, sup_lt_iff, lt_inf_iff]
  by_cases h1 : hi.toNat * 4 ≤ lo.toNat * 4
  · rw [if_pos h1, if_neg (by omega)]
  · rw [if_neg h1]
    by_cases h2 : addr.toNat + width ≤ lo.toNat * 4 ∨ hi.toNat * 4 ≤ addr.toNat
    · rw [if_pos h2, if_neg (by omega)]
    · rw [if_neg h2]
      by_cases h3 : lo.toNat * 4 ≤ addr.toNat ∧ addr.toNat + width ≤ hi.toNat * 4
      · rw [if_pos h3, if_pos (by omega), if_pos (by omega)]
      · rw [if_neg h3, if_pos (by omega), if_neg (by omega)]

omit [Platform] in
/-- A region beyond the access does not meet it. -/
theorem classify_of_disjoint {region access : Set ℕ} (h : ¬ (region ∩ access).Nonempty) :
    classify region access = .PMP_NoMatch := by
  unfold classify
  rw [if_neg h]

/-- No access reaches a region in the upper half of the word addresses. -/
theorem not_meets_upper (addr : Xlenbits) {width lo hi : ℕ} (hlt : width < 2 ^ xlen)
    (hlo : 2 ^ xlen ≤ 2 * lo) :
    ¬ (Set.Ico (4 * lo) hi ∩ accessBytes addr width).Nonempty := by
  have := addr.isLt
  unfold accessBytes
  rw [Set.Ico_inter_Ico, Set.nonempty_Ico]
  simp only [sup_lt_iff, lt_inf_iff]
  omega

omit [Platform] in
/-- A NAPOT region in units of bytes. -/
theorem pmpRegionOf_napot (addr prev : ℕ) :
    pmpRegionOf .NAPOT addr prev
      = Set.Ico (4 * (2 ^ (trailingOnes addr + 1) * blockIndex addr))
        (4 * (2 ^ (trailingOnes addr + 1) * (blockIndex addr + 1))) := by
  unfold pmpRegionOf
  rw [show trailingOnes addr + 3 = 2 + (trailingOnes addr + 1) by omega, pow_add]
  norm_num [mul_assoc]

/-- An address with all ones below its highest bit lies in the block that spans the whole
address space. -/
theorem block_of_wholeSpace {v : Xlenbits}
    (h : v.toNat % 2 ^ (xlen - 1) = 2 ^ (xlen - 1) - 1) :
    blockIndex v.toNat = 0 ∧ xlen - 1 ≤ trailingOnes v.toNat := by
  have hx := xlen_ge
  have ht : xlen - 1 ≤ trailingOnes v.toNat := by
    apply le_trailingOnes
    intro i hi
    have hmod : (v.toNat % 2 ^ (xlen - 1)).testBit i = true := by
      rw [h, Nat.testBit_two_pow_sub_one]
      simpa using hi
    rw [Nat.testBit_mod_two_pow] at hmod
    simpa [hi] using hmod
  refine ⟨?_, ht⟩
  unfold blockIndex
  apply Nat.div_eq_of_lt
  calc v.toNat < 2 ^ xlen := v.isLt
    _ ≤ 2 ^ (trailingOnes v.toNat + 1) := Nat.pow_le_pow_right (by omega) (by omega)

/-- The NAPOT range of an address that spans the whole address space comes out empty; every
other one classifies accesses as its region does. -/
theorem napot_classify (addr v : Xlenbits) (prev : ℕ) {lo hi : Xlenbits} {width : ℕ}
    (hw : 0 < width) (hlt : width < 2 ^ xlen)
    (hlo : lo.toNat = 2 ^ (trailingOnes v.toNat + 1) * blockIndex v.toNat)
    (hhi : hi.toNat = 2 ^ (trailingOnes v.toNat + 1) * (blockIndex v.toNat + 1) % 2 ^ xlen) :
    pmpMatchAddr addr (BitVec.ofNat xlen width) (some (lo, hi))
      = if v.toNat % 2 ^ (xlen - 1) = 2 ^ (xlen - 1) - 1 then .PMP_NoMatch
        else classify (pmpRegionOf .NAPOT v.toNat prev) (accessBytes addr width) := by
  have hx := xlen_ge
  by_cases hall : v.toNat % 2 ^ (xlen - 1) = 2 ^ (xlen - 1) - 1
  · obtain ⟨hb, ht⟩ := block_of_wholeSpace hall
    have hzero : hi.toNat = 0 := by
      rw [hhi, hb, zero_add, mul_one]
      exact Nat.mod_eq_zero_of_dvd (pow_dvd_pow 2 (by omega))
    rw [if_pos hall]
    apply pmpMatchAddr_of_empty
    rw [BitVec.lt_def]
    omega
  · rw [if_neg hall, pmpRegionOf_napot]
    have hne : v.toNat + 1 < 2 ^ xlen := by
      by_contra hge
      apply hall
      have hv : v.toNat = 2 ^ xlen - 1 := by
        have := v.isLt
        omega
      have h2 : 2 ^ xlen = 2 ^ (xlen - 1) + 2 ^ (xlen - 1) := by
        rw [← two_mul, ← pow_succ', show xlen - 1 + 1 = xlen by omega]
      have hpos := Nat.two_pow_pos (xlen - 1)
      rw [hv, h2, show 2 ^ (xlen - 1) + 2 ^ (xlen - 1) - 1
        = (2 ^ (xlen - 1) - 1) + 2 ^ (xlen - 1) by omega, Nat.add_mod_right,
        Nat.mod_eq_of_lt (by omega)]
    rcases lt_or_eq_of_le (block_end_le v hne) with hend | hend
    · -- the block ends inside the range of word addresses
      rw [Nat.mod_eq_of_lt hend] at hhi
      rw [pmpMatchAddr_eq_classify addr lo hi hw hlt, hlo, hhi]
    · -- the block ends with the range: its bound wraps to zero, and no access reaches it
      rw [hend, Nat.mod_self] at hhi
      have hb : 0 < blockIndex v.toNat := by
        by_contra hb0
        have hb0 : blockIndex v.toNat = 0 := by omega
        rw [hb0, zero_add, mul_one] at hend
        have ht : trailingOnes v.toNat + 1 = xlen := Nat.pow_right_injective le_rfl hend
        apply hall
        have hv := eq_block_add v.toNat
        rw [hb0, mul_zero, zero_add, show trailingOnes v.toNat = xlen - 1 by omega] at hv
        have hpos := Nat.two_pow_pos (xlen - 1)
        rw [hv, Nat.mod_eq_of_lt (by omega)]
      rw [pmpMatchAddr_of_empty (by rw [BitVec.lt_def]; omega)]
      refine (classify_of_disjoint (not_meets_upper addr hlt ?_)).symm
      rw [← hend]
      nlinarith [Nat.two_pow_pos (trailingOnes v.toNat + 1)]

open Classical in
/-- How an entry matches an access: it is overlooked if it spans the whole address space, and
otherwise its region decides. -/
theorem entryMatch_eq {s : State} (hlegal : PmpLegal s) (i : Fin 64) (addr : Xlenbits)
    {width : ℕ} (hw : 0 < width) (hlt : width < 2 ^ xlen) :
    entryMatch s i addr (BitVec.ofNat xlen width)
      = .ok (if WholeSpace s i then .PMP_NoMatch
          else classify (pmpRegion s i) (accessBytes addr width)) := by
  have hx := xlen_ge
  by_cases hws : pmpMatchType (s.pmpcfg i) = .NAPOT
  · unfold entryMatch entryRange pmpAddrRange WholeSpace pmpRegion
    simp only [hws, true_and]
    exact congrArg _ (napot_classify addr _ _ hw hlt (toNat_block_lo _) (toNat_block_hi _))
  rw [if_neg (fun h => hws h.1)]
  unfold entryMatch entryRange pmpAddrRange pmpRegion
  cases hm : pmpMatchType (s.pmpcfg i) with
  | OFF =>
      rw [classify_of_disjoint (by simp [pmpRegionOf])]
      rfl
  | TOR => exact congrArg _ (pmpMatchAddr_eq_classify addr _ _ hw hlt)
  | NA4 =>
      have hG := hlegal.na4 i hm
      simp only [hG, show (0 : ℕ) < 1 by omega, if_true, Except.map, Except.ok.injEq]
      generalize pmpReadAddrReg s i = v
      have h1 : (1#_ : Xlenbits).toNat = 1 := by
        rw [BitVec.toNat_ofNat, Nat.mod_eq_of_lt (Nat.one_lt_two_pow (by omega))]
      have hv := v.isLt
      rcases Nat.lt_or_ge (v.toNat + 1) (2 ^ xlen) with hsucc | hsucc
      · rw [pmpMatchAddr_eq_classify addr _ _ hw hlt, BitVec.toNat_add, h1,
          Nat.mod_eq_of_lt hsucc]
        rfl
      · -- the last word: its end wraps to zero, and no access reaches it
        have hpow : 2 ^ 32 ≤ 2 ^ xlen := Nat.pow_le_pow_right (by omega) hx
        have hzero : (v + 1#_).toNat = 0 := by
          rw [BitVec.toNat_add, h1, show v.toNat + 1 = 2 ^ xlen by omega, Nat.mod_self]
        rw [pmpMatchAddr_of_empty (by rw [BitVec.lt_def]; omega)]
        exact (classify_of_disjoint (not_meets_upper addr hlt (by omega))).symm
  | NAPOT => exact absurd hm hws

/-! ## The check -/

omit [Platform] in
/-- The permission check of the code is that of the rule. -/
theorem pmpCheckPerms_iff (cfg : BitVec 8) (acc : AccessType) (priv : Privilege) :
    pmpCheckPerms cfg acc priv = true ↔ Permits cfg acc priv := by
  have hL : pmpLocked cfg = false ↔ Pmpcfg.L.get cfg = 0#1 := by
    unfold pmpLocked
    generalize Pmpcfg.L.get cfg = b
    revert b
    decide
  unfold pmpCheckPerms Permits
  cases priv with
  | Machine =>
      cases hl : pmpLocked cfg with
      | true =>
          have : ¬ Pmpcfg.L.get cfg = 0#1 := by rw [← hL, hl]; simp
          simp [this]
      | false => simp [hL.mp hl]
  | Supervisor => simp
  | User => simp

/-- What the scan does after an entry matched an access in the way `m`. -/
def matchVerdict (cfg : BitVec 8) (acc : AccessType) (priv : Privilege) (m : PmpAddrMatch) :
    PmpMatch :=
  match m with
  | .PMP_NoMatch => .PMP_Continue
  | .PMP_PartialMatch => .PMP_Fail
  | .PMP_Match => if pmpCheckPerms cfg acc priv then .PMP_Success else .PMP_Fail

/-- What the scan does at one entry. -/
theorem pmpMatchEntry_eq (s : State) (i : Fin 64) (addr width : Xlenbits) (acc : AccessType)
    (priv : Privilege) :
    pmpMatchEntry addr width acc priv (s.pmpcfg i) (pmpReadAddrReg s i) (prevPmpaddr s i)
      = (entryMatch s i addr width).map (matchVerdict (s.pmpcfg i) acc priv) := by
  unfold pmpMatchEntry entryMatch entryRange
  cases pmpAddrRange (s.pmpcfg i) (pmpReadAddrReg s i) (prevPmpaddr s i) with
  | error e => rfl
  | ok rng =>
      simp only [bind, Except.bind, Except.map, matchVerdict]
      cases pmpMatchAddr addr width rng <;> rfl

open Classical in
/-- The scan gives the verdict of the first entry that meets the access and is not
overlooked. -/
theorem pmpCheckFrom_eq {s : State} (hlegal : PmpLegal s) (addr : Xlenbits) {width : ℕ}
    (hw : 0 < width) (hlt : width < 2 ^ xlen) (acc : AccessType) (priv : Privilege)
    (is : List (Fin 64)) :
    pmpCheckFrom s addr (BitVec.ofNat xlen width) acc priv is
      = .ok (pmpVerdict s addr width acc priv
          (firstEntry (fun i => Meets s addr width i ∧ ¬ WholeSpace s i) is)) := by
  unfold firstEntry
  induction is with
  | nil => rfl
  | cons i is ih =>
      rw [pmpCheckFrom, pmpMatchEntry_eq, entryMatch_eq hlegal i addr hw hlt]
      by_cases hmeets : Meets s addr width i ∧ ¬ WholeSpace s i
      · rw [List.find?_cons_of_pos (by simpa using hmeets), if_neg hmeets.2]
        have hcl : classify (pmpRegion s i) (accessBytes addr width)
            = if accessBytes addr width ⊆ pmpRegion s i then .PMP_Match
              else .PMP_PartialMatch := by
          unfold classify
          exact if_pos hmeets.1
        rw [hcl, pmpVerdict_some]
        by_cases hsub : accessBytes addr width ⊆ pmpRegion s i
        · rw [if_pos hsub]
          by_cases hperm : pmpCheckPerms (s.pmpcfg i) acc priv = true
          · have hv : matchVerdict (s.pmpcfg i) acc priv .PMP_Match = .PMP_Success := if_pos hperm
            simp only [Except.map, hv]
            rw [if_pos ⟨hsub, (pmpCheckPerms_iff _ _ _).mp hperm⟩]
            rfl
          · have hv : matchVerdict (s.pmpcfg i) acc priv .PMP_Match = .PMP_Fail := if_neg hperm
            simp only [Except.map, hv]
            rw [if_neg (fun h => hperm ((pmpCheckPerms_iff _ _ _).mpr h.2))]
            rfl
        · rw [if_neg hsub, if_neg (fun h => hsub h.1)]
          rfl
      · rw [List.find?_cons_of_neg (by simpa using hmeets), ← ih]
        have hno : (if WholeSpace s i then PmpAddrMatch.PMP_NoMatch
            else classify (pmpRegion s i) (accessBytes addr width)) = .PMP_NoMatch := by
          by_cases hws : WholeSpace s i
          · rw [if_pos hws]
          · rw [if_neg hws]
            exact classify_of_disjoint (fun h => hmeets ⟨h, hws⟩)
        rw [hno]
        rfl

/-- **The check is the rule over the entries that do not span the whole address space.** -/
theorem pmpCheck_eq {s : State} (hlegal : PmpLegal s) (addr : Xlenbits) {width : ℕ}
    (hw : 0 < width) (hlt : width < 2 ^ xlen) (acc : AccessType) (priv : Privilege) :
    pmpCheck s addr width acc priv = .ok (pmpRuleBounded s addr width acc priv) :=
  pmpCheckFrom_eq hlegal addr hw hlt acc priv _

/-- Leaving entries out does not change the lowest one if it is not left out. -/
theorem lowestEntry_bounded {s : State} {addr : Xlenbits} {width : ℕ}
    (h : ∀ i, lowestEntry (Meets s addr width) = some i → ¬ WholeSpace s i) :
    lowestEntry (fun i => Meets s addr width i ∧ ¬ WholeSpace s i)
      = lowestEntry (Meets s addr width) := by
  cases hl : lowestEntry (Meets s addr width) with
  | none =>
      rw [lowestEntry_eq_none] at hl ⊢
      exact fun i hp => hl i hp.1
  | some i =>
      obtain ⟨hi, hlt⟩ := lowestEntry_eq_some.mp hl
      exact lowestEntry_eq_some.mpr ⟨⟨hi, h i hl⟩, fun j hj hp => hlt j hj hp.1⟩

/-- **When the check is the rule.**  In every reachable state, and for every access, the
check agrees with the rule exactly when the entry that decides the access does not span the
whole address space, or the other entries give the same verdict. -/
theorem pmpCheck_eq_rule_iff {s : State} (h : PmpReachable s) (addr : Xlenbits) {width : ℕ}
    (hw : 0 < width) (hlt : width < 2 ^ xlen) (acc : AccessType) (priv : Privilege) :
    pmpCheck s addr width acc priv = .ok (pmpRule s addr width acc priv)
      ↔ ∀ i, lowestEntry (Meets s addr width) = some i → WholeSpace s i →
          pmpVerdict s addr width acc priv (some i) = pmpRuleBounded s addr width acc priv := by
  rw [pmpCheck_eq h.legal addr hw hlt acc priv, Except.ok.injEq]
  constructor
  · intro heq i hi _
    rw [heq, pmpRule, hi]
  · intro hall
    by_cases hws : ∃ i, lowestEntry (Meets s addr width) = some i ∧ WholeSpace s i
    · obtain ⟨i, hi, hws⟩ := hws
      rw [← hall i hi hws, pmpRule, hi]
    · unfold pmpRuleBounded pmpRule
      rw [lowestEntry_bounded]
      intro i hi hw
      exact hws ⟨i, hi, hw⟩

/-- A readable NAPOT entry of 32 bytes at 0. -/
def napotAtZero : State := configured [(0x3B0#12, 0x3#_), (0x3A0#12, 0x19#_)]

omit [Platform] in
theorem not_wholeSpace_napotAtZero :
    letI := rv32Pmp 0 (by decide)
    ∀ i, ¬ WholeSpace napotAtZero i := by
  decide

omit [Platform] in
/-- A write to the entry is checked as the rule says. -/
theorem pmpCheck_eq_rule_napotAtZero :
    letI := rv32Pmp 0 (by decide)
    pmpCheck napotAtZero 8#_ 4 .Write .User = .ok (pmpRule napotAtZero 8#_ 4 .Write .User) := by
  let := rv32Pmp 0 (by decide)
  exact (pmpCheck_eq_rule_iff (pmpReachable_configured _) 8#_ (by decide) (by decide)
    .Write .User).mpr (fun i _ hws => absurd hws (not_wholeSpace_napotAtZero i))

/-- An entry that spans the whole address space contains every access. -/
theorem accessBytes_subset_of_wholeSpace {s : State} {i : Fin 64} (h : WholeSpace s i)
    (addr : Xlenbits) {width : ℕ} (hlt : width < 2 ^ xlen) :
    accessBytes addr width ⊆ pmpRegion s i := by
  obtain ⟨hm, hall⟩ := h
  obtain ⟨hb, ht⟩ := block_of_wholeSpace hall
  have hx := xlen_ge
  have hpow : 2 ^ xlen ≤ 2 ^ (trailingOnes (pmpReadAddrReg s i).toNat + 1) :=
    Nat.pow_le_pow_right (by omega) (by omega)
  have haddr := addr.isLt
  unfold pmpRegion accessBytes
  rw [hm, pmpRegionOf_napot, hb, mul_zero, mul_zero, zero_add, mul_one]
  intro n hn
  rw [Set.mem_Ico] at hn ⊢
  omega

omit [Platform] in
/-- On RV32 a NAPOT entry with the address `0xFFFFFFFF` and all permissions allows every
access by the rule, but the check denies a read in U-mode. -/
theorem pmpCheck_overlooks_wholeSpace :
    ¬ ∀ [Platform] (s : State) (addr : Xlenbits) (width : ℕ) (acc : AccessType)
      (priv : Privilege), PmpReachable s → 0 < width → width < 2 ^ xlen →
      pmpCheck s addr width acc priv = .ok (pmpRule s addr width acc priv) := by
  intro h
  let := rv32Pmp 0 (by decide)
  let s := configured [(0x3B0#12, 0xFFFFFFFF#_), (0x3A0#12, 0x1F#_)]
  have hrule := h s 0x80000000#_ 4 .Read .User (pmpReachable_configured _) (by decide)
    (by decide)
  have hws : WholeSpace s 0 := by decide
  have hsub := accessBytes_subset_of_wholeSpace hws 0x80000000#_ (show 4 < 2 ^ xlen by
    decide)
  have hmeets : Meets s 0x80000000#_ 4 0 := by
    refine ⟨(0x80000000#_ : Xlenbits).toNat, hsub ?_, ?_⟩ <;>
    · unfold accessBytes
      rw [Set.mem_Ico]
      omega
  have hlow : lowestEntry (Meets s 0x80000000#_ 4) = some 0 :=
    lowestEntry_eq_some.mpr ⟨hmeets, fun j hj => absurd hj (by simp)⟩
  have hperm : Permits (s.pmpcfg 0) .Read .User := Or.inr (by decide)
  classical
  rw [pmpRule, hlow, pmpVerdict_some, if_pos ⟨hsub, hperm⟩] at hrule
  exact absurd hrule (by decide)

/-- On RV64 the 54 bits of an address register and the grain never give the whole address
space. -/
theorem not_wholeSpace_of_rv64 {s : State} (hlegal : PmpLegal s) (hx : xlen = 64) (i : Fin 64) :
    ¬ WholeSpace s i := by
  rintro ⟨hm, hall⟩
  have hG := sysPmpGrain_le
  have hhi : matchTypeHi (s.pmpcfg i) = true := by
    rw [matchTypeHi_eq, hm]
    rfl
  -- bit 62 is a one of the address, but neither the register nor the mask has it
  have hbit : (pmpReadAddrReg s i).getLsbD 62 = true := by
    have h62 : ((pmpReadAddrReg s i).toNat % 2 ^ (xlen - 1)).testBit 62 = true := by
      rw [hall, Nat.testBit_two_pow_sub_one, hx]
      rfl
    rw [Nat.testBit_mod_two_pow, BitVec.testBit_toNat] at h62
    simp only [Bool.and_eq_true] at h62
    exact h62.2
  rw [pmpReadAddrReg_eq, hhi, grainRead, if_pos rfl, BitVec.getLsbD_or, getLsbD_lowOnes] at hbit
  have haddr : (s.pmpaddr i).getLsbD 62 = false := by
    rw [← BitVec.testBit_toNat]
    apply Nat.testBit_lt_two_pow
    have := hlegal.addr_lt i hx
    omega
  simp [haddr, show ¬ 62 < sysPmpGrain - 1 by omega] at hbit

/-- On RV64 the check is the rule. -/
theorem pmpCheck_eq_rule_of_rv64 {s : State} (hlegal : PmpLegal s) (hx : xlen = 64)
    (addr : Xlenbits) {width : ℕ} (hw : 0 < width) (hlt : width < 2 ^ xlen) (acc : AccessType)
    (priv : Privilege) :
    pmpCheck s addr width acc priv = .ok (pmpRule s addr width acc priv) := by
  rw [pmpCheck_eq hlegal addr hw hlt acc priv]
  unfold pmpRuleBounded pmpRule
  rw [lowestEntry_bounded (fun i _ => not_wholeSpace_of_rv64 hlegal hx i)]

end SailRiscv
