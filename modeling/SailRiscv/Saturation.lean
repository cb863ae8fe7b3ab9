/-
# Saturating fixed-point instructions

The exact results of the saturating instructions, the law that their elements and `vxsat` are to
obey, and when they do.
-/
import SailRiscv.VextElements

namespace SailRiscv

open Bits Platform Rounding

/-! ## Exact results -/

/-- A saturating operation: the range of its results, and the exact result. -/
structure SatOp where
  range : ℕ → Range
  exact : (m : ℕ) → Mode → (a b : BitVec m) → ℤ

/-- The saturating operations of one width. -/
def Vxfunct6.satOp : Vxfunct6 → Option SatOp
  | .VX_VSADDU => some ⟨Range.unsigned, fun _ _ a b => a.toNat + b.toNat⟩
  | .VX_VSADD => some ⟨Range.signed, fun _ _ a b => a.toInt + b.toInt⟩
  | .VX_VSSUBU => some ⟨Range.unsigned, fun _ _ a b => a.toNat - b.toNat⟩
  | .VX_VSSUB => some ⟨Range.signed, fun _ _ a b => a.toInt - b.toInt⟩
  | .VX_VSMUL => some ⟨Range.signed, fun m μ a b => rounded μ (a.toInt * b.toInt) (m - 1)⟩
  | _ => none

/-- The range of a narrowed element. -/
def Nxfunct6.range : Nxfunct6 → ℕ → Range
  | .NX_VNCLIPU => Range.unsigned
  | .NX_VNCLIP => Range.signed

/-- The rounded quotient of an element. -/
def Nxfunct6.exact {o : ℕ} (μ : Mode) (a : BitVec o) (shift : ℕ) : Nxfunct6 → ℤ
  | .NX_VNCLIPU => rounded μ a.toNat shift
  | .NX_VNCLIP => rounded μ a.toInt shift

theorem Nxfunct6.elem_eq {o m : ℕ} (f : Nxfunct6) (μ : Mode) (a : BitVec o) (shift : ℕ) :
    f.elem μ m a shift = saturated (f.range m) (f.exact μ a shift) := by
  cases f <;> rfl

variable [Platform]

/-- A saturating instruction: its mask and destination, the range, and the exact results. -/
structure SatForm where
  vm : BitVec 1
  vd : Regidx
  range : ℕ → Range
  exact : State → VConf → ℕ → ℤ

/-- The saturating instructions in all forms.  A narrowing immediate is an unsigned number. -/
def VextArithInst.satForm : VextArithInst → Option SatForm
  | .VVTYPE f vm vs2 vs1 vd => (f.scalarForm.bind Vxfunct6.satOp).map fun op =>
      ⟨vm, vd, op.range, fun s c j => op.exact c.sew s.rounding (c.read s vs2 j) (c.read s vs1 j)⟩
  | .VXTYPE f vm vs2 rs1 vd => f.satOp.map fun op =>
      ⟨vm, vd, op.range, fun s c j => op.exact c.sew s.rounding (c.read s vs2 j) (c.readX s rs1)⟩
  | .VITYPE f vm vs2 simm vd => f.scalarForm.satOp.map fun op =>
      ⟨vm, vd, op.range,
        fun s c j => op.exact c.sew s.rounding (c.read s vs2 j) (simm.signExtend c.sew)⟩
  | .NVTYPE f vm vs2 vs1 vd => some ⟨vm, vd, f.scalarForm.range, fun s c j =>
      f.scalarForm.exact s.rounding (c.widen.read s vs2 j)
        ((c.read s vs1 j).toNat % c.widen.sew)⟩
  | .NXTYPE f vm vs2 rs1 vd => some ⟨vm, vd, f.range, fun s c j =>
      f.exact s.rounding (c.widen.read s vs2 j) ((c.readX s rs1).toNat % c.widen.sew)⟩
  | .NITYPE f vm vs2 simm vd => some ⟨vm, vd, f.scalarForm.range, fun s c j =>
      f.scalarForm.exact s.rounding (c.widen.read s vs2 j) (simm.toNat % c.widen.sew)⟩
  | _ => none

/-! ## The law -/

/-- `vxsat` is set. -/
def State.saturatedFlag (s : State) : Bool := Vcsr.vxsat.get s.vcsr == 1#1

/-- Setting `vxsat`. -/
theorem saturatedFlag_satIf (s : State) (b : Bool) :
    (s.satIf b).saturatedFlag = (s.saturatedFlag || b) := by
  have hset : ∀ c : BitVec 3, Vcsr.vxsat.get (Vcsr.vxsat.set c 1#1) = 1#1 := by decide
  unfold State.satIf State.saturatedFlag
  cases b with
  | false => rw [if_neg Bool.false_ne_true, Bool.or_false]
  | true =>
      rw [if_pos rfl, Bool.or_true]
      exact beq_iff_eq.mpr (hset s.vcsr)

/-- An element is active. -/
def SatForm.Active (f : SatForm) (s : State) (c : VConf) (j : ℕ) : Prop :=
  s.active c.n c.lmul (s.vmask f.vm) j = true

/-- Each active element is its exact result, clamped, and `vxsat` is set when it was before or
an exact result of an active element is out of range. -/
structure SaturationLaw (f : SatForm) (c : VConf) (s s' : State) : Prop where
  elem : ∀ j < groupLen c.sew c.lmul, f.Active s c j →
    s'.elem c.sew f.vd j = BitVec.ofInt c.sew ((f.range c.sew).clamp (f.exact s c j))
  vxsat : s'.saturatedFlag = true ↔ s.saturatedFlag = true
    ∨ ∃ j, f.Active s c j ∧ (f.range c.sew).out (f.exact s c j) = true

/-- A difference of unsigned numbers is negative, while `vxsat` is clear. -/
def UnreportedBorrow (s : State) (c : VConf) : VextArithInst → Prop
  | .VVTYPE .VV_VSSUBU vm vs2 vs1 _ => s.saturatedFlag = false ∧ ∃ j,
      s.active c.n c.lmul (s.vmask vm) j = true ∧ (c.read s vs2 j).toNat < (c.read s vs1 j).toNat
  | .VXTYPE .VX_VSSUBU vm vs2 rs1 _ => s.saturatedFlag = false ∧ ∃ j,
      s.active c.n c.lmul (s.vmask vm) j = true ∧ (c.read s vs2 j).toNat < (c.readX s rs1).toNat
  | _ => False

/-- An immediate from 16 on narrows an element of 64 bits, and it matters that its sign is
extended: 32 is added to it. -/
def SignedShift (s : State) (c : VConf) : VextArithInst → Prop
  | .NITYPE f vm vs2 simm _ => c.sew = 32 ∧ 16 ≤ simm.toNat ∧ ∃ j,
      s.active c.n c.lmul (s.vmask vm) j = true
        ∧ f.scalarForm.elem s.rounding c.sew (c.widen.read s vs2 j) simm.toNat
          ≠ f.scalarForm.elem s.rounding c.sew (c.widen.read s vs2 j) (simm.toNat + 32)
  | _ => False

/-! ## Elements and flags -/

variable {s s' : State} {c : VConf}

/-- What the law says about the elements that have been computed. -/
theorem saturationLaw_iff {f : SatForm} {elem : ℕ → BitVec c.sew × Bool}
    (h : (c.result s f.vm f.vd elem).Holds s s') :
    SaturationLaw f c s s' ↔
      (∀ j < groupLen c.sew c.lmul, f.Active s c j →
        (elem j).1 = BitVec.ofInt c.sew ((f.range c.sew).clamp (f.exact s c j)))
      ∧ ((s.saturatedFlag = true ∨ ∃ j, f.Active s c j ∧ (elem j).2 = true)
        ↔ s.saturatedFlag = true
          ∨ ∃ j, f.Active s c j ∧ (f.range c.sew).out (f.exact s c j) = true) := by
  have helem : ∀ j < groupLen c.sew c.lmul, f.Active s c j → s'.elem c.sew f.vd j = (elem j).1 := by
    intro j hj hact
    exact (h.outcome.elem j hj).trans (if_pos hact)
  have hflag : s'.saturatedFlag = true
      ↔ s.saturatedFlag = true ∨ ∃ j, f.Active s c j ∧ (elem j).2 = true := by
    have hvcsr : s'.saturatedFlag = (s.saturatedFlag
        || anySat c.n (s.active c.n c.lmul (s.vmask f.vm)) fun i => (elem i).2) := by
      rw [← saturatedFlag_satIf]
      unfold State.saturatedFlag
      rw [h.outcome.vcsr]
      rfl
    rw [hvcsr, Bool.or_eq_true, anySat_iff]
    refine or_congr Iff.rfl ⟨?_, ?_⟩
    · rintro ⟨j, -, hact, hsat⟩
      exact ⟨j, hact, hsat⟩
    · rintro ⟨j, hact, hsat⟩
      exact ⟨j, lt_of_active hact, hact, hsat⟩
  constructor
  · intro hlaw
    refine ⟨fun j hj hact => ?_, hflag.symm.trans hlaw.vxsat⟩
    rw [← helem j hj hact, hlaw.elem j hj hact]
  · rintro ⟨hvalue, hsat⟩
    exact ⟨fun j hj hact => (helem j hj hact).trans (hvalue j hj hact), hflag.trans hsat⟩

/-- Elements that saturate obey the law. -/
theorem saturationLaw_of_saturated {f : SatForm} {elem : ℕ → BitVec c.sew × Bool}
    (h : (c.result s f.vm f.vd elem).Holds s s')
    (helem : ∀ j, f.Active s c j → elem j = saturated (f.range c.sew) (f.exact s c j)) :
    SaturationLaw f c s s' := by
  refine (saturationLaw_iff h).mpr ⟨fun j _ hact => ?_, or_congr Iff.rfl ?_⟩
  · rw [helem j hact]
    rfl
  · refine exists_congr fun j => and_congr_right fun hact => ?_
    rw [helem j hact]
    rfl

/-- The differences of unsigned numbers obey the law unless one of them is negative and `vxsat`
is clear. -/
theorem saturationLaw_borrow_iff {vm : BitVec 1} {vd : Regidx} {a b : ℕ → BitVec c.sew}
    {exact' : State → VConf → ℕ → ℤ}
    (hexact : ∀ j, exact' s c j = ((a j).toNat : ℤ) - (b j).toNat)
    (h : (c.result s vm vd fun j => Vxfunct6.elem s.rounding (a j) (b j) .VX_VSSUBU).Holds s s') :
    SaturationLaw ⟨vm, vd, Range.unsigned, exact'⟩ c s s'
      ↔ ¬ (s.saturatedFlag = false ∧ ∃ j,
        s.active c.n c.lmul (s.vmask vm) j = true ∧ (a j).toNat < (b j).toNat) := by
  have hout : ∀ j, (Range.unsigned c.sew).out (exact' s c j) = true
      ↔ (a j).toNat < (b j).toNat := by
    intro j
    have ha : ((a j).toNat : ℤ) < 2 ^ c.sew := by exact_mod_cast (a j).isLt
    rw [hexact]
    unfold Range.out Range.unsigned
    rw [decide_eq_true_iff]
    dsimp only
    omega
  rw [saturationLaw_iff (f := ⟨vm, vd, Range.unsigned, exact'⟩) h]
  constructor
  · rintro ⟨-, hsat⟩ ⟨hclear, j, hact, hlt⟩
    rcases hsat.mpr (Or.inr ⟨j, hact, (hout j).mpr hlt⟩) with hset | ⟨k, -, hk⟩
    · rw [hclear] at hset
      cases hset
    · cases hk
  · intro hnone
    refine ⟨fun j _ _ => ?_, ⟨?_, ?_⟩⟩
    · dsimp only
      rw [hexact]
      rfl
    · rintro (hset | ⟨k, -, hk⟩)
      · exact Or.inl hset
      · cases hk
    · rintro (hset | ⟨j, hact, hj⟩)
      · exact Or.inl hset
      · refine Or.inl (Bool.not_eq_false _ ▸ fun hclear => ?_)
        exact hnone ⟨hclear, j, hact, (hout j).mp hj⟩

/-! ## Narrowing by an immediate -/

omit [Platform] in
/-- The amount by which a narrowing instruction shifts. -/
theorem signExtend_shift {p : ℕ} (h₃ : 3 ≤ p) (h₅ : p ≤ 5) (u : BitVec 5) :
    (u.signExtend (2 ^ p)).toNat % 2 ^ (p + 1)
      = if p = 5 ∧ 16 ≤ u.toNat then u.toNat + 32 else u.toNat % 2 ^ (p + 1) := by
  revert u
  interval_cases p <;> decide

/-- The elements that are narrowed have at most 64 bits. -/
theorem run_narrowing_sew {β : VConf → Type} {vm : BitVec 1} {vd vs2 : Regidx}
    {src1 : (c : VConf) → M (β c)} [∀ c, Reads (src1 c)]
    {elem : (c : VConf) → β c → (ℕ → BitVec c.widen.sew) → ℕ → M (BitVec c.sew)}
    (hc : ConfOf s c)
    (hrun : (narrowing vm vd vs2 src1 elem).run s = .ok (.RETIRE_SUCCESS, s')) :
    c.sewPow ≤ 5 := by
  unfold narrowing at hrun
  obtain ⟨c', hc', hrun⟩ := run_bind_reads hrun
  obtain ⟨-, hrun⟩ := run_orIllegal_ok hrun
  obtain ⟨_, -, hrun⟩ := run_bind_reads hrun
  obtain ⟨_, -, hrun⟩ := run_bind_reads hrun
  obtain ⟨_, -, hrun⟩ := run_bind_reads hrun
  obtain ⟨_, -, hrun⟩ := run_bind_reads hrun
  obtain ⟨_, t, -, hrun⟩ := Exec.run_bind_ok.mp hrun
  obtain ⟨_, hassert, -⟩ := run_bind_reads hrun
  obtain rfl := hc.unique (run_vconf_ok.mp hc').1
  have hle : 2 ^ (c.sewPow + 1) ≤ 2 ^ 6 := of_decide_eq_true (run_assert_ok.mp hassert).1
  have := (Nat.pow_le_pow_iff_right (by omega)).mp hle
  omega

/-- The registers of a group hold all of its active elements, but elements wider than a register
read as zero. -/
theorem ConfOf.read_widen_eq_zero (hc : ConfOf s c) {vm : ℕ → Bool} {j : ℕ} (r : Regidx)
    (hact : s.active c.n c.lmul vm j = true) (hj : ¬ j < groupLen c.sew c.lmul) :
    c.widen.read s r j = 0#_ := by
  have hn : c.n = groupRegs c.lmul * VLEN / c.sew := hc.n
  rcases lt_or_ge c.lmul 0 with hneg | hpos
  · have hlen : groupLen c.sew c.lmul = c.n := by
      unfold groupLen perReg
      rw [hn, groupRegs_of_neg hneg, Nat.one_mul, Nat.one_mul]
    exact absurd (lt_of_active hact) (hlen ▸ hj)
  · have hlen := groupLen_wide_le c
    have hwide : ¬ c.widen.lmul < 0 := by
      show ¬ c.lmul + 1 < 0
      omega
    unfold VConf.read State.group
    rw [if_neg hwide, if_neg (by omega)]

omit [Platform] in
/-- Zero is exact. -/
theorem rounded_of_zero (μ : Mode) (sh : ℕ) : rounded μ 0 sh = 0 := by
  unfold rounded increment
  cases μ <;> simp

omit [Platform] in
/-- A number that is clamped to the inside of a range is in the range. -/
theorem Range.out_eq_false {r : Range} {x : ℤ} (hlo : r.lo ≤ x ∨ r.lo < r.clamp x)
    (hhi : r.clamp x < r.hi) : r.out x = false := by
  have hx : r.lo ≤ x ∧ x ≤ r.hi := by
    unfold Range.clamp at hlo hhi
    omega
  exact Range.out_of_mem hx.1 hx.2

omit [Platform] in
/-- The quotient by a power of two from `2 ^ 48` on, of an element of 64 bits. -/
theorem rounded_deep_bounds (μ : Mode) (v : ℤ) {sh : ℕ} (hlo : -2 ^ 63 ≤ v) (hhi : v < 2 ^ 64)
    (hsh : 48 ≤ sh) : -2 ^ 15 ≤ rounded μ v sh ∧ rounded μ v sh ≤ 2 ^ 16 := by
  obtain ⟨hi₀, hi₁⟩ := increment_bounds μ v sh
  have hpow : (2 : ℤ) ^ 48 ≤ 2 ^ sh := pow_le_pow_right₀ (by norm_num) hsh
  have hq₀ : -2 ^ 15 ≤ v / 2 ^ sh := by
    refine Int.le_ediv_of_mul_le (by positivity) ?_
    linarith
  have hq₁ : v / 2 ^ sh < 2 ^ 16 := by
    refine Int.ediv_lt_of_lt_mul (by positivity) ?_
    linarith
  unfold rounded
  omega

omit [Platform] in
/-- The unsigned numbers are determined by their bits. -/
theorem ofInt_unsigned_inj {m : ℕ} {x y : ℤ}
    (h : BitVec.ofInt m ((Range.unsigned m).clamp x) = BitVec.ofInt m ((Range.unsigned m).clamp y)) :
    (Range.unsigned m).clamp x = (Range.unsigned m).clamp y := by
  have hpos : (0 : ℤ) < 2 ^ m := by positivity
  have hmem (z : ℤ) : (Range.unsigned m).clamp z % 2 ^ m = (Range.unsigned m).clamp z := by
    refine Int.emod_eq_of_lt ?_ ?_
    all_goals
      unfold Range.clamp Range.unsigned
      dsimp only
      omega
  have heq : ((BitVec.ofInt m ((Range.unsigned m).clamp x)).toNat : ℤ)
      = (BitVec.ofInt m ((Range.unsigned m).clamp y)).toNat := by rw [h]
  rwa [toNat_ofInt_eq, toNat_ofInt_eq, hmem, hmem] at heq

omit [Platform] in
/-- The signed numbers are determined by their bits. -/
theorem ofInt_signed_inj {m : ℕ} (hm : 0 < m) {x y : ℤ}
    (h : BitVec.ofInt m ((Range.signed m).clamp x) = BitVec.ofInt m ((Range.signed m).clamp y)) :
    (Range.signed m).clamp x = (Range.signed m).clamp y := by
  have hpos : (0 : ℤ) < 2 ^ (m - 1) := by positivity
  have hmem (z : ℤ) : (BitVec.ofInt m ((Range.signed m).clamp z)).toInt
      = (Range.signed m).clamp z := by
    refine toInt_ofInt_eq ?_ ?_ hm
    all_goals
      unfold Range.clamp Range.signed
      dsimp only
      omega
  rw [← hmem x, ← hmem y, h]

omit [Platform] in
/-- An element that is narrowed by `sh` and by a much larger shift to the same value, is narrowed
without saturation. -/
theorem Nxfunct6.elem_eq_of_deep {f : Nxfunct6} {μ : Mode} {o m sh : ℕ} {a : BitVec o}
    (ho : o = 64) (hm : m = 32) (hsh : 16 ≤ sh)
    (h : (f.elem μ m a sh).1 = (f.elem μ m a (sh + 32)).1) :
    f.elem μ m a sh = f.elem μ m a (sh + 32) := by
  subst ho hm
  refine Prod.ext h ?_
  cases f with
  | NX_VNCLIPU =>
      have ha : (a.toNat : ℤ) < 2 ^ 64 := by exact_mod_cast a.isLt
      have hx : 0 ≤ rounded μ (a.toNat : ℤ) sh := by
        obtain ⟨hi₀, -⟩ := increment_bounds μ (a.toNat : ℤ) sh
        have hq : 0 ≤ (a.toNat : ℤ) / 2 ^ sh := by positivity
        unfold rounded
        omega
      have hy := rounded_deep_bounds μ (a.toNat : ℤ) (by omega) ha (show 48 ≤ sh + 32 by omega)
      have hy₀ : 0 ≤ rounded μ (a.toNat : ℤ) (sh + 32) := by
        obtain ⟨hi₀, -⟩ := increment_bounds μ (a.toNat : ℤ) (sh + 32)
        have hq : 0 ≤ (a.toNat : ℤ) / 2 ^ (sh + 32) := by positivity
        unfold rounded
        omega
      have hclamp := ofInt_unsigned_inj h
      rw [Range.clamp_of_mem (x := rounded μ (a.toNat : ℤ) (sh + 32)) (by exact hy₀)
        (by show _ ≤ (2 : ℤ) ^ 32 - 1; omega)] at hclamp
      show (Range.unsigned 32).out _ = (Range.unsigned 32).out _
      rw [Range.out_eq_false (Or.inl hx) (by rw [hclamp]; show _ < (2 : ℤ) ^ 32 - 1; omega),
        Range.out_of_mem (by exact hy₀) (by show _ ≤ (2 : ℤ) ^ 32 - 1; omega)]
  | NX_VNCLIP =>
      obtain ⟨ha₀, ha₁⟩ := toInt_bounds (by omega) a
      have hy := rounded_deep_bounds μ a.toInt (by omega) (by omega) (show 48 ≤ sh + 32 by omega)
      have hlo : (Range.signed 32).lo < rounded μ a.toInt (sh + 32) := by
        show -(2 : ℤ) ^ 31 < _
        omega
      have hhi : rounded μ a.toInt (sh + 32) < (Range.signed 32).hi := by
        show _ < (2 : ℤ) ^ 31 - 1
        omega
      have hclamp := ofInt_signed_inj (by omega) h
      rw [Range.clamp_of_mem hlo.le hhi.le] at hclamp
      show (Range.signed 32).out _ = (Range.signed 32).out _
      rw [Range.out_of_mem hlo.le hhi.le]
      rw [← hclamp] at hlo hhi
      exact Range.out_eq_false (Or.inr hlo) hhi

omit [Platform] in
/-- Zero is narrowed by any shift to zero. -/
theorem Nxfunct6.elem_zero (f : Nxfunct6) (μ : Mode) (o m sh sh' : ℕ) :
    f.elem μ m 0#o sh = f.elem μ m 0#o sh' := by
  have hexact (k : ℕ) : f.exact μ 0#o k = 0 := by
    cases f with
    | NX_VNCLIPU => exact rounded_of_zero μ k
    | NX_VNCLIP =>
        show rounded μ (0#o).toInt k = 0
        rw [BitVec.toInt_zero, rounded_of_zero]
  rw [f.elem_eq, f.elem_eq, hexact, hexact]

/-- The narrowing by an immediate obeys the law unless it matters that the sign of the immediate is
extended. -/
theorem saturationLaw_narrow_iff {f : Nxfunct6} {vm : BitVec 1} {vs2 vd : Regidx}
    {simm : BitVec 5} (hc : ConfOf s c) (hsew : c.sewPow ≤ 5)
    (h : (c.result s vm vd fun j => f.elem s.rounding c.sew (c.widen.read s vs2 j)
      ((simm.signExtend c.sew).toNat % c.widen.sew)).Holds s s') :
    SaturationLaw ⟨vm, vd, f.range, fun s c j =>
        f.exact s.rounding (c.widen.read s vs2 j) (simm.toNat % c.widen.sew)⟩ c s s'
      ↔ ¬ (c.sew = 32 ∧ 16 ≤ simm.toNat ∧ ∃ j, s.active c.n c.lmul (s.vmask vm) j = true
        ∧ f.elem s.rounding c.sew (c.widen.read s vs2 j) simm.toNat
          ≠ f.elem s.rounding c.sew (c.widen.read s vs2 j) (simm.toNat + 32)) := by
  have hshift := signExtend_shift hc.sew_bounds.1 hsew simm
  have hwide : c.widen.sew = 2 ^ (c.sewPow + 1) := rfl
  by_cases hbad : c.sewPow = 5 ∧ 16 ≤ simm.toNat
  · rw [if_pos hbad] at hshift
    obtain ⟨hp, hu⟩ := hbad
    have hlt := simm.isLt
    have hmod : simm.toNat % c.widen.sew = simm.toNat := by
      rw [hwide, hp]
      omega
    have hsew32 : c.sew = 32 := by
      unfold VConf.sew
      rw [hp]
      rfl
    have hexact (j : ℕ) : f.elem s.rounding c.sew (c.widen.read s vs2 j) simm.toNat
        = saturated (f.range c.sew)
          (f.exact s.rounding (c.widen.read s vs2 j) (simm.toNat % c.widen.sew)) := by
      rw [hmod]
      exact f.elem_eq _ _ _
    have hcode (j : ℕ) : f.elem s.rounding c.sew (c.widen.read s vs2 j)
          ((simm.signExtend c.sew).toNat % c.widen.sew)
        = f.elem s.rounding c.sew (c.widen.read s vs2 j) (simm.toNat + 32) :=
      congrArg (f.elem s.rounding c.sew (c.widen.read s vs2 j)) hshift
    constructor
    · rintro hlaw ⟨-, -, j, hact, hne⟩
      refine hne ?_
      by_cases hj : j < groupLen c.sew c.lmul
      · have hvalue := ((saturationLaw_iff (f := ⟨vm, vd, f.range, _⟩) h).mp hlaw).1 j hj hact
        rw [hcode] at hvalue
        refine Nxfunct6.elem_eq_of_deep (by rw [hwide, hp]; rfl) hsew32 hu ?_
        rw [hexact]
        exact hvalue.symm
      · rw [hc.read_widen_eq_zero vs2 hact hj]
        exact f.elem_zero _ _ _ _ _
    · intro hnone
      refine saturationLaw_of_saturated (f := ⟨vm, vd, f.range, _⟩) h (fun j hact => ?_)
      dsimp only
      rw [← hexact, hcode]
      by_contra hne
      exact hnone ⟨hsew32, hu, j, hact, fun heq => hne heq.symm⟩
  · rw [if_neg hbad] at hshift
    have hno : ¬ (c.sew = 32 ∧ 16 ≤ simm.toNat ∧ ∃ j,
        s.active c.n c.lmul (s.vmask vm) j = true
          ∧ f.elem s.rounding c.sew (c.widen.read s vs2 j) simm.toNat
            ≠ f.elem s.rounding c.sew (c.widen.read s vs2 j) (simm.toNat + 32)) := by
      rintro ⟨hsew32, hu, -⟩
      exact hbad ⟨Nat.pow_right_injective le_rfl hsew32, hu⟩
    refine iff_of_true (saturationLaw_of_saturated (f := ⟨vm, vd, f.range, _⟩) h fun j _ => ?_) hno
    rw [f.elem_eq]
    exact congrArg (fun k => saturated (f.range c.sew)
      (f.exact s.rounding (c.widen.read s vs2 j) k)) hshift

/-! ## When the law holds -/

omit [Platform] in
/-- The saturating operations but `vssubu` saturate as the law says. -/
theorem Vxfunct6.elem_eq_of_satOp {f : Vxfunct6} {op : SatOp} (hf : f.satOp = some op)
    (hne : f ≠ .VX_VSSUBU) (μ : Mode) {m : ℕ} (a b : BitVec m) :
    f.elem μ a b = saturated (op.range m) (op.exact m μ a b) := by
  cases f with
  | VX_VSADDU => cases hf; rfl
  | VX_VSADD => cases hf; rfl
  | VX_VSSUBU => exact absurd rfl hne
  | VX_VSSUB => cases hf; rfl
  | VX_VSMUL => cases hf; rfl
  | _ => cases hf

/-- The operations with two vector operands. -/
theorem saturationLaw_vv_iff {f : Vvfunct6} {op : SatOp} {vm : BitVec 1} {vs2 vs1 vd : Regidx}
    (hf : f.scalarForm.bind Vxfunct6.satOp = some op)
    (h : (c.result s vm vd (f.elem s c vs2 vs1)).Holds s s') :
    SaturationLaw ⟨vm, vd, op.range,
        fun s c j => op.exact c.sew s.rounding (c.read s vs2 j) (c.read s vs1 j)⟩ c s s'
      ↔ ¬ UnreportedBorrow s c (.VVTYPE f vm vs2 vs1 vd) := by
  obtain ⟨g, hg, hop⟩ := Option.bind_eq_some_iff.mp hf
  have helem (j : ℕ) :
      f.elem s c vs2 vs1 j = g.elem s.rounding (c.read s vs2 j) (c.read s vs1 j) := by
    unfold Vvfunct6.elem
    rw [hg]
  by_cases hf' : f = .VV_VSSUBU
  · subst hf'
    cases hg
    cases hop
    exact saturationLaw_borrow_iff (fun _ => rfl) h
  · have hne : g ≠ .VX_VSSUBU := by
      rintro rfl
      cases f with
      | VV_VSSUBU => exact hf' rfl
      | _ => cases hg
    have hnone : ¬ UnreportedBorrow s c (.VVTYPE f vm vs2 vs1 vd) := by
      cases f with
      | VV_VSSUBU => exact absurd rfl hf'
      | _ => exact not_false
    refine iff_of_true (saturationLaw_of_saturated (f := ⟨vm, vd, op.range, _⟩) h fun j _ => ?_)
      hnone
    rw [helem]
    exact g.elem_eq_of_satOp hop hne _ _ _

/-- The operations with a scalar operand. -/
theorem saturationLaw_vx_iff {f : Vxfunct6} {op : SatOp} {vm : BitVec 1} {vs2 rs1 vd : Regidx}
    (hf : f.satOp = some op)
    (h : (c.result s vm vd fun j =>
      f.elem s.rounding (c.read s vs2 j) (c.readX s rs1)).Holds s s') :
    SaturationLaw ⟨vm, vd, op.range,
        fun s c j => op.exact c.sew s.rounding (c.read s vs2 j) (c.readX s rs1)⟩ c s s'
      ↔ ¬ UnreportedBorrow s c (.VXTYPE f vm vs2 rs1 vd) := by
  by_cases hf' : f = .VX_VSSUBU
  · subst hf'
    cases hf
    exact saturationLaw_borrow_iff (fun _ => rfl) h
  · have hnone : ¬ UnreportedBorrow s c (.VXTYPE f vm vs2 rs1 vd) := by
      cases f with
      | VX_VSSUBU => exact absurd rfl hf'
      | _ => exact not_false
    exact iff_of_true (saturationLaw_of_saturated (f := ⟨vm, vd, op.range, _⟩) h fun j _ =>
      f.elem_eq_of_satOp hf hf' _ _ _) hnone

/-- The operations with an immediate operand. -/
theorem saturationLaw_vi {f : Vifunct6} {op : SatOp} {vm : BitVec 1} {vs2 vd : Regidx}
    {simm : BitVec 5} (hf : f.scalarForm.satOp = some op)
    (h : (c.result s vm vd fun j =>
      f.scalarForm.elem s.rounding (c.read s vs2 j) (f.operand c.sew simm)).Holds s s') :
    SaturationLaw ⟨vm, vd, op.range,
      fun s c j => op.exact c.sew s.rounding (c.read s vs2 j) (simm.signExtend c.sew)⟩ c s s' := by
  refine saturationLaw_of_saturated (f := ⟨vm, vd, op.range, _⟩) h fun j _ => ?_
  have hne : f.scalarForm ≠ .VX_VSSUBU := by
    cases f <;> exact Vxfunct6.noConfusion
  have hop : f.operand c.sew simm = simm.signExtend c.sew := by
    cases f with
    | VI_VSADDU => rfl
    | VI_VSADD => rfl
    | _ => cases hf
  rw [hop]
  exact f.scalarForm.elem_eq_of_satOp hf hne _ _ _

/-- **The saturating instructions.**  A saturating instruction that retires obeys the law, unless
an unsigned difference is negative while `vxsat` is clear, or the sign of a narrowing immediate
matters. -/
theorem saturation_law_iff {i : VextArithInst} {f : SatForm} (hi : i.satForm = some f)
    (hrun : i.execute.run s = .ok (.RETIRE_SUCCESS, s')) :
    ∃ c, ConfOf s c ∧
      (SaturationLaw f c s s' ↔ ¬ (UnreportedBorrow s c i ∨ SignedShift s c i)) := by
  cases i with
  | VVTYPE g vm vs2 vs1 vd =>
      obtain ⟨op, hop, rfl⟩ := Option.map_eq_some_iff.mp hi
      obtain ⟨c, hc, h⟩ := run_executeVVTYPE_ok hrun
      refine ⟨c, hc, (saturationLaw_vv_iff hop h).trans (not_congr ?_)⟩
      exact (or_iff_left not_false).symm
  | VXTYPE g vm vs2 rs1 vd =>
      obtain ⟨op, hop, rfl⟩ := Option.map_eq_some_iff.mp hi
      obtain ⟨c, hc, h⟩ := run_executeVXTYPE_ok hrun
      refine ⟨c, hc, (saturationLaw_vx_iff hop h).trans (not_congr ?_)⟩
      exact (or_iff_left not_false).symm
  | VITYPE g vm vs2 simm vd =>
      obtain ⟨op, hop, rfl⟩ := Option.map_eq_some_iff.mp hi
      obtain ⟨c, hc, h⟩ := run_executeVITYPE_ok hrun
      exact ⟨c, hc, iff_of_true (saturationLaw_vi hop h) (not_or.mpr ⟨not_false, not_false⟩)⟩
  | NVTYPE g vm vs2 vs1 vd =>
      cases hi
      obtain ⟨c, hc, h⟩ := run_executeNVTYPE_ok hrun
      exact ⟨c, hc, iff_of_true (saturationLaw_of_saturated (f := ⟨vm, vd, _, _⟩) h fun _ _ =>
        Nxfunct6.elem_eq _ _ _ _) (not_or.mpr ⟨not_false, not_false⟩)⟩
  | NXTYPE g vm vs2 rs1 vd =>
      cases hi
      obtain ⟨c, hc, h⟩ := run_executeNXTYPE_ok hrun
      exact ⟨c, hc, iff_of_true (saturationLaw_of_saturated (f := ⟨vm, vd, _, _⟩) h fun _ _ =>
        Nxfunct6.elem_eq _ _ _ _) (not_or.mpr ⟨not_false, not_false⟩)⟩
  | NITYPE g vm vs2 simm vd =>
      cases hi
      obtain ⟨c, hc, h⟩ := run_executeNITYPE_ok hrun
      refine ⟨c, hc, (saturationLaw_narrow_iff hc (run_narrowing_sew hc hrun) h).trans
        (not_congr ?_)⟩
      exact (or_iff_right not_false).symm
  | _ => cases hi

/-! ## A borrow without a report -/

/-- One element of 64 bits is active, `x1` is one, and `vcsr` and all elements are zero. -/
def oneElement : State :=
  { State.zero (fun _ => 0#8) with
    x := fun r => if r = 1 then 1#_ else 0#_
    vtype := 0b011000#_
    vl := 1#_ }

omit [Platform] in
/-- An instruction retires in this state. -/
theorem run_oneElement (i : VextArithInst)
    (h : letI := rv64Pmp 16 (by decide)
      (match i.execute.run oneElement with
        | .ok (.RETIRE_SUCCESS, _) => true
        | _ => false) = true) :
    letI := rv64Pmp 16 (by decide)
    ConfOf oneElement ⟨6, 0, 8⟩ ∧ ∃ s', i.execute.run oneElement = .ok (.RETIRE_SUCCESS, s') := by
  let := rv64Pmp 16 (by decide)
  refine ⟨⟨by decide, by decide, by decide, by decide⟩, ?_⟩
  split at h
  · next s' hrun => exact ⟨s', hrun⟩
  · cases h

omit [Platform] in
/-- `vssubu.vx v8, v16, x1`: the difference is clamped, and `vxsat` stays clear. -/
theorem vssubu_does_not_report :
    ¬ ∀ [Platform] (s s' : State) (i : VextArithInst) (f : SatForm), i.satForm = some f →
      i.execute.run s = .ok (.RETIRE_SUCCESS, s') →
      ∃ c, ConfOf s c ∧ SaturationLaw f c s s' := by
  intro hall
  let := rv64Pmp 16 (by decide)
  obtain ⟨hconf, s', hrun⟩ := run_oneElement (.VXTYPE .VX_VSSUBU 1#1 16#5 1#5 8#5)
    (by decide +kernel)
  obtain ⟨c, hc, hlaw⟩ := hall oneElement s' _ _ rfl hrun
  have hexec : (executeVXTYPE .VX_VSSUBU 1#1 16#5 1#5 8#5).run oneElement
      = .ok (.RETIRE_SUCCESS, s') := hrun
  obtain ⟨c', hc', h⟩ := run_executeVXTYPE_ok hexec
  obtain rfl := hc'.unique hc
  obtain rfl := hc.unique hconf
  exact (saturationLaw_vx_iff rfl h).mp hlaw
    ⟨by decide +kernel, 0, by decide +kernel, by decide +kernel⟩

/-- The same with all bits set in the element of `v16`. -/
def onesElement : State :=
  { oneElement with v := fun r => if r = 16 then 0xFFFFFFFFFFFFFFFF#65536 else 0#_ }

omit [Platform] in
/-- `vsaddu.vx v8, v16, x1` saturates, and it obeys the law. -/
theorem saturation_law_vsaddu :
    letI := rv64Pmp 16 (by decide)
    ∃ s' c, (VextArithInst.VXTYPE .VX_VSADDU 1#1 16#5 1#5 8#5).execute.run onesElement
        = .ok (.RETIRE_SUCCESS, s')
      ∧ s'.elem 64 8#5 0 = 0xFFFFFFFFFFFFFFFF#64 ∧ s'.saturatedFlag = true
      ∧ ConfOf onesElement c
      ∧ SaturationLaw ⟨1#1, 8#5, Range.unsigned, fun s c j =>
        ((c.read s 16#5 j).toNat : ℤ) + (c.readX s 1#5).toNat⟩ c onesElement s' := by
  let := rv64Pmp 16 (by decide)
  have hall : (VextArithInst.VXTYPE .VX_VSADDU 1#1 16#5 1#5 8#5).execute.passes onesElement
      (fun r s' => r == .RETIRE_SUCCESS && s'.elem 64 8#5 0 == 0xFFFFFFFFFFFFFFFF#64
        && s'.saturatedFlag) = true := by
    decide +kernel
  obtain ⟨r, s', hrun, htest⟩ := Exec.passes_iff.mp hall
  simp only [Bool.and_eq_true, beq_iff_eq] at htest
  obtain ⟨⟨rfl, helem⟩, hsat⟩ := htest
  obtain ⟨c, hc, hlaw⟩ := saturation_law_iff rfl hrun
  exact ⟨s', c, hrun, helem, hsat, hc, hlaw.mpr (not_or.mpr ⟨not_false, not_false⟩)⟩

end SailRiscv
