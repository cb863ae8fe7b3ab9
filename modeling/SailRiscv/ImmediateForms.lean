/-
# Immediate and register forms of the vector shifts

A shift by an immediate against the shift by a scalar register that holds the immediate: the
forms of one width agree, and the narrowing ones unless it matters that the sign of the immediate
is extended.
-/
import SailRiscv.Lib.TwoRuns
import SailRiscv.Saturation

namespace SailRiscv

open Bits Platform Rounding

variable [Platform] {s s' t : State}

/-! ## The forms -/

/-- The form of a shift by an immediate that shifts by the register `rs1`, and the immediate. -/
def VextArithInst.registerForm (rs1 : Regidx) : VextArithInst → Option (VextArithInst × BitVec 5)
  | .VITYPE f vm vs2 simm vd =>
      if f.isShift then some (.VXTYPE f.scalarForm vm vs2 rs1 vd, simm) else none
  | .NISTYPE f vm vs2 simm vd => some (.NXSTYPE f.scalarForm vm vs2 rs1 vd, simm)
  | .NITYPE f vm vs2 simm vd => some (.NXTYPE f.scalarForm vm vs2 rs1 vd, simm)
  | _ => none

/-- Two runs of an instruction with the same outcome in the vector registers, `vxsat` and
`vstart`. -/
def SameResult : Except ModelError (Retired × State) → Except ModelError (Retired × State) → Prop
  | .ok (a, t), .ok (a', t') =>
      a = a' ∧ t.v = t'.v ∧ t.saturatedFlag = t'.saturatedFlag ∧ t.vstart = t'.vstart
  | .error e, .error e' => e = e'
  | _, _ => False

/-- An immediate from 16 on narrows elements of 64 bits, and an active element is narrowed by it
and by 32 more to something else. -/
def SignMatters (s : State) (c : VConf) : VextArithInst → Prop
  | .NISTYPE f vm vs2 simm _ => c.sew = 32 ∧ 16 ≤ simm.toNat ∧ ∃ j,
      s.active c.n c.lmul (s.vmask vm) j = true
        ∧ f.scalarForm.elem c.sew (c.widen.read s vs2 j) simm.toNat
          ≠ f.scalarForm.elem c.sew (c.widen.read s vs2 j) (simm.toNat + 32)
  | i => SignedShift s c i

theorem sameResult_of_eq {r r' : Except ModelError (Retired × State)} (h : r = r') :
    SameResult r r' := by
  subst h
  cases r with
  | error e => exact rfl
  | ok p => exact ⟨rfl, rfl, rfl, rfl⟩

/-! ## The loop over elements that are computed -/

/-- The loop from `start` on. -/
theorem run_foreachActive_total {α : Type} {mask : ℕ → Bool} {elem : ℕ → M (Option α)}
    {f : ℕ → α} {sat : ℕ → Bool} (n start : ℕ) (b : Bool) (init : ℕ → α)
    (h : ∀ i, mask i = true → ∀ c,
      (elem i).run (s.satIf c) = .ok (some (f i), (s.satIf c).satIf (sat i))) :
    ∃ res t, (Exec.foreachTry start n init fun i r =>
      if mask i then do
        let v ← elem i
        pure (v.map (Function.update r i))
      else pure (some r) : M (Option (ℕ → α))).run (s.satIf b) = .ok (some res, t) := by
  induction n generalizing start b init with
  | zero => exact ⟨init, _, rfl⟩
  | succ n ih =>
      rw [Exec.foreachTry]
      by_cases hm : mask start = true
      · rw [if_pos hm]
        have hbody : (do
            let v ← elem start
            pure (v.map (Function.update init start)) : M (Option (ℕ → α))).run (s.satIf b)
            = .ok (some (Function.update init start (f start)),
                s.satIf (b || sat start)) := by
          rw [Exec.run_bind_of_ok (h start hm b), satIf_satIf]
          rfl
        rw [Exec.run_bind_of_ok hbody]
        exact ih (start + 1) _ _
      · rw [if_neg hm, Exec.run_bind_of_ok (Exec.run_pure _ _)]
        exact ih (start + 1) b init

/-- The loop over active elements all of which are computed. -/
theorem run_forActive_total {α : Type} {n : ℕ} {mask : ℕ → Bool} {init : ℕ → α}
    {elem : ℕ → M (Option α)} {f : ℕ → α} {sat : ℕ → Bool}
    (h : ∀ i, mask i = true → ∀ c,
      (elem i).run (s.satIf c) = .ok (some (f i), (s.satIf c).satIf (sat i))) :
    (forActive n mask init elem).run s
      = .ok (some (fun i => if i < n ∧ mask i = true then f i else init i),
          s.satIf (anySat n mask sat)) := by
  obtain ⟨res, t, hrun⟩ := run_foreachActive_total n 0 false init h
  have hcomputes : ∀ i < n, mask i = true → Computes s (elem i) (f i) (sat i) := by
    intro i _ hm c r u hu
    rw [h i hm c] at hu
    cases hu
    exact ⟨rfl, rfl⟩
  obtain ⟨hres, rfl⟩ := run_forActive_ok hcomputes hrun
  rw [show res = _ from funext hres] at hrun
  exact hrun

/-! ## The end of a clause does not depend on the elements -/

/-- Two runs with the same result. -/
def SameValue {α : Type} (a : α) (_ : State) (a' : α) (_ : State) : Prop := a = a'

theorem alike_assert (b : Bool) (msg : String) (s s' : State) :
    Exec.Alike SameValue (assert b msg) s (assert b msg) s' := by
  unfold assert
  cases b with
  | true => exact Exec.alike_pure rfl
  | false => exact Or.inl ⟨_, rfl, rfl⟩

theorem alike_wV (r : Regidx) (v v' : Vregtype) (s s' : State) :
    Exec.Alike SameValue (wV r v) s (wV r v') s' := by
  unfold wV dirtyVContext
  refine Exec.alike_bind (Exec.alike_update (R := SameValue) rfl) fun _ t _ t' _ _ _ => ?_
  refine Exec.alike_bind (R := SameValue) ?_ fun _ u _ u' _ _ _ => alike_assert _ _ u u'
  refine Exec.alike_bind (alike_assert _ _ t t') fun _ u _ u' _ _ _ => ?_
  exact Exec.alike_update rfl

theorem alike_writeVreg {n SEW : ℕ} {lmul : ℤ} {r : Regidx} (v v' : ℕ → BitVec SEW)
    (s s' : State) :
    Exec.Alike SameValue (writeVreg n SEW lmul r v) s (writeVreg n SEW lmul r v') s' := by
  unfold writeVreg
  refine Exec.alike_foreach (R := SameValue) 0 _ rfl fun i _ t _ t' _ => ?_
  refine Exec.alike_bind (alike_assert _ _ t t') fun _ u _ u' _ _ _ => ?_
  unfold writeSingleVreg
  exact Exec.alike_bind (alike_assert _ _ u u') fun _ w _ w' _ _ _ => alike_wV _ _ _ w w'

/-- Two clauses that write different elements. -/
theorem alike_writeResult {n SEW : ℕ} {lmul : ℤ} {r : Regidx} (v v' : ℕ → BitVec SEW)
    (s s' : State) :
    Exec.Alike (fun a _ a' _ => a = .RETIRE_SUCCESS ∧ a' = .RETIRE_SUCCESS)
      (do
        writeVreg n SEW lmul r v
        endVector : M Retired) s
      (do
        writeVreg n SEW lmul r v'
        endVector : M Retired) s' :=
  Exec.alike_bind (alike_writeVreg v v' s s') fun _ _ _ _ _ _ _ =>
    Or.inr ⟨_, _, _, _, rfl, rfl, rfl, rfl⟩

/-! ## Narrowing by two operands -/

section

variable {E : (c : VConf) → BitVec c.sew → (ℕ → BitVec c.widen.sew) → ℕ → M (BitVec c.sew)}
  {F : (c : VConf) → Mode → BitVec c.widen.sew → ℕ → BitVec c.sew × Bool}

/-- `E` computes the narrowed elements `F`. -/
def ComputesNarrowed
    (E : (c : VConf) → BitVec c.sew → (ℕ → BitVec c.widen.sew) → ℕ → M (BitVec c.sew))
    (F : (c : VConf) → Mode → BitVec c.widen.sew → ℕ → BitVec c.sew × Bool) : Prop :=
  ∀ c, 3 ≤ c.sewPow → ∀ b v2 i (t : State),
    (E c b v2 i).run t = .ok ((F c t.rounding (v2 i) (b.toNat % c.widen.sew)).1,
      t.satIf (F c t.rounding (v2 i) (b.toNat % c.widen.sew)).2)

/-- The end of a narrowing clause with the operand `b`. -/
def narrowEnd (E : (c : VConf) → BitVec c.sew → (ℕ → BitVec c.widen.sew) → ℕ → M (BitVec c.sew))
    (c : VConf) (vd : Regidx) (act : ℕ → Bool) (old : ℕ → BitVec c.sew)
    (v2 : ℕ → BitVec c.widen.sew) (b : BitVec c.sew) : M Retired := do
  onValue (← forActive c.n act old (fun i => value (E c b v2 i))) fun result => do
    writeVreg c.n c.sew c.lmul vd result
    endVector

/-- The loop has computed its elements. -/
theorem run_narrowEnd (hE : ComputesNarrowed E F) {c : VConf} (hc : 3 ≤ c.sewPow) (vd : Regidx)
    (act : ℕ → Bool) (old : ℕ → BitVec c.sew) (v2 : ℕ → BitVec c.widen.sew) (b : BitVec c.sew)
    (t : State) :
    (narrowEnd E c vd act old v2 b).run t = (do
      writeVreg c.n c.sew c.lmul vd (fun i => if i < c.n ∧ act i = true
        then (F c t.rounding (v2 i) (b.toNat % c.widen.sew)).1 else old i)
      endVector : M Retired).run (t.satIf (anySat c.n act fun i =>
        (F c t.rounding (v2 i) (b.toNat % c.widen.sew)).2)) := by
  have hloop : ∀ i, act i = true → ∀ z, (value (E c b v2 i)).run (t.satIf z)
      = .ok (some (F c t.rounding (v2 i) (b.toNat % c.widen.sew)).1,
          (t.satIf z).satIf (F c t.rounding (v2 i) (b.toNat % c.widen.sew)).2) := by
    intro i _ z
    have hrun := hE c hc b v2 i (t.satIf z)
    rw [rounding_satIf] at hrun
    unfold value
    rw [Exec.run_bind_of_ok hrun]
    rfl
  unfold narrowEnd
  rw [Exec.run_bind_of_ok (run_forActive_total hloop)]
  rfl

/-- Two narrowing clauses, one by an immediate and one by a register, are alike when their ends
are. -/
theorem alike_narrowing {Q : Retired → State → Retired → State → Prop} {vm : BitVec 1}
    {vd vs2 rs1 : Regidx} {u : BitVec 5} (hQ : ∀ a t, Q a t a t)
    (hend : ∀ c, ConfOf s c → c.sewPow ≤ 5 → ∀ t, SameRegs s t →
      Exec.Alike Q
        (narrowEnd E c vd (s.active c.n c.lmul (s.vmask vm)) (c.read s vd) (c.widen.read s vs2)
          (u.signExtend c.sew)) t
        (narrowEnd E c vd (s.active c.n c.lmul (s.vmask vm)) (c.read s vd) (c.widen.read s vs2)
          (c.readX s rs1)) t) :
    Exec.Alike Q (narrowing vm vd vs2 (fun c => c.imm u) E) s
      (narrowing vm vd vs2 (fun c => c.scalar rs1) E) s := by
  unfold narrowing
  refine Exec.alike_bind_same fun c s₁ hc => ?_
  obtain ⟨hconf, rfl⟩ := run_vconf_ok.mp hc
  unfold orIllegal
  refine Exec.alike_bind_same fun bad s₂ hbad => ?_
  cases hbad
  split
  · exact Exec.alike_self _ _ hQ
  refine Exec.alike_bind_same fun vmVal s₃ hvm => ?_
  obtain rfl := (inferInstance : Reads (readVmask _ _ _)).state_eq hvm
  obtain rfl := run_readVmask_ok hvm
  refine Exec.alike_bind_same fun old s₄ hold => ?_
  obtain ⟨rfl, -, rfl⟩ := run_readVreg_ok hold
  have hsrc : Exec.Alike (fun b t b' t' => b = u.signExtend c.sew ∧ b' = c.readX s₄ rs1
      ∧ t = s₄ ∧ t' = s₄) (c.imm u) s₄ (c.scalar rs1) s₄ :=
    Or.inr ⟨_, _, _, _, rfl, rfl, rfl, rfl, rfl, rfl⟩
  refine Exec.alike_bind hsrc ?_
  rintro _ _ _ _ - - ⟨rfl, rfl, rfl, rfl⟩
  refine Exec.alike_bind_same fun v2 s₅ hv2 => ?_
  obtain ⟨rfl, -, rfl⟩ := run_readVreg_ok hv2
  refine Exec.alike_bind_same fun init t hinit => ?_
  unfold initMaskedResult at hinit
  obtain ⟨body, t', hbody, hinit⟩ := Exec.run_bind_ok.mp hinit
  cases hinit
  obtain ⟨rfl, hsame, -⟩ := run_bodyOf_ok hbody
  refine Exec.alike_bind_same fun _ t₁ hassert => ?_
  obtain ⟨hle, rfl⟩ := run_assert_ok.mp hassert
  have hle : 2 ^ (c.sewPow + 1) ≤ 2 ^ 6 := of_decide_eq_true hle
  have hpow := (Nat.pow_le_pow_iff_right (by omega)).mp hle
  exact hend c hconf (by omega) t₁ hsame

/-- A zero-extended immediate in a register, as an element. -/
theorem readX_zeroExtend {c : VConf} (hc : ConfOf s c) {rs1 : Regidx} {u : BitVec 5}
    (hx : s.X rs1 = u.setWidth xlen) : c.readX s rs1 = u.setWidth c.sew := by
  obtain ⟨h₃, h₆⟩ := hc.sew_bounds
  unfold VConf.readX
  rw [hx]
  split
  · rw [BitVec.setWidth_setWidth_of_le _ (by assumption)]
  · next hgt =>
      -- elements of 64 bits on RV32: the sign bit is clear
      have hp : c.sewPow = 6 := by
        by_contra hne
        have hle : 2 ^ c.sewPow ≤ 2 ^ 5 := Nat.pow_le_pow_right (by omega) (by omega)
        have := xlen_ge
        unfold VConf.sew at hgt
        omega
      have hxlen : xlen = 32 := by
        rcases Platform.xlen_eq with h | h
        · exact h
        · unfold VConf.sew at hgt
          rw [hp] at hgt
          omega
      have hall : ∀ w m : ℕ, w = 32 → m = 64 → ∀ u : BitVec 5,
          (u.setWidth w).signExtend m = u.setWidth m := by
        rintro _ _ rfl rfl
        decide
      exact hall _ _ hxlen (by unfold VConf.sew; rw [hp]; rfl) u

/-- The amount by which the register form shifts. -/
theorem readX_shift {c : VConf} (hc : ConfOf s c) {rs1 : Regidx} {u : BitVec 5}
    (hx : s.X rs1 = u.setWidth xlen) : (c.readX s rs1).toNat = u.toNat := by
  have hlt : u.toNat < 2 ^ c.sew := by
    have hsew : 5 ≤ c.sew := by
      calc 5 ≤ 2 ^ 3 := by omega
        _ ≤ 2 ^ c.sewPow := Nat.pow_le_pow_right (by omega) hc.sew_bounds.1
    exact lt_of_lt_of_le u.isLt (Nat.pow_le_pow_right (by omega) hsew)
  rw [readX_zeroExtend hc hx, BitVec.toNat_setWidth, Nat.mod_eq_of_lt hlt]

/-- Every active element is narrowed to the same by both forms: the runs are the same. -/
theorem narrowing_eq (hE : ComputesNarrowed E F) {vm : BitVec 1} {vd vs2 rs1 : Regidx}
    {u : BitVec 5} (h : ∀ c, ConfOf s c → c.sewPow ≤ 5 → ∀ i,
      s.active c.n c.lmul (s.vmask vm) i = true →
      F c s.rounding (c.widen.read s vs2 i) ((u.signExtend c.sew).toNat % c.widen.sew)
        = F c s.rounding (c.widen.read s vs2 i) ((c.readX s rs1).toNat % c.widen.sew)) :
    (narrowing vm vd vs2 (fun c => c.imm u) E).run s
      = (narrowing vm vd vs2 (fun c => c.scalar rs1) E).run s := by
  have halike : Exec.Alike (fun a t a' t' => a = a' ∧ t = t')
      (narrowing vm vd vs2 (fun c => c.imm u) E) s
      (narrowing vm vd vs2 (fun c => c.scalar rs1) E) s := by
    refine alike_narrowing (fun _ _ => ⟨rfl, rfl⟩) fun c hc hp t ht => ?_
    have h₃ := hc.sew_bounds.1
    have hvalues : (fun i => if i < c.n ∧ s.active c.n c.lmul (s.vmask vm) i = true
          then (F c t.rounding (c.widen.read s vs2 i)
            ((u.signExtend c.sew).toNat % c.widen.sew)).1 else c.read s vd i)
        = fun i => if i < c.n ∧ s.active c.n c.lmul (s.vmask vm) i = true
          then (F c t.rounding (c.widen.read s vs2 i)
            ((c.readX s rs1).toNat % c.widen.sew)).1 else c.read s vd i := by
      funext i
      split
      · next hi => rw [ht.rounding, h c hc hp i hi.2]
      · rfl
    have hflags : anySat c.n (s.active c.n c.lmul (s.vmask vm)) (fun i =>
          (F c t.rounding (c.widen.read s vs2 i) ((u.signExtend c.sew).toNat % c.widen.sew)).2)
        = anySat c.n (s.active c.n c.lmul (s.vmask vm)) fun i =>
          (F c t.rounding (c.widen.read s vs2 i) ((c.readX s rs1).toNat % c.widen.sew)).2 := by
      unfold anySat
      congr 1
      funext i
      by_cases hi : s.active c.n c.lmul (s.vmask vm) i = true
      · dsimp only
        rw [ht.rounding, h c hc hp i hi]
      · rw [Bool.eq_false_iff.mpr hi, Bool.false_and, Bool.false_and]
    unfold Exec.Alike
    rw [run_narrowEnd hE h₃, run_narrowEnd hE h₃, hvalues, hflags]
    exact Exec.alike_self _ _ fun _ _ => ⟨rfl, rfl⟩
  rcases halike with ⟨e, he, he'⟩ | ⟨a, t, _, _, hm, hm', rfl, rfl⟩
  · rw [he, he']
  · rw [hm, hm']

/-- The runs are the same, or both forms retire. -/
theorem narrowing_alike (hE : ComputesNarrowed E F) (vm : BitVec 1) (vd vs2 rs1 : Regidx)
    (u : BitVec 5) :
    Exec.Alike (fun a t a' t' => (a = a' ∧ t = t') ∨ (a = .RETIRE_SUCCESS ∧ a' = .RETIRE_SUCCESS))
      (narrowing vm vd vs2 (fun c => c.imm u) E) s
      (narrowing vm vd vs2 (fun c => c.scalar rs1) E) s := by
  refine alike_narrowing (fun _ _ => Or.inl ⟨rfl, rfl⟩) fun c hc _ t _ => ?_
  have h₃ := hc.sew_bounds.1
  unfold Exec.Alike
  rw [run_narrowEnd hE h₃, run_narrowEnd hE h₃]
  exact (alike_writeResult _ _ _ _).mono fun _ _ _ _ h => Or.inr h

/-- The elements that a narrowing clause leaves behind. -/
theorem holds_narrowing (hE : ComputesNarrowed E F) {src1 : (c : VConf) → M (BitVec c.sew)}
    [∀ c, Reads (src1 c)] (v1 : (c : VConf) → BitVec c.sew)
    (hsrc : ∀ c v, (src1 c).run s = .ok (v, s) → v = v1 c) {vm : BitVec 1} {vd vs2 : Regidx}
    (hrun : (narrowing vm vd vs2 src1 E).run s = .ok (.RETIRE_SUCCESS, s')) :
    ∃ c, ConfOf s c ∧ (c.result s vm vd fun i =>
      F c s.rounding (c.widen.read s vs2 i) ((v1 c).toNat % c.widen.sew)).Holds s s' := by
  refine run_narrowing_ok (fun c hc v hv t ht i _ _ => ?_) hrun
  obtain rfl := hsrc c v hv
  refine computes_value fun z => ?_
  have hrun := hE c hc.sew_bounds.1 (v1 c) (c.widen.read s vs2) i (t.satIf z)
  rwa [rounding_satIf, ht.rounding] at hrun

/-- An active element that the shifts by `u` and by `u + 32` narrow to different values. -/
def NarrowsApart (F : (c : VConf) → Mode → BitVec c.widen.sew → ℕ → BitVec c.sew × Bool)
    (vm : BitVec 1) (vs2 : Regidx) (u : BitVec 5) (s : State) (c : VConf) : Prop :=
  c.sew = 32 ∧ 16 ≤ u.toNat ∧ ∃ j, s.active c.n c.lmul (s.vmask vm) j = true
    ∧ F c s.rounding (c.widen.read s vs2 j) u.toNat
      ≠ F c s.rounding (c.widen.read s vs2 j) (u.toNat + 32)

/-- What makes differences of narrowed elements visible: zero is narrowed to the same by all
shifts, and elements with the same value after shifts by `u` and `u + 32` are the same. -/
structure Narrows (F : (c : VConf) → Mode → BitVec c.widen.sew → ℕ → BitVec c.sew × Bool) :
    Prop where
  zero : ∀ c μ sh sh', F c μ 0#_ sh = F c μ 0#_ sh'
  value : ∀ c μ a sh, c.sewPow = 5 → 16 ≤ sh → (F c μ a sh).1 = (F c μ a (sh + 32)).1 →
    F c μ a sh = F c μ a (sh + 32)

/-- **The narrowing forms** agree unless the register form retires and the extended sign makes a
difference to an active element. -/
theorem narrowing_sameResult_iff (hE : ComputesNarrowed E F) (hF : Narrows F) (vm : BitVec 1)
    (vd vs2 : Regidx) {rs1 : Regidx} {u : BitVec 5} (hx : s.X rs1 = u.setWidth xlen) :
    SameResult ((narrowing vm vd vs2 (fun c => c.imm u) E).run s)
        ((narrowing vm vd vs2 (fun c => c.scalar rs1) E).run s)
      ↔ ¬ ((∃ t, (narrowing vm vd vs2 (fun c => c.scalar rs1) E).run s
            = .ok (.RETIRE_SUCCESS, t)) ∧ ∃ c, ConfOf s c ∧ NarrowsApart F vm vs2 u s c) := by
  constructor
  · rintro hsame ⟨⟨t', hreg⟩, c, hc, hsew, hu, j, hact, hne⟩
    refine hne ?_
    have hp : c.sewPow = 5 := Nat.pow_right_injective le_rfl hsew
    -- the immediate form retires as well
    cases himm : (narrowing vm vd vs2 (fun c => c.imm u) E).run s with
    | error e =>
        rw [himm, hreg] at hsame
        exact absurd hsame not_false
    | ok q =>
        obtain ⟨a, t⟩ := q
        rw [himm, hreg] at hsame
        obtain ⟨rfl, hv, -, -⟩ := hsame
        obtain ⟨c₁, hc₁, himm'⟩ :=
          holds_narrowing hE (fun c => u.signExtend c.sew) (fun _ _ h => by cases h; rfl) himm
        obtain ⟨c₂, hc₂, hreg'⟩ :=
          holds_narrowing hE (fun c => c.readX s rs1) (fun _ _ h => run_scalar_ok h) hreg
        obtain rfl := hc.unique hc₁
        obtain rfl := hc.unique hc₂
        by_cases hj : j < groupLen c.sew c.lmul
        · have hshift := signExtend_shift hc.sew_bounds.1 hp.le u
          rw [if_pos ⟨hp, hu⟩] at hshift
          have hamount : (c.readX s rs1).toNat % c.widen.sew = u.toNat := by
            have hwide : c.widen.sew = 64 := by
              show 2 ^ (c.sewPow + 1) = 64
              rw [hp]
              rfl
            have hlt := u.isLt
            rw [readX_shift hc hx, hwide]
            omega
          have h₁ := (himm'.outcome.elem j hj).trans (if_pos hact)
          have h₂ := (hreg'.outcome.elem j hj).trans (if_pos hact)
          have helem : t.elem c.sew vd j = t'.elem c.sew vd j := by
            unfold State.elem State.V
            rw [hv]
          dsimp only [VConf.result] at h₁ h₂
          rw [hamount] at h₂
          refine hF.value c _ _ _ hp hu (h₂.symm.trans (helem.symm.trans (h₁.trans ?_)))
          exact congrArg (fun k => (F c s.rounding (c.widen.read s vs2 j) k).1) hshift
        · rw [hc.read_widen_eq_zero vs2 hact hj]
          exact hF.zero _ _ _ _
  · intro hnot
    by_cases hapart : ∃ c, ConfOf s c ∧ NarrowsApart F vm vs2 u s c
    · -- the register form does not retire: both forms end in the same way
      rcases narrowing_alike (s := s) hE vm vd vs2 rs1 u with ⟨e, he, he'⟩ | ⟨a, t, a', t', h, h', hr⟩
      · rw [he, he']
        exact rfl
      · rcases hr with ⟨rfl, rfl⟩ | ⟨-, rfl⟩
        · rw [h, h']
          exact ⟨rfl, rfl, rfl, rfl⟩
        · exact absurd ⟨⟨t', h'⟩, hapart⟩ hnot
    · refine sameResult_of_eq (narrowing_eq hE fun c hc hp i hact => ?_)
      have hshift : (u.signExtend c.sew).toNat % c.widen.sew = _ :=
        signExtend_shift hc.sew_bounds.1 hp u
      have hwide : c.widen.sew = 2 ^ (c.sewPow + 1) := rfl
      rw [readX_shift hc hx, hshift, hwide]
      split
      · next hbad =>
          have hlt := u.isLt
          have hmod : u.toNat % 2 ^ (c.sewPow + 1) = u.toNat := by
            rw [hbad.1]
            omega
          rw [hmod]
          by_contra hne
          have hsew : c.sew = 32 := by
            unfold VConf.sew
            rw [hbad.1]
            rfl
          exact hapart ⟨c, hc, hsew, hbad.2, i, hact, fun heq => hne heq.symm⟩
      · rfl

end

/-! ## The instructions -/

/-- `vnsrl` and `vnsra`. -/
theorem computesNarrowed_nxs (f : Nxsfunct6) :
    ComputesNarrowed (fun c b v2 i => f.compute c.sew (v2 i) b)
      (fun c _ a sh => f.elem c.sew a sh) := by
  intro c hc b v2 i t
  have hlt : c.sewPow + 1 < 2 ^ c.sewPow := lt_two_pow_self hc
  have hpos : 0 < c.sewPow + 1 := Nat.succ_pos _
  cases f with
  | NXS_VNSRL => exact run_vnsrl _ (v2 i) b hpos hlt
  | NXS_VNSRA => exact run_vnsra _ (v2 i) b hpos hlt

/-- `vnclipu` and `vnclip`. -/
theorem computesNarrowed_nx (f : Nxfunct6) :
    ComputesNarrowed (fun c b v2 i => f.compute c.sew (v2 i) b)
      (fun c μ a sh => f.elem μ c.sew a sh) := by
  intro c hc b v2 i t
  have hlt : c.sewPow + 1 < 2 ^ c.sewPow := lt_two_pow_self hc
  have hpos : 0 < c.sewPow + 1 := Nat.succ_pos _
  have hdouble : c.sew * 2 = 2 ^ (c.sewPow + 1) := (pow_succ 2 c.sewPow).symm
  have hle : c.sew ≤ 2 ^ (c.sewPow + 1) := by omega
  cases f with
  | NX_VNCLIPU => exact run_vnclipu (v2 i) b hpos hlt hle
  | NX_VNCLIP => exact run_vnclip (v2 i) b hpos hlt hdouble

omit [Platform] in
theorem narrows_nxs (f : Nxsfunct6) : Narrows fun c _ a sh => f.elem c.sew a sh where
  zero c _ sh sh' := by
    cases f with
    | NXS_VNSRL =>
        show exactly (slice (0#_ >>> sh) 0 c.sew) = exactly (slice (0#_ >>> sh') 0 c.sew)
        rw [BitVec.zero_ushiftRight, BitVec.zero_ushiftRight]
    | NXS_VNSRA =>
        show exactly (slice (shiftRightArith 0#_ sh) 0 c.sew)
          = exactly (slice (shiftRightArith 0#_ sh') 0 c.sew)
        have hzero : (0#c.widen.sew).signExtend (c.widen.sew * 2) = 0#_ := by
          unfold BitVec.signExtend
          rw [BitVec.toInt_zero]
          rfl
        unfold shiftRightArith
        rw [hzero, BitVec.zero_ushiftRight, BitVec.zero_ushiftRight]
  value c _ a sh _ _ h := by
    refine Prod.ext h ?_
    cases f <;> rfl

omit [Platform] in
theorem narrows_nx (f : Nxfunct6) : Narrows fun c μ a sh => f.elem μ c.sew a sh where
  zero c μ sh sh' := f.elem_zero μ _ _ _ _
  value c μ a sh hp hsh h := by
    refine Nxfunct6.elem_eq_of_deep ?_ ?_ hsh h
    · show 2 ^ (c.sewPow + 1) = 64
      rw [hp]
      rfl
    · show 2 ^ c.sewPow = 32
      rw [hp]
      rfl

/-- The shifts of one width are the same by an immediate and by a register. -/
theorem run_executeVITYPE_eq {f : Vifunct6} (hf : f.isShift = true) {vm : BitVec 1}
    {vs2 vd rs1 : Regidx} {u : BitVec 5} (hx : s.X rs1 = u.setWidth xlen) :
    (executeVITYPE f vm vs2 u vd).run s = (executeVXTYPE f.scalarForm vm vs2 rs1 vd).run s := by
  have halike : Exec.Alike (fun a t a' t' => a = a' ∧ t = t') (executeVITYPE f vm vs2 u vd) s
      (executeVXTYPE f.scalarForm vm vs2 rs1 vd) s := by
    unfold executeVITYPE executeVXTYPE sameWidth
    refine Exec.alike_bind_same fun c s₁ hc => ?_
    obtain ⟨hconf, rfl⟩ := run_vconf_ok.mp hc
    unfold orIllegal
    refine Exec.alike_bind_same fun bad s₂ hbad => ?_
    cases hbad
    split
    · exact Exec.alike_self _ _ fun _ _ => ⟨rfl, rfl⟩
    refine Exec.alike_bind_same fun vmVal s₃ hvm => ?_
    obtain rfl := (inferInstance : Reads (readVmask _ _ _)).state_eq hvm
    have hsrc : Exec.Alike (fun b t b' t' => b' = u.setWidth c.sew ∧ t = s₃ ∧ t' = s₃)
        (c.imm u) s₃ (c.scalar rs1) s₃ :=
      Or.inr ⟨_, _, _, _, rfl, rfl, readX_zeroExtend hconf hx, rfl, rfl⟩
    refine Exec.alike_bind hsrc ?_
    rintro b _ _ _ - - ⟨rfl, rfl, rfl⟩
    refine Exec.alike_bind_same fun v2 s₄ _ => Exec.alike_bind_same fun old s₅ _ => ?_
    cases f with
    | VI_VADD => cases hf
    | VI_VRSUB => cases hf
    | VI_VAND => cases hf
    | VI_VOR => cases hf
    | VI_VXOR => cases hf
    | VI_VSADDU => cases hf
    | VI_VSADD => cases hf
    | _ => exact Exec.alike_self _ _ fun _ _ => ⟨rfl, rfl⟩
  rcases halike with ⟨e, he, he'⟩ | ⟨a, t, _, _, hm, hm', rfl, rfl⟩
  · rw [he, he']
  · rw [hm, hm']

/-- **Immediate and register forms of the shifts.**  A shift by an immediate does the same as the
shift by a register with the zero-extended immediate, unless it narrows elements of 64 bits by 16
or more and the extended sign makes a difference to an active element. -/
theorem immediate_forms_agree_iff {i r : VextArithInst} {rs1 : Regidx} {u : BitVec 5}
    (hi : i.registerForm rs1 = some (r, u)) (hx : s.X rs1 = u.setWidth xlen) :
    SameResult (i.execute.run s) (r.execute.run s)
      ↔ ¬ ((∃ t, r.execute.run s = .ok (.RETIRE_SUCCESS, t))
          ∧ ∃ c, ConfOf s c ∧ SignMatters s c i) := by
  cases i with
  | VITYPE f vm vs2 simm vd =>
      change (if f.isShift = true then _ else none) = _ at hi
      by_cases hf : f.isShift = true
      · rw [if_pos hf] at hi
        cases hi
        refine iff_of_true (sameResult_of_eq (run_executeVITYPE_eq hf hx)) ?_
        rintro ⟨-, c, -, hsign⟩
        exact hsign
      · rw [if_neg hf] at hi
        cases hi
  | NISTYPE f vm vs2 simm vd =>
      cases hi
      have hiff := narrowing_sameResult_iff (computesNarrowed_nxs f.scalarForm)
        (narrows_nxs f.scalarForm) vm vd vs2 hx
      cases f <;> exact hiff
  | NITYPE f vm vs2 simm vd =>
      cases hi
      have hiff := narrowing_sameResult_iff (computesNarrowed_nx f.scalarForm)
        (narrows_nx f.scalarForm) vm vd vs2 hx
      cases f <;> exact hiff
  | _ => cases hi

/-! ## A shift whose sign matters -/

/-- One element of 32 bits is active, and the element of 64 bits at `v16` is `2 ^ 16`; `x1` is 16. -/
def wideElement : State :=
  { State.zero (fun _ => 0#8) with
    x := fun r => if r = 1 then 16#_ else 0#_
    v := fun r => if r = 16 then 0x10000#_ else 0#_
    vtype := 0b010000#_
    vl := 1#_ }

omit [Platform] in
/-- `vnsrl.wi v8, v16, 16` and `vnsrl.wx v8, v16, x1`. -/
theorem vnsrl_forms_differ :
    ¬ ∀ [Platform] (s : State) (i r : VextArithInst) (rs1 : Regidx) (u : BitVec 5),
      i.registerForm rs1 = some (r, u) → s.X rs1 = u.setWidth xlen →
      SameResult (i.execute.run s) (r.execute.run s) := by
  intro hall
  let := rv64Pmp 16 (by decide)
  have hsame := hall wideElement (.NISTYPE .NIS_VNSRL 1#1 16#5 16#5 8#5)
    (.NXSTYPE .NXS_VNSRL 1#1 16#5 1#5 8#5) 1#5 16#5 rfl (by decide)
  have hdiffer : (VextArithInst.NISTYPE .NIS_VNSRL 1#1 16#5 16#5 8#5).execute.passes wideElement
      (fun _ t => (VextArithInst.NXSTYPE .NXS_VNSRL 1#1 16#5 1#5 8#5).execute.passes wideElement
        (fun _ t' => decide (t.v 8 ≠ t'.v 8))) = true := by decide +kernel
  obtain ⟨_, t, h, hdiffer⟩ := Exec.passes_iff.mp hdiffer
  obtain ⟨_, t', h', hdiffer⟩ := Exec.passes_iff.mp hdiffer
  rw [h, h'] at hsame
  exact of_decide_eq_true hdiffer (congrFun hsame.2.1 8)

omit [Platform] in
/-- `vsrl.vi v8, v16, 16` and `vsrl.vx v8, v16, x1` agree. -/
theorem immediate_forms_agree_vsrl :
    letI := rv64Pmp 16 (by decide)
    SameResult ((VextArithInst.VITYPE .VI_VSRL 1#1 16#5 16#5 8#5).execute.run wideElement)
      ((VextArithInst.VXTYPE .VX_VSRL 1#1 16#5 1#5 8#5).execute.run wideElement) := by
  let := rv64Pmp 16 (by decide)
  refine (immediate_forms_agree_iff (show VextArithInst.registerForm 1#5
    (.VITYPE .VI_VSRL 1#1 16#5 16#5 8#5) = some (_, 16#5) from rfl) (by decide)).mpr ?_
  rintro ⟨-, c, -, hsign⟩
  exact hsign

end SailRiscv
