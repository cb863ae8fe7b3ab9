/-
# Legality of vector instructions

Which vector instructions raise an illegal-instruction exception, in two states that differ in
`vl` and in the contents of the registers only.  Most clauses decide this before they read an
element; the gathers and the upward slides look at the overlap of their registers in the loop over
the active elements.
-/
import SailRiscv.Lib.Returns
import SailRiscv.Lib.TwoRuns
import SailRiscv.Insts.Ast
import SailRiscv.VextClauses

namespace SailRiscv

open Bits Platform

variable [Platform] {s t : State}

/-! ## States with the same public part -/

/-- The states differ in `vl` and the contents of the registers only, and `vstart` is zero. -/
structure SameButData (s t : State) : Prop where
  vstart : s.vstart = 0#16
  rest : t = { s with
    vl := t.vl
    v := t.v
    x := t.x
    f := t.f }

/-- What does not depend on the data is the same. -/
theorem SameButData.eq_of {α : Type} (h : SameButData s t) (f : State → α)
    (hf : ∀ (s : State) vl v x fs, f { s with
      vl := vl
      v := v
      x := x
      f := fs } = f s) : f t = f s := by
  rw [h.rest]
  exact hf s _ _ _ _

theorem SameButData.vtype (h : SameButData s t) : t.vtype = s.vtype :=
  h.eq_of State.vtype fun _ _ _ _ _ => rfl

theorem SameButData.fcsr (h : SameButData s t) : t.fcsr = s.fcsr :=
  h.eq_of State.fcsr fun _ _ _ _ _ => rfl

theorem SameButData.vstart_right (h : SameButData s t) : t.vstart = 0#16 :=
  (h.eq_of State.vstart fun _ _ _ _ _ => rfl).trans h.vstart

theorem SameButData.confOf (h : SameButData s t) (c : VConf) : ConfOf t c ↔ ConfOf s c := by
  constructor
  · intro hc
    exact ⟨h.vtype ▸ hc.sew, h.vtype ▸ hc.lmul, hc.n, hc.pos⟩
  · intro hc
    exact ⟨h.vtype ▸ hc.sew, h.vtype ▸ hc.lmul, hc.n, hc.pos⟩

/-- A computation that does not see the data. -/
abbrev Public {α : Type} (m : M α) : Prop := Exec.Public SameButData m

instance (c : Bool) (msg : String) : Public (assert c msg) := by
  unfold assert
  infer_instance

instance : Public getSewPow := Exec.public_checks fun h => by rw [h.vtype]

instance : Public getLmulPow := Exec.public_checks fun h => by rw [h.vtype]

instance : Public getSew := by
  unfold getSew
  infer_instance

instance (lmul : ℤ) (SEW : ℕ) : Public (getNumElem lmul SEW) := by
  unfold getNumElem
  infer_instance

instance : Public vconf := by
  unfold vconf
  infer_instance

instance : Public getFrm := Exec.public_reads fun h => by rw [h.fcsr]

/-- At `vstart` zero there is no trap. -/
theorem run_getStartElement_zero (h : s.vstart = 0#16) :
    getStartElement.run s = (do
      let _ ← getSewPow
      pure 0 : M ℕ).run s := by
  have hzero : s.vstart.toNat = 0 := by rw [h]; rfl
  unfold getStartElement
  rw [Exec.run_bind_of_ok (Exec.run_reads _ _), hzero]
  rfl

instance : Public getStartElement where
  run_cases h := by
    have hpublic : Public (getSewPow >>= fun _ => pure 0 : M ℕ) := inferInstance
    rw [run_getStartElement_zero h.vstart, run_getStartElement_zero h.vstart_right]
    exact hpublic.run_cases h

/-! ## Illegal instructions -/

/-- The execution takes the trap of an illegal instruction. -/
def RaisesIllegal (m : M Retired) (s : State) : Prop := ∃ s', m.run s = .ok (.RETIRE_FAIL, s')

/-- The trap of an illegal instruction can be taken: its vector and its privilege are valid. -/
def TakesTrap (s : State) : Prop := ∃ s', handleIllegal.run s = .ok ((), s')

/-- The data does not matter for a trap. -/
theorem TrapEntry.exists_of_sameButData {intr : Bool} {c : BitVec 8} {info : Option Xlenbits}
    {p : Privilege} {s' : State} (h : SameButData s t) (hs : TrapEntry intr c info s p s') :
    ∃ t', TrapEntry intr c info t p t' := by
  rw [h.rest]
  cases hs with
  | machine ht => exact ⟨_, .machine ht⟩
  | supervisor hS hpriv ht => exact ⟨_, .supervisor hS hpriv ht⟩

/-- What `handle_illegal` passes to the trap handler. -/
def illegalInfo (s : State) : Option Xlenbits :=
  if platMtvalHasIllegalInstBits then some s.instbits else none

/-- A trap of an illegal instruction is an entry into the trap handler. -/
theorem run_handleIllegal_iff :
    TakesTrap s ↔ ∃ s', TrapEntry false (exceptionTypeToBits .E_Illegal_Instr) (illegalInfo s) s
      (exceptionDelegatee s .E_Illegal_Instr s.curPrivilege) s' := by
  have hrun : handleIllegal.run s = (handleSync ⟨.E_Illegal_Instr, illegalInfo s⟩).run s := by
    unfold handleIllegal illegalInfo
    cases platMtvalHasIllegalInstBits <;> rfl
  unfold TakesTrap
  rw [hrun]
  constructor
  · rintro ⟨s', h⟩
    exact ⟨s', handleSync_cases h⟩
  · rintro ⟨s', h⟩
    obtain ⟨target, s₁, hhandler, -⟩ := trapHandler_of_entry h
    refine ⟨{ s₁ with nextPC := target }, ?_⟩
    unfold handleSync exceptionHandler
    rw [Exec.run_bind_of_ok (Exec.run_reads _ _), Exec.run_bind_of_ok (Exec.run_reads _ _)]
    refine Exec.run_bind_ok.mpr ⟨target, s₁, ?_, rfl⟩
    rw [Exec.run_bind_of_ok (Exec.run_reads _ _)]
    exact hhandler

theorem SameButData.takesTrap (h : SameButData s t) : TakesTrap s → TakesTrap t := by
  rw [run_handleIllegal_iff, run_handleIllegal_iff]
  rintro ⟨s', hs⟩
  have hinfo : illegalInfo t = illegalInfo s := h.eq_of illegalInfo fun _ _ _ _ _ => rfl
  have hpriv : exceptionDelegatee t .E_Illegal_Instr t.curPrivilege
      = exceptionDelegatee s .E_Illegal_Instr s.curPrivilege :=
    h.eq_of (fun s => exceptionDelegatee s .E_Illegal_Instr s.curPrivilege) fun _ _ _ _ _ => rfl
  rw [hinfo, hpriv]
  exact hs.exists_of_sameButData h

theorem SameButData.symm (h : SameButData s t) : SameButData t s := by
  refine ⟨h.vstart_right, ?_⟩
  rw [h.rest]

theorem SameButData.takesTrap_iff (h : SameButData s t) : TakesTrap t ↔ TakesTrap s :=
  ⟨h.symm.takesTrap, h.takesTrap⟩

/-- The clause `illegal` raises the exception. -/
theorem raisesIllegal_illegal : RaisesIllegal illegal s ↔ TakesTrap s := by
  constructor
  · rintro ⟨s', h⟩
    obtain ⟨_, s₁, htrap, -⟩ := Exec.run_bind_ok.mp h
    exact ⟨s₁, htrap⟩
  · rintro ⟨s', h⟩
    exact ⟨s', Exec.run_bind_ok.mpr ⟨(), s', h, rfl⟩⟩

/-- The rest of a sequence after a part that has completed. -/
theorem raisesIllegal_bind_of_ok {α : Type} {m : M α} {k : α → M Retired} {a : α} {s' : State}
    (h : m.run s = .ok (a, s')) : RaisesIllegal (m >>= k) s ↔ RaisesIllegal (k a) s' := by
  unfold RaisesIllegal
  rw [Exec.run_bind_of_ok h]

/-- A check, and the rest of the clause. -/
theorem raisesIllegal_orIllegal {bad : State → Bool} {k : M Retired} :
    RaisesIllegal (orIllegal bad k) s
      ↔ if bad s = true then TakesTrap s else RaisesIllegal k s := by
  unfold orIllegal
  rw [raisesIllegal_bind_of_ok (Exec.run_reads _ _)]
  split
  · exact raisesIllegal_illegal
  · exact Iff.rfl

/-! ## Clauses that decide before they read an element -/

/-- A clause that never fails. -/
abbrev NeverFails (m : M Retired) : Prop := Exec.Returns (· = .RETIRE_SUCCESS) m

/-- The computation of an element that never ends the clause. -/
abbrev GoesOn {α : Type} (m : M (Option α)) : Prop := Exec.Returns (· ≠ none) m

/-- Whether `m` raises the exception in a state is whether `m'` does in one with other data. -/
class DecideAlike (m m' : M Retired) : Prop where
  raises_iff : ∀ {s t}, SameButData s t → (RaisesIllegal m s ↔ RaisesIllegal m' t)

/-- Whether the clause raises the exception does not depend on the data. -/
abbrev DecidesEarly (m : M Retired) : Prop := DecideAlike m m

/-- A clause that never fails raises nothing. -/
theorem not_raises_of_neverFails {m : M Retired} (h : NeverFails m) : ¬ RaisesIllegal m s := by
  rintro ⟨s', hrun⟩
  cases h.holds hrun

instance (priority := low) decideAlike_of_neverFails (m m' : M Retired) [h : NeverFails m]
    [h' : NeverFails m'] : DecideAlike m m' where
  raises_iff _ := iff_of_false (not_raises_of_neverFails h) (not_raises_of_neverFails h')

/-- A part that does not see the data. -/
theorem raisesIllegal_bind_iff {α : Type} {m : M α} {k k' : α → M Retired} (hm : Public m)
    (h : SameButData s t) (hk : ∀ a, m.run s = .ok (a, s) → m.run t = .ok (a, t) →
      (RaisesIllegal (k a) s ↔ RaisesIllegal (k' a) t)) :
    RaisesIllegal (m >>= k) s ↔ RaisesIllegal (m >>= k') t := by
  rcases hm.run_cases h with ⟨a, ha, ha'⟩ | ⟨e, he, he'⟩
  · rw [raisesIllegal_bind_of_ok ha, raisesIllegal_bind_of_ok ha']
    exact hk a ha ha'
  · unfold RaisesIllegal
    rw [Exec.run_bind_of_error he, Exec.run_bind_of_error he']

instance decideAlike_bind {α : Type} (m : M α) (k k' : α → M Retired) [hm : Public m]
    [hk : ∀ a, DecideAlike (k a) (k' a)] : DecideAlike (m >>= k) (m >>= k') where
  raises_iff h := raisesIllegal_bind_iff hm h fun a _ _ => (hk a).raises_iff h

instance (p : Prop) [Decidable p] (m m' n n' : M Retired) [DecideAlike m m']
    [DecideAlike n n'] : DecideAlike (if p then m else n) (if p then m' else n') := by
  split <;> infer_instance

/-- The end of the body depends on `vl`. -/
instance (k k' : ℤ → M Retired) [hk : ∀ a b, DecideAlike (k a) (k' b)] :
    DecideAlike (getEndElement >>= k) (getEndElement >>= k') where
  raises_iff h := by
    unfold getEndElement
    rw [raisesIllegal_bind_of_ok (Exec.run_reads _ _),
      raisesIllegal_bind_of_ok (Exec.run_reads _ _)]
    exact (hk _ _).raises_iff h

/-- A check that does not see the data. -/
class PublicCheck (bad : State → Bool) : Prop where
  same : ∀ {s t}, SameButData s t → bad t = bad s

instance (bad : State → Bool) (k k' : M Retired) [hbad : PublicCheck bad] [hk : DecideAlike k k'] :
    DecideAlike (orIllegal bad k) (orIllegal bad k') where
  raises_iff h := by
    rw [raisesIllegal_orIllegal, raisesIllegal_orIllegal, hbad.same h]
    split
    · exact h.takesTrap_iff.symm
    · exact hk.raises_iff h

/-! ## The checks -/

/-- A check that other data leaves alone. -/
theorem publicCheck_of {bad : State → Bool} (h : ∀ (s : State) vl v x fs, bad { s with
    vl := vl
    v := v
    x := x
    f := fs } = bad s) : PublicCheck bad where
  same hst := hst.eq_of bad h

instance (b : Bool) : PublicCheck (fun _ => b) := publicCheck_of fun _ _ _ _ _ => rfl

instance (a b : State → Bool) [ha : PublicCheck a] [hb : PublicCheck b] :
    PublicCheck (fun s => a s || b s) where
  same h := by rw [ha.same h, hb.same h]

instance (i : ℕ) : PublicCheck (fun s => !assertVstart s i) :=
  publicCheck_of fun _ _ _ _ _ => rfl

instance (vd : Regidx) (vm : BitVec 1) : PublicCheck (fun s => illegalNormal s vd vm) :=
  publicCheck_of fun _ _ _ _ _ => rfl

instance (vd : Regidx) : PublicCheck (fun s => illegalVdMasked s vd) :=
  publicCheck_of fun _ _ _ _ _ => rfl

instance : PublicCheck illegalVdUnmasked := publicCheck_of fun _ _ _ _ _ => rfl

instance (vd : Regidx) (vm : BitVec 1) (SEW : ℕ) (LMUL : ℤ) :
    PublicCheck (fun s => illegalVariableWidth s vd vm SEW LMUL) :=
  publicCheck_of fun _ _ _ _ _ => rfl

instance : PublicCheck illegalReduction := publicCheck_of fun _ _ _ _ _ => rfl

instance (SEW : ℕ) (LMUL : ℤ) : PublicCheck (fun s => illegalReductionWiden s SEW LMUL) :=
  publicCheck_of fun _ _ _ _ _ => rfl

instance (vd : Regidx) (vm : BitVec 1) (SEW : ℕ) (rm : BitVec 3) :
    PublicCheck (fun s => illegalFpNormal s vd vm SEW rm) :=
  publicCheck_of fun _ _ _ _ _ => rfl

instance (vd : Regidx) (SEW : ℕ) (rm : BitVec 3) :
    PublicCheck (fun s => illegalFpVdMasked s vd SEW rm) :=
  publicCheck_of fun _ _ _ _ _ => rfl

instance (SEW : ℕ) (rm : BitVec 3) : PublicCheck (fun s => illegalFpVdUnmasked s SEW rm) :=
  publicCheck_of fun _ _ _ _ _ => rfl

instance (vd : Regidx) (vm : BitVec 1) (SEW : ℕ) (rm : BitVec 3) (SEWnew : ℕ) (LMULnew : ℤ) :
    PublicCheck (fun s => illegalFpVariableWidth s vd vm SEW rm SEWnew LMULnew) :=
  publicCheck_of fun _ _ _ _ _ => rfl

instance (SEW : ℕ) (rm : BitVec 3) : PublicCheck (fun s => illegalFpReduction s SEW rm) :=
  publicCheck_of fun _ _ _ _ _ => rfl

instance (SEW : ℕ) (rm : BitVec 3) (SEWwiden : ℕ) (LMULwiden : ℤ) :
    PublicCheck (fun s => illegalFpReductionWiden s SEW rm SEWwiden LMULwiden) :=
  publicCheck_of fun _ _ _ _ _ => rfl

/-! ## The parts of a clause -/

instance : NeverFails endVector := by
  unfold endVector
  have : NeverFails (pure .RETIRE_SUCCESS) := Exec.returns_pure rfl
  infer_instance

instance (c : VConf) (k : FpFormat → M Retired) [∀ f, NeverFails (k f)] :
    NeverFails (onFormat c k) := by
  unfold onFormat
  infer_instance

instance (c : VConf) (k : FpFormat → M Retired) [∀ f, NeverFails (k f)] :
    NeverFails (onNarrowFormat c k) := by
  unfold onNarrowFormat
  infer_instance

instance (k : M Retired) [NeverFails k] : NeverFails (unlessEmpty k) := by
  have : NeverFails (pure .RETIRE_SUCCESS) := Exec.returns_pure rfl
  unfold unlessEmpty
  infer_instance

instance {α : Type} (a : α) : GoesOn (just a) := Exec.returns_pure (Option.some_ne_none a)

instance {α : Type} (m : M α) : GoesOn (value m) := by
  have (a : α) : GoesOn (pure (some a)) := Exec.returns_pure (Option.some_ne_none a)
  unfold value
  infer_instance

/-- The loop over the active elements. -/
theorem goesOn_forActive {α : Type} (n : ℕ) (mask : ℕ → Bool) (init : ℕ → α)
    {elem : ℕ → M (Option α)} (h : ∀ i, GoesOn (elem i)) :
    GoesOn (forActive n mask init elem) := by
  refine Exec.returns_foreachTry 0 n init ?_
  intro i acc
  split
  · refine Exec.returns_bind_of (h i) ?_
    intro v hv
    refine Exec.returns_pure ?_
    cases v with
    | none => exact absurd rfl hv
    | some a => exact Option.some_ne_none _
  · exact Exec.returns_pure (Option.some_ne_none acc)

/-- The loop over the active elements, and the end of the clause. -/
instance {α : Type} (n : ℕ) (mask : ℕ → Bool) (init : ℕ → α) (elem : ℕ → M (Option α))
    (k : (ℕ → α) → M Retired) [h : ∀ i, GoesOn (elem i)] [hk : ∀ r, NeverFails (k r)] :
    NeverFails (forActive n mask init elem >>= fun r => onValue r k) := by
  refine Exec.returns_bind_of (goesOn_forActive n mask init h) ?_
  intro r hr
  cases r with
  | none => exact absurd rfl hr
  | some a => exact hk a

instance (n SEW : ℕ) (lmul : ℤ) (vd : Regidx) (old : ℕ → BitVec SEW) (vm : ℕ → Bool)
    (elem : ℕ → M (Option (BitVec SEW))) [∀ i, GoesOn (elem i)] :
    NeverFails (writeElems n SEW lmul vd old vm elem) := by
  unfold writeElems
  infer_instance

instance (n : ℕ) (vd : Regidx) (init : M ((ℕ → Bool) × (ℕ → Bool))) (elem : ℕ → Bool) :
    NeverFails (writeMaskElems n vd init elem) := by
  unfold writeMaskElems
  infer_instance

/-! ## Clauses of integer arithmetic -/

section

variable {vm : BitVec 1} {vd vs2 vs1 rs1 rd : Regidx}

/-- The clauses with operands and a result of one width. -/
theorem decidesEarly_sameWidth {β : VConf → Type} {src1 : (c : VConf) → M (β c)}
    {elem : (c : VConf) → β c → (v2 old : ℕ → BitVec c.sew) → ℕ → M (Option (BitVec c.sew))}
    (h : ∀ c v1 v2 old i, GoesOn (elem c v1 v2 old i)) :
    DecidesEarly (sameWidth vm vd vs2 src1 elem) := by
  unfold sameWidth
  infer_instance

instance {β : VConf → Type} (src1 : (c : VConf) → M (β c))
    (elem : (c : VConf) → β c → (ℕ → BitVec c.widen.sew) → ℕ → M (BitVec c.sew)) :
    DecidesEarly (narrowing vm vd vs2 src1 elem) := by
  unfold narrowing
  infer_instance

instance {β γ : VConf → Type} (overlap : VConf → Bool) (src1 : (c : VConf) → M (β c))
    (src2 : (c : VConf) → M (γ c))
    (elem : (c : VConf) → β c → γ c → (ℕ → BitVec c.widen.sew) → ℕ → BitVec c.widen.sew) :
    DecidesEarly (widening vm vd overlap src1 src2 elem) := by
  unfold widening
  infer_instance

instance (k : ℕ) (signed : Bool) : DecidesEarly (extension k signed vm vs2 vd) := by
  unfold extension
  infer_instance

instance (src1 : Src1) : DecidesEarly (executeMerge vs2 vd src1) := by
  unfold executeMerge
  infer_instance

instance (src1 : Src1) : DecidesEarly (executeMove vd src1) := by
  unfold executeMove
  infer_instance

instance (simm : BitVec 5) : DecidesEarly (executeVMVRTYPE vs2 simm vd) := by
  unfold executeVMVRTYPE
  infer_instance

instance : DecidesEarly (executeVMVXS vs2 rd) := by
  unfold executeVMVXS
  infer_instance

instance : DecidesEarly (executeVMVSX rs1 vd) := by
  unfold executeVMVSX
  infer_instance

instance : DecidesEarly (executeMVVCOMPRESS vs2 vs1 vd) := by
  unfold executeMVVCOMPRESS
  infer_instance

/-! ## Clauses with masks, and reductions -/

instance (src1 : Src1) (op : {m : ℕ} → (a b : BitVec m) → ℕ → Bool) :
    DecidesEarly (carryInOut vs2 vd src1 op) := by
  unfold carryInOut
  infer_instance

instance (src1 : Src1) (op : {m : ℕ} → (a b : BitVec m) → ℕ → Bool) :
    DecidesEarly (carryOutOnly vs2 vd src1 op) := by
  unfold carryOutOnly
  infer_instance

instance (src1 : Src1) (op : {m : ℕ} → (a b : BitVec m) → ℕ → BitVec m) :
    DecidesEarly (carryIn vs2 vd src1 op) := by
  unfold carryIn
  infer_instance

instance (src1 : Src1) (op : {m : ℕ} → (a b : BitVec m) → Bool) :
    DecidesEarly (vectorCompare vm vs2 vd src1 op) := by
  unfold vectorCompare
  infer_instance

instance (result : (ℕ → Bool) → Xlenbits) : DecidesEarly (maskToX vm vs2 rd result) := by
  unfold maskToX
  infer_instance

instance (result : (mask v2 : ℕ → Bool) → ℕ → Bool) :
    DecidesEarly (maskToMask vm vs2 vd result) := by
  unfold maskToMask
  infer_instance

instance (i : VextMaskInst) : DecidesEarly i.execute := by
  unfold VextMaskInst.execute executeMMTYPE executeVCPOP_M executeVFIRST_M executeVMSBF_M
    executeVMSIF_M executeVMSOF_M executeVIOTA_M executeVID_V
  cases i <;> infer_instance

instance {m : ℕ} (n numElemVd o : ℕ) (lmul : ℤ) (readVs2 : M (ℕ → BitVec m))
    (elem : BitVec m → BitVec o → BitVec o) :
    NeverFails (reduce n numElemVd o lmul vm vs1 vd readVs2 elem) := by
  unfold reduce
  infer_instance

instance (i : VextRedInst) : DecidesEarly i.execute := by
  unfold VextRedInst.execute executeRIVVTYPE executeRMVVTYPE
  cases i <;> infer_instance

instance (i : VextVmInst) : DecidesEarly i.execute := by
  unfold VextVmInst.execute executeVVMTYPE executeVVMCTYPE executeVVMSTYPE executeVVCMPTYPE
    executeVXMTYPE executeVXMCTYPE executeVXMSTYPE executeVXCMPTYPE executeVIMTYPE executeVIMCTYPE
    executeVIMSTYPE executeVICMPTYPE
  cases i <;> infer_instance

/-! ## Floating-point clauses -/

/-- The clauses with one width of elements. -/
theorem decidesEarly_fpSameWidth {β : FpFormat → Type} {src1 : VConf → (f : FpFormat) → M (β f)}
    {elem : VConf → BitVec 3 → (f : FpFormat) → β f → (v2 old : ℕ → BitVec f.width) → ℕ →
      M (Option (BitVec f.width))} (h : ∀ c rm f v1 v2 old i, GoesOn (elem c rm f v1 v2 old i)) :
    DecidesEarly (fpSameWidth vm vd vs2 src1 elem) := by
  unfold fpSameWidth
  infer_instance

instance {β γ : FpFormat → Type} (overlap : VConf → Bool)
    (src1 : VConf → (f : FpFormat) → M (β f)) (src2 : VConf → (f : FpFormat) → M (γ f))
    (elem : BitVec 3 → (f : FpFormat) → β f → γ f → (old : ℕ → BitVec f.widen.width) → ℕ →
      M (BitVec f.widen.width)) : DecidesEarly (fpWidening vm vd overlap src1 src2 elem) := by
  unfold fpWidening
  infer_instance

instance {β : FpFormat → Type} (src1 : VConf → (f : FpFormat) → M (β f))
    (elem : (f : FpFormat) → β f → (ℕ → BitVec f.width) → ℕ → M Bool) :
    DecidesEarly (fpCompare vm vd vs2 src1 elem) := by
  unfold fpCompare
  infer_instance

instance {m : ℕ} (g : FpFormat) (n numElemVd : ℕ) (lmul : ℤ) (readVs2 : M (ℕ → BitVec m))
    (elem : BitVec g.width → BitVec m → M (BitVec g.width)) :
    NeverFails (fpReduce g n numElemVd lmul vm vs1 vd readVs2 elem) := by
  unfold fpReduce
  infer_instance

/-- The upward slide without an overlap. -/
theorem goesOn_slide1Up {m : ℕ} (x : BitVec m) (v2 : ℕ → BitVec m) (i : ℕ) :
    GoesOn (slide1Up false x v2 i) := by
  unfold slide1Up
  rw [if_neg Bool.false_ne_true]
  infer_instance

instance {m : ℕ} (n : ℕ) (x : BitVec m) (v2 : ℕ → BitVec m) (i : ℕ) :
    GoesOn (slide1Down n x v2 i) := by
  unfold slide1Down
  infer_instance

/-- The gathers without an overlap. -/
theorem goesOn_gather (c : VConf) (idx : M ℕ) (v2 : ℕ → BitVec c.sew) :
    GoesOn (gather c false idx v2) := by
  unfold gather
  rw [if_neg Bool.false_ne_true]
  infer_instance

/-- The upward slides without an overlap. -/
theorem goesOn_slideUp (c : VConf) (offset : ℕ) (v2 old : ℕ → BitVec c.sew) (i : ℕ) :
    GoesOn (slideUp c false offset v2 old i) := by
  unfold slideUp
  rw [if_neg Bool.false_ne_true]
  infer_instance

instance (c : VConf) (offset : ℕ) (v2 : ℕ → BitVec c.sew) (i : ℕ) :
    GoesOn (slideDown c offset v2 i) := by
  unfold slideDown
  infer_instance

end

end SailRiscv
