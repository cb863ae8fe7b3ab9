/-
# Restarts of whole-register loads and stores

The loops of `VLRETYPE` and `VSRETYPE`, which go over the rest of a register and then over the
registers after it, do one access after the other (`run_loops`).  So an exception ends them at
one element, which `vstart` names, after the accesses before it, and the execution from a state
that these accesses reach ends as the execution from their start does
(`whole_register_resumes`).
-/
import SailRiscv.Lib.Elements
import SailRiscv.Lib.Returns
import SailRiscv.VextLateChecks
import SailRiscv.WholeRegister

namespace SailRiscv

open Bits Platform

variable [Platform]

/-! ## What an access keeps -/

section Elements

variable {α : Type} {R : State → State → Prop} [TlbClosed R]
  {fault : Xlenbits → ExceptionType → M α} (rs1 : Regidx) (offset : ℤ) (bytes : ℕ)

instance keeps_loadElem (k : BitVec (8 * bytes) → M α) [∀ a e, Exec.Keeps R (fault a e)]
    [∀ v, Exec.Keeps R (k v)] : Exec.Keeps R (loadElem fault rs1 offset bytes k) := by
  unfold loadElem extDataGetAddr
  infer_instance

instance keeps_storeElem (elem : M (BitVec (8 * bytes))) (k : M α)
    [∀ a e, Exec.Keeps R (fault a e)] [Exec.Keeps R elem] [Exec.Keeps R k] :
    Exec.Keeps R (storeElem fault rs1 offset bytes elem k) := by
  have hstored (vaddr : Xlenbits) (r : MemoryOpResult Bool) : Exec.Keeps R
      (onStored (fault vaddr) r "store got false from mem_write_value" k) := by
    unfold onStored
    infer_instance
  unfold storeElem extDataGetAddr
  refine @Exec.keeps_bind _ _ _ _ _ _ _ _ _ (fun vaddr => ?_)
  refine @Exec.keeps_ite _ _ _ _ _ _ _ _ inferInstance ?_
  refine @Exec.keeps_bind _ _ _ _ _ _ _ _ _ (fun r => ?_)
  refine @keeps_onAddress _ _ _ _ _ _ _ (fun pa => ?_)
  refine @Exec.keeps_bind _ _ _ _ _ _ _ _ _ (fun r => ?_)
  refine @keeps_onMemValue _ _ _ _ _ _ _ _ (fun u => ?_)
  refine @Exec.keeps_bind _ _ _ _ _ _ _ _ _ (fun v => ?_)
  refine @Exec.keeps_bind _ _ _ _ _ _ _ _ ?_ (fun r => ?_)
  · infer_instance
  · exact hstored _ r

variable {P : α → Prop}

omit [TlbClosed R] in
theorem returns_loadElem {k : BitVec (8 * bytes) → M α} (hf : ∀ a e, Exec.Returns P (fault a e))
    (hk : ∀ v, Exec.Returns P (k v)) : Exec.Returns P (loadElem fault rs1 offset bytes k) := by
  unfold loadElem onAddress onMemValue
  refine @Exec.returns_bind _ _ _ _ _ _ _ (fun vaddr => ?_)
  refine @Exec.returns_ite _ _ _ _ _ _ _ _ (hf _ _) ?_
  refine @Exec.returns_bind _ _ _ _ _ _ _ (fun r => ?_)
  cases r with
  | TR_Failure e => exact hf _ e
  | TR_Address pa =>
      refine @Exec.returns_bind _ _ _ _ _ _ _ (fun r => ?_)
      cases r with
      | MemException e => exact hf _ e
      | MemValue v => exact hk v

omit [TlbClosed R] in
theorem returns_storeElem {elem : M (BitVec (8 * bytes))} {k : M α}
    (hf : ∀ a e, Exec.Returns P (fault a e)) (hk : Exec.Returns P k) :
    Exec.Returns P (storeElem fault rs1 offset bytes elem k) := by
  unfold storeElem onAddress onStored onMemValue
  refine @Exec.returns_bind _ _ _ _ _ _ _ (fun vaddr => ?_)
  refine @Exec.returns_ite _ _ _ _ _ _ _ _ (hf _ _) ?_
  refine @Exec.returns_bind _ _ _ _ _ _ _ (fun r => ?_)
  cases r with
  | TR_Failure e => exact hf _ e
  | TR_Address pa =>
      refine @Exec.returns_bind _ _ _ _ _ _ _ (fun r => ?_)
      cases r with
      | MemException e => exact hf _ e
      | MemValue u =>
          refine @Exec.returns_bind _ _ _ _ _ _ _ (fun v => ?_)
          refine @Exec.returns_bind _ _ _ _ _ _ _ (fun r => ?_)
          cases r with
          | MemException e => exact hf _ e
          | MemValue b =>
              cases b with
              | false => exact Exec.returns_abort _ _
              | true => exact hk

end Elements

instance : TlbClosed Frame where
  refl _ := rfl
  trans _ _ _ h₁ h₂ := Eq.trans h₂ h₁
  devices _ _ := rfl
  store _ _ _ _ _ := rfl
  tlb _ _ _ := rfl

/-- `vstart` is the same in both states. -/
def SameVstart (s s' : State) : Prop := s'.vstart = s.vstart

instance : TlbClosed SameVstart where
  refl _ := rfl
  trans _ _ _ h₁ h₂ := Eq.trans h₂ h₁
  devices _ _ := rfl
  store _ _ _ _ _ := rfl
  tlb _ _ _ := rfl

instance : Exec.Keeps SameVstart dirtyVContext := by
  have := Exec.keeps_update (R := SameVstart) (ε := ModelError) (f := fun s => { s with
    mstatus := Mstatus.SD.set (Mstatus.VS.set s.mstatus (extStatusToBits .Dirty)) 1#1 })
    (fun _ => rfl)
  unfold dirtyVContext
  infer_instance

section Registers

variable {R : State → State → Prop} [TlbClosed R]

theorem keeps_wV [Exec.Keeps R dirtyVContext] (hset : ∀ s v, R s { s with v := v }) (r : Regidx)
    (v : Vregtype) : Exec.Keeps R (wV r v) := by
  have := Exec.keeps_update (R := R) (ε := ModelError)
    (f := fun s => { s with v := Function.update s.v r.toFin v }) (fun s => hset s _)
  unfold wV
  infer_instance

/-- What only reads keeps the relation. -/
theorem keeps_of_reads {α : Type} {m : M α} (h : Reads m) : Exec.Keeps R m where
  rel {s a s'} hm := by
    rw [h.state_eq hm]
    exact Std.Refl.refl s

instance keeps_readSingleVreg (numElem SEW : ℕ) (r : Regidx) :
    Exec.Keeps R (readSingleVreg numElem SEW r) := keeps_of_reads inferInstance

instance keeps_divOrError (n d : ℕ) : Exec.Keeps R (divOrError n d) := by
  unfold divOrError
  infer_instance

instance keeps_readSingleElement (EEW index : ℕ) (r : Regidx) :
    Exec.Keeps R (readSingleElement EEW index r) := by
  unfold readSingleElement
  infer_instance

instance keeps_readVreg (numElem SEW : ℕ) (lmul : ℤ) (r : Regidx) :
    Exec.Keeps R (readVreg numElem SEW lmul r) := keeps_of_reads inferInstance

theorem keeps_writeSingleElement [Exec.Keeps R dirtyVContext]
    (hset : ∀ s v, R s { s with v := v }) (EEW index : ℕ) (r : Regidx) (v : BitVec EEW) :
    Exec.Keeps R (writeSingleElement EEW index r v) := by
  have := keeps_wV hset
  unfold writeSingleElement
  infer_instance

end Registers

/-- The vector registers are the same in both states. -/
def SameV (s s' : State) : Prop := s'.v = s.v

instance : TlbClosed SameV where
  refl _ := rfl
  trans _ _ _ h₁ h₂ := Eq.trans h₂ h₁
  devices _ _ := rfl
  store _ _ _ _ _ := rfl
  tlb _ _ _ := rfl

/-- A run of the access to element `curElem` sets `vstart` to it; the next element follows unless
an exception ends the loop. -/
structure ElemStep (m : ℕ → M (Option ℕ)) : Prop where
  vstart : ∀ {curElem s r s'}, (m curElem).run s = .ok (r, s') →
    s'.vstart = BitVec.ofNat 16 curElem
  next : ∀ {curElem s r s'}, (m curElem).run s = .ok (r, s') → r = none ∨ r = some (curElem + 1)

/-- A handler that ends the loop and leaves `vstart` and the vector registers alone. -/
class LoopExit (fault : Xlenbits → ExceptionType → M (Option ℕ)) : Prop where
  keeps : ∀ a e, Exec.Keeps SameVstart (fault a e)
  keepsV : ∀ a e, Exec.Keeps SameV (fault a e)
  returns : ∀ a e, Exec.Returns (· = none) (fault a e)

instance : LoopExit faultExit where
  keeps a e := by
    refine ⟨fun {s r s'} h => ?_⟩
    obtain ⟨_, s₁, hm, hp⟩ := Exec.run_bind_ok.mp h
    cases hp
    exact congrArg VecRegs.vstart (handleSync_cases hm).sameRegs.vec
  keepsV a e := by
    refine ⟨fun {s r s'} h => ?_⟩
    obtain ⟨_, s₁, hm, hp⟩ := Exec.run_bind_ok.mp h
    cases hp
    exact congrArg VecRegs.v (handleSync_cases hm).sameRegs.vec
  returns a e := @Exec.returns_bind _ _ _ _ _ _ _ (fun _ => Exec.returns_pure rfl)

instance (err : ModelError) : LoopExit (fun _ _ => Exec.abort err) where
  keeps _ _ := inferInstance
  keepsV _ _ := inferInstance
  returns _ _ := inferInstance

section Loops

variable {fault : Xlenbits → ExceptionType → M (Option ℕ)} [hf : LoopExit fault]

/-- An access after the write to `vstart`. -/
theorem elemStep_of {m : ℕ → M (Option ℕ)} (hkeeps : ∀ c, Exec.Keeps SameVstart (m c))
    (hreturns : ∀ c, Exec.Returns (fun r => r = none ∨ r = some (c + 1)) (m c)) :
    ElemStep (fun c => do
      setVstart c
      m c) where
  vstart {c s r s'} h := by
    rw [Exec.run_bind_of_ok rfl] at h
    exact (hkeeps c).rel h
  next {c s r s'} h := by
    rw [Exec.run_bind_of_ok rfl] at h
    exact (hreturns c).holds h

theorem elemStep_wholeLoadElem (vd : Regidx) (bytes : ℕ) (rs1 : Regidx) (field i : ℕ) :
    ElemStep (wholeLoadElem fault vd bytes rs1 field i) := by
  have hwrite := keeps_writeSingleElement (R := SameVstart) (fun _ _ => rfl)
  refine elemStep_of (fun c => ?_) (fun c => ?_)
  · have := hf.keeps
    infer_instance
  · refine returns_loadElem _ _ _ (fun a e => ?_) (fun v => ?_)
    · exact ⟨fun h => Or.inl ((hf.returns a e).holds h)⟩
    · exact @Exec.returns_bind _ _ _ _ _ _ _ (fun _ => Exec.returns_pure (Or.inr rfl))

theorem elemStep_wholeStoreElem (bytes : ℕ) (rs1 : Regidx) (elem : M (BitVec (8 * bytes)))
    [Exec.Keeps SameVstart elem] : ElemStep (wholeStoreElem fault bytes rs1 elem) := by
  refine elemStep_of (fun c => ?_) (fun c => ?_)
  · have := hf.keeps
    infer_instance
  · refine returns_storeElem _ _ _ (fun a e => ?_) (Exec.returns_pure (Or.inr rfl))
    exact ⟨fun h => Or.inl ((hf.returns a e).holds h)⟩

end Loops

section Completes

variable {fault fault' : Xlenbits → ExceptionType → M (Option ℕ)} [hf : LoopExit fault]
  {rs1 : Regidx} {offset : ℤ} {bytes c : ℕ} {s s' : State}

/-- A handler does not complete an access. -/
theorem not_completes_fault {a : Xlenbits} {e : ExceptionType}
    (h : (fault a e).run s = .ok (some c, s')) : False := by
  have hnone := (hf.returns a e).holds h
  cases hnone

/-- An access that completes does not depend on the handler. -/
theorem run_loadElem_of_completes {k : BitVec (8 * bytes) → M (Option ℕ)}
    (h : (loadElem fault rs1 offset bytes k).run s = .ok (some c, s')) :
    (loadElem fault' rs1 offset bytes k).run s = .ok (some c, s') := by
  unfold loadElem onAddress onMemValue at h ⊢
  obtain ⟨vaddr, s₁, haddr, h⟩ := Exec.run_bind_ok.mp h
  rw [Exec.run_bind_of_ok haddr]
  split at h
  · exact (not_completes_fault h).elim
  · next hal =>
      rw [if_neg hal]
      obtain ⟨r, s₂, htr, h⟩ := Exec.run_bind_ok.mp h
      rw [Exec.run_bind_of_ok htr]
      cases r with
      | TR_Failure e => exact (not_completes_fault h).elim
      | TR_Address pa =>
          obtain ⟨m, s₃, hread, h⟩ := Exec.run_bind_ok.mp h
          refine (Exec.run_bind_of_ok hread).trans ?_
          cases m with
          | MemException e => exact (not_completes_fault h).elim
          | MemValue v => exact h

/-- A store that completes does not depend on the handler. -/
theorem run_storeElem_of_completes {elem : M (BitVec (8 * bytes))} {k : M (Option ℕ)}
    (h : (storeElem fault rs1 offset bytes elem k).run s = .ok (some c, s')) :
    (storeElem fault' rs1 offset bytes elem k).run s = .ok (some c, s') := by
  unfold storeElem onAddress onMemValue onStored at h ⊢
  obtain ⟨vaddr, s₁, haddr, h⟩ := Exec.run_bind_ok.mp h
  rw [Exec.run_bind_of_ok haddr]
  split at h
  · exact (not_completes_fault h).elim
  · next hal =>
      rw [if_neg hal]
      obtain ⟨r, s₂, htr, h⟩ := Exec.run_bind_ok.mp h
      rw [Exec.run_bind_of_ok htr]
      cases r with
      | TR_Failure e => exact (not_completes_fault h).elim
      | TR_Address pa =>
          obtain ⟨ea, s₃, hea, h⟩ := Exec.run_bind_ok.mp h
          refine (Exec.run_bind_of_ok hea).trans ?_
          cases ea with
          | MemException e => exact (not_completes_fault h).elim
          | MemValue _ =>
              obtain ⟨v, s₄, helem, h⟩ := Exec.run_bind_ok.mp h
              obtain ⟨m, s₅, hwrite, h⟩ := Exec.run_bind_ok.mp h
              refine (Exec.run_bind_of_ok helem).trans ((Exec.run_bind_of_ok hwrite).trans ?_)
              cases m with
              | MemException e => exact (not_completes_fault h).elim
              | MemValue b => exact h

end Completes

/-! ## One access after the other -/

section Flat

variable {fault : Xlenbits → ExceptionType → M (Option ℕ)} {s s' : State} {p : ℕ}

/-- The store of an element depends on the value that it reads only. -/
theorem run_storeElem_congr {α : Type} {fault : Xlenbits → ExceptionType → M α} {rs1 : Regidx}
    {offset : ℤ} {bytes : ℕ} {elem elem' : M (BitVec (8 * bytes))} {k : M α}
    (h : ∀ t, SameV s t → elem.run t = elem'.run t) :
    (storeElem fault rs1 offset bytes elem k).run s
      = (storeElem fault rs1 offset bytes elem' k).run s := by
  have haddr : (extDataGetAddr rs1 (toBits xlen offset)).run s
      = .ok (s.X rs1 + toBits xlen offset, s) := rfl
  unfold storeElem
  rw [Exec.run_bind_of_ok haddr, Exec.run_bind_of_ok haddr]
  split
  · rfl
  · cases htr : (translateAddr (s.X rs1 + toBits xlen offset) .Write).run s with
    | error e => rw [Exec.run_bind_of_error htr, Exec.run_bind_of_error htr]
    | ok q =>
        -- the element is read after the translation, which keeps the vector registers
        obtain ⟨r, t⟩ := q
        have hv : SameV s t := Exec.Keeps.rel htr
        rw [Exec.run_bind_of_ok htr, Exec.run_bind_of_ok htr]
        unfold onAddress onMemValue
        cases r with
        | TR_Failure e => rfl
        | TR_Address pa =>
            simp only
            cases hea : (Exec.checks fun _ => memWriteEa pa bytes false false false :
                M (MemoryOpResult Unit)).run t with
            | error e => rw [Exec.run_bind_of_error hea, Exec.run_bind_of_error hea]
            | ok q =>
                obtain ⟨ea, u⟩ := q
                obtain ⟨-, rfl⟩ := Exec.run_checks_ok.mp hea
                rw [Exec.run_bind_of_ok hea, Exec.run_bind_of_ok hea]
                cases ea with
                | MemException e => rfl
                | MemValue _ =>
                    simp only
                    rw [StateT.run_bind, h _ hv]
                    rfl

/-- A register has elements. -/
theorem perReg_pos : 0 < perReg (8 * 1) := by
  have hexp := sysVectorVlenExp_mem.1
  have hlen : 2 ^ 3 ≤ VLEN := Nat.pow_le_pow_right (by omega) hexp
  exact Nat.div_pos (by omega) (by omega)

/-- An element, as the store of the rest of a register reads it. -/
theorem run_readSingleElement (s : State) (i : ℕ) (r : Regidx) :
    (readSingleElement (8 * 1) i r).run s = .ok (s.elem (8 * 1) r i, s) := by
  have hpos := perReg_pos
  have hlen : VLEN ≥ 8 * 1 := by
    by_contra hlt
    rw [perReg, Nat.div_eq_of_lt (by omega)] at hpos
    omega
  obtain ⟨v, hv⟩ := run_readSingleVreg_total (s := s) (n := perReg (8 * 1))
    (groupReg r (i / perReg (8 * 1))) (show 8 ≤ 8 * 1 ∧ 8 * 1 ≤ 64 by omega)
  have hdiv : (divOrError i (perReg (8 * 1))).run s = .ok (i / perReg (8 * 1), s) := by
    unfold divOrError
    rw [if_neg (by omega)]
    rfl
  unfold readSingleElement
  rw [Exec.run_bind_of_ok (run_assert_of (decide_eq_true hlen))]
  refine (Exec.run_bind_of_ok hdiv).trans ((Exec.run_bind_of_ok hv).trans ?_)
  rw [run_readSingleVreg_ok hv]
  exact congrArg (fun x => Except.ok (x, s)) (if_pos (Nat.mod_lt _ hpos))

/-- The elements of a register, as the store of a whole register reads them. -/
theorem exists_readVreg (s : State) (r : Regidx) :
    ∃ vals, (readVreg (perReg (8 * 1)) (8 * 1) 0 r).run s = .ok (vals, s)
      ∧ ∀ i < perReg (8 * 1), vals i = s.elem (8 * 1) r i := by
  have hlen : groupLen (8 * 1) 0 = perReg (8 * 1) := Nat.one_mul _
  have hgroup : IsGroup 0 r := ⟨r.isLt, Nat.mod_one _⟩
  obtain ⟨vals, hrun⟩ := (run_readVreg_iff (s := s) (by omega) hlen.le).mpr hgroup
  obtain ⟨-, -, rfl⟩ := run_readVreg_ok hrun
  exact ⟨_, hrun, fun i hi => group_eq_elem (hlen.symm ▸ hi) hi⟩

/-- **The loops do one access after the other**: over the rest of the register of the first one,
and over the registers after it. -/
theorem run_wholeRegisters {β : Type} {access : ℕ → M (Option ℕ)} {nf p start : ℕ}
    {first : ℕ → ℕ → ℕ → M (Option ℕ)} {field : ℕ → M β} {elem : β → ℕ → ℕ → ℕ → M (Option ℕ)}
    (hp : 0 < p) (hc : Exec.Counts access)
    (hfirst : ∀ f i, i < p → first f i (f * p + i) = access (f * p + i))
    (hrow : ∀ j s, (do
        let vals ← field j
        Exec.foreachTry 0 p (j * p) (elem vals j) : M (Option ℕ)).run s
      = (Exec.elements access (j * p) ((j + 1) * p)).run s)
    (hstart : start < nf * p) (s : State) :
    (wholeRegisters nf p start first field elem).run s
      = (Exec.elements access start (nf * p) >>= fun loop =>
          onLoop loop fun _ => endVector).run s := by
  have hfield : start / p < nf := Nat.div_lt_of_lt_mul (by rw [Nat.mul_comm]; exact hstart)
  have hdiv : start / p * p + start % p = start := Nat.div_add_mod' start p
  have hmod : start % p < p := Nat.mod_lt _ hp
  -- the registers from `j` on
  have hrest {j : ℕ} (hj : j ≤ nf) (s₁ : State) :
      (registersFrom nf p field elem j (some (j * p))).run s₁
        = (Exec.elements access (j * p) (nf * p) >>= fun loop =>
          onLoop loop fun _ => endVector).run s₁ := by
    have hrows : (Exec.foreachTry j (nf - j) (j * p) fun j c => do
        let vals ← field j
        Exec.foreachTry 0 p c (elem vals j)).run s₁
          = (Exec.elements access (j * p) ((j + (nf - j)) * p)).run s₁ :=
      Exec.run_rows hc (fun _ => hrow _ _) (show j + (nf - j) ≤ nf by omega)
    rw [show j + (nf - j) = nf by omega] at hrows
    unfold registersFrom onLoop
    simp only
    rw [StateT.run_bind, StateT.run_bind, hrows]
  rw [wholeRegisters_eq]
  by_cases halign : start % p > 0
  · -- the loop over the rest of the first register ends where the next register begins
    rw [if_pos halign]
    have hnext : start + (p - start % p) = (start / p + 1) * p := by
      rw [Nat.add_mul, Nat.one_mul]
      omega
    have hle : (start / p + 1) * p ≤ nf * p := Nat.mul_le_mul_right _ hfield
    have hpart : (Exec.foreachTry (start % p) (p - start % p) (start / p * p + start % p)
        (first (start / p))).run s = (Exec.elements access (start / p * p + start % p)
          (start / p * p + start % p + (p - start % p))).run s :=
      Exec.run_row hc (I := fun _ => True) (fun hi _ => by rw [hfirst _ _ hi])
        (fun _ _ => trivial) (show start % p + (p - start % p) ≤ p by omega) trivial
    rw [hdiv, hnext] at hpart
    rw [StateT.run_bind, StateT.run_bind, hpart,
      Exec.run_elements_split hc (show start ≤ (start / p + 1) * p by omega) hle, StateT.run_bind]
    cases ha : (Exec.elements access start ((start / p + 1) * p)).run s with
    | error e => rfl
    | ok q =>
        obtain ⟨r, s₁⟩ := q
        rcases Exec.run_elements_cases hc (by omega) ha with rfl | ⟨rfl, -⟩
        · exact (hrest hfield s₁).trans (StateT.run_bind ..)
        · rfl
  · rw [if_neg halign]
    have hcur : start = start / p * p := by omega
    have hrows := hrest hfield.le s
    rw [← hcur] at hrows
    exact hrows

omit [Platform] in
/-- The place of element `i` of register `f`. -/
theorem place_eq {f i : ℕ} (hi : i < p) : (f * p + i) / p = f ∧ (f * p + i) % p = i := by
  have hp : 0 < p := by omega
  rw [Nat.mul_comm, Nat.mul_add_div hp, Nat.div_eq_of_lt hi, Nat.mul_add_mod, Nat.mod_eq_of_lt hi]
  exact ⟨Nat.add_zero f, rfl⟩

/-- The accesses to the elements of a register, as a loop from 0. -/
theorem run_register {access : ℕ → M (Option ℕ)} {body : ℕ → ℕ → M (Option ℕ)} {I : State → Prop}
    (hc : Exec.Counts access) {j : ℕ}
    (hbody : ∀ {i s}, i < p → I s → (body i (j * p + i)).run s = (access (j * p + i)).run s)
    (hkeep : ∀ {k s r s'}, I s → (access k).run s = .ok (r, s') → I s') (hs : I s) :
    (Exec.foreachTry 0 p (j * p) body).run s
      = (Exec.elements access (j * p) ((j + 1) * p)).run s := by
  have hrow := Exec.run_row hc hbody hkeep (show 0 + p ≤ p by omega) hs
  rw [Nat.add_zero] at hrow
  rw [Nat.succ_mul]
  exact hrow

end Flat

namespace WholeRegister

variable {i : VextMemInst} {w : WholeRegister} {fault : Xlenbits → ExceptionType → M (Option ℕ)}
  {s s' : State}

/-- An access sets `vstart` to its element. -/
theorem elemStep_access (h : i.whole = some w) [LoopExit fault] : ElemStep (w.access fault) := by
  cases i with
  | VLRETYPE nf rs1 width vd =>
      cases h
      exact ⟨(elemStep_wholeLoadElem ..).vstart, (elemStep_wholeLoadElem ..).next⟩
  | VSRETYPE nf rs1 vs3 =>
      cases h
      exact ⟨(elemStep_wholeStoreElem ..).vstart, (elemStep_wholeStoreElem ..).next⟩
  | _ => cases h

/-- Accesses count. -/
theorem counts_access (h : i.whole = some w) [LoopExit fault] : Exec.Counts (w.access fault) :=
  (elemStep_access h).next

/-- **The loops do one access after the other.** -/
theorem run_loops (h : i.whole = some w) [hf : LoopExit fault] {start : ℕ} (hstart : start < w.count)
    (s : State) :
    (w.loops fault start).run s
      = (Exec.elements (w.access fault) start w.count >>= fun loop =>
          onLoop loop fun _ => endVector).run s := by
  have hc : Exec.Counts (w.access fault) := counts_access h
  have hp : 0 < w.elemPerReg := by
    refine Nat.pos_of_ne_zero (fun hp => ?_)
    unfold count at hstart
    rw [hp] at hstart
    omega
  cases i with
  | VLRETYPE nf rs1 width vd =>
      cases h
      refine run_wholeRegisters hp hc (fun f i hi => ?_) (fun j s => ?_) hstart s
      · dsimp only
        rw [(place_eq hi).1, (place_eq hi).2]
      · rw [pure_bind]
        refine run_register (I := fun _ => True) hc (fun hi _ => ?_) (fun _ _ => trivial) trivial
        dsimp only
        rw [(place_eq hi).1, (place_eq hi).2]
  | VSRETYPE nf rs1 vs3 =>
      cases h
      dsimp only [count] at hp hc hstart ⊢
      refine run_wholeRegisters hp hc (fun f i hi => ?_) (fun j s₁ => ?_) hstart s
      · dsimp only
        rw [(place_eq hi).1, (place_eq hi).2]
      · -- the values are those that the register has before its first store
        obtain ⟨vals, hread, hvals⟩ := exists_readVreg s₁ (groupReg vs3 j)
        refine (Exec.run_bind_of_ok hread).trans ?_
        refine run_register (I := SameV s₁) hc (fun {i s₂} hi hs₂ => ?_) (fun {k s₂ r s₃} hs₂ hk => ?_)
          rfl
        · dsimp only
          rw [(place_eq hi).1, (place_eq hi).2]
          unfold wholeStoreElem
          have hset : (setVstart (j * (VLEN / 8) + i)).run s₂
              = .ok ((), { s₂ with vstart := BitVec.ofNat 16 (j * (VLEN / 8) + i) }) := rfl
          rw [Exec.run_bind_of_ok hset, Exec.run_bind_of_ok hset]
          refine run_storeElem_congr (fun t ht => ?_)
          have hv : t.v = s₁.v := Eq.trans ht hs₂
          rw [run_readSingleElement, hvals i hi]
          unfold State.elem State.V
          rw [hv]
          rfl
        · have := hf.keepsV
          have hkeeps : Exec.Keeps SameV (wholeStoreElem fault 1 rs1 (readSingleElement (8 * 1)
              (k % (VLEN / 8)) (groupReg vs3 (k / (VLEN / 8)))) k) := by
            have hstart : Exec.Keeps SameV (setVstart k) := Exec.keeps_update (fun _ => rfl)
            unfold wholeStoreElem
            infer_instance
          exact Eq.trans (hkeeps.rel hk) hs₂
  | _ => cases h

/-- An access that completes does not depend on the handler. -/
theorem run_access_of_completes (h : i.whole = some w) [LoopExit fault]
    (fault' : Xlenbits → ExceptionType → M (Option ℕ)) {k c : ℕ}
    (hrun : (w.access fault k).run s = .ok (some c, s')) :
    (w.access fault' k).run s = .ok (some c, s') := by
  have hset : (setVstart k).run s = .ok ((), { s with vstart := BitVec.ofNat 16 k }) := rfl
  cases i with
  | VLRETYPE nf rs1 width vd =>
      cases h
      dsimp only [wholeLoadElem] at hrun ⊢
      rw [Exec.run_bind_of_ok hset] at hrun ⊢
      exact run_loadElem_of_completes hrun
  | VSRETYPE nf rs1 vs3 =>
      cases h
      dsimp only [wholeStoreElem] at hrun ⊢
      rw [Exec.run_bind_of_ok hset] at hrun ⊢
      exact run_storeElem_of_completes hrun
  | _ => cases h

/-- An access begins with the write to `vstart`. -/
theorem run_access_vstart (h : i.whole = some w) (k : ℕ) (v : BitVec 16) (s : State) :
    (w.access fault k).run { s with vstart := v } = (w.access fault k).run s := by
  cases i with
  | VLRETYPE nf rs1 width vd =>
      cases h
      rfl
  | VSRETYPE nf rs1 vs3 =>
      cases h
      rfl
  | _ => cases h

/-- The accesses neither see nor change `vtype`, `vl` and the program counter, but for the handler
of exceptions. -/
theorem unaware_access (h : i.whole = some w) (e : ModelError) (k : ℕ) :
    Unaware (w.access (fun _ _ => Exec.abort e) k) := by
  cases i with
  | VLRETYPE nf rs1 width vd =>
      cases h
      dsimp only [wholeLoadElem]
      infer_instance
  | VSRETYPE nf rs1 vs3 =>
      cases h
      dsimp only [wholeStoreElem]
      infer_instance
  | _ => cases h

/-- The accesses take no trap, but for the handler of exceptions. -/
theorem keeps_frame_access (h : i.whole = some w) (e : ModelError) (k : ℕ) :
    Exec.Keeps Frame (w.access (fun _ _ => Exec.abort e) k) := by
  have hstart : Exec.Keeps Frame (setVstart k) := Exec.keeps_update (fun _ => rfl)
  have hwrite := keeps_writeSingleElement (R := Frame) (fun _ _ => rfl)
  cases i with
  | VLRETYPE nf rs1 width vd =>
      cases h
      dsimp only [wholeLoadElem]
      infer_instance
  | VSRETYPE nf rs1 vs3 =>
      cases h
      dsimp only [wholeStoreElem]
      infer_instance
  | _ => cases h

/-! ## Restarts -/

/-- The accesses to the elements from `vstart` on, before `b`, complete without an exception and end
in `t`. -/
def Completes (w : WholeRegister) (s : State) (b : ℕ) (t : State) : Prop :=
  (Exec.elements (w.access faultExit) s.vstart.toNat b).run s = .ok (some b, t)

/-- No access from `vstart` on has an exception. -/
def Unfaulted (w : WholeRegister) (s : State) : Prop := ∃ t, w.Completes s w.count t

/-- The accesses before element `k` complete, and `t` is the state after them, in which `vstart`
names the element. -/
structure Reaches (w : WholeRegister) (s : State) (k : ℕ) (t : State) : Prop where
  le : s.vstart.toNat ≤ k
  lt : k < w.count
  completes : ∃ t₀, w.Completes s k t₀ ∧ t = { t₀ with vstart := BitVec.ofNat 16 k }

variable {t : State} {b k : ℕ}

/-- Accesses that complete take no trap and leave what they put aside alone. -/
theorem Completes.frame (h : i.whole = some w) (hb : s.vstart.toNat ≤ b) (hrun : w.Completes s b t) :
    Frame s t ∧ t.aside = s.aside := by
  -- the handler, which takes the trap, may as well abort: it is not called
  have habort := Exec.run_elements_of_completes (counts_access h)
    (run_access_of_completes h (fun _ _ => Exec.abort (.internalError "exception"))) hb hrun
  have hkeeps := keeps_frame_access h (.internalError "exception")
  have hunaware := unaware_access h (.internalError "exception")
  have hframe : Exec.Keeps Frame (Exec.elements (w.access fun _ _ =>
      Exec.abort (.internalError "exception")) s.vstart.toNat b) := by
    unfold Exec.elements
    infer_instance
  have haside : Unaware (Exec.elements (w.access fun _ _ =>
      Exec.abort (.internalError "exception")) s.vstart.toNat b) := by
    unfold Exec.elements
    infer_instance
  exact ⟨hframe.rel habort, haside.aside_eq habort⟩

/-- The elements of the registers fit in `vstart`. -/
theorem count_le (h : i.whole = some w) (hl : w.Legal) : w.count ≤ 2 ^ 16 := by
  have hlen := VLEN_le
  have hnf : w.nf ≤ 8 := by
    rcases hl with hl | hl | hl | hl <;> omega
  have hper : w.elemPerReg ≤ VLEN / 8 := by
    cases i with
    | VLRETYPE nf rs1 width vd =>
        cases h
        refine Nat.div_le_div_left ?_ (by norm_num)
        cases width <;> decide
    | VSRETYPE nf rs1 vs3 =>
        cases h
        exact le_refl _
    | _ => cases h
  calc w.nf * w.elemPerReg ≤ 8 * (VLEN / 8) := Nat.mul_le_mul hnf hper
    _ ≤ VLEN := Nat.mul_div_le _ _
    _ ≤ 2 ^ 16 := hlen

/-- The clause from an element on. -/
theorem run_process_of_lt (h : i.whole = some w) (hrange : startRange s.vstart s.vtype = some true)
    (hlt : s.vstart.toNat < w.count) :
    w.process.run s = (Exec.elements (w.access faultExit) s.vstart.toNat w.count >>= fun loop =>
      onLoop loop fun _ => endVector).run s := by
  rw [run_process hrange, if_pos rfl, pure_bind, if_neg (by omega)]
  exact run_loops h hlt s

/-- A smaller `vstart` is in the range, too. -/
theorem startRange_mono {v v' : BitVec 16} {vtype : Xlenbits} (hle : v.toNat ≤ v'.toNat)
    (h : startRange v' vtype = some true) : startRange v vtype = some true := by
  obtain ⟨p, hp, hle'⟩ := Option.map_eq_some_iff.mp h
  refine Option.map_eq_some_iff.mpr ⟨p, hp, decide_eq_true ?_⟩
  exact hle.trans (of_decide_eq_true hle')

/-- **An exception ends the accesses at one element**, which `vstart` names. -/
theorem reaches_of_fail (h : i.whole = some w) (hrange : startRange s.vstart s.vtype = some true)
    (hrun : w.process.run s = .ok (.RETIRE_FAIL, s')) :
    ∃ k t, w.Reaches s k t ∧ s'.vstart = BitVec.ofNat 16 k
      ∧ (w.access faultExit k).run t = .ok (none, s') := by
  by_cases hlt : s.vstart.toNat < w.count
  · rw [run_process_of_lt h hrange hlt] at hrun
    obtain ⟨r, s₁, helems, hend⟩ := Exec.run_bind_ok.mp hrun
    rcases Exec.run_elements_cases (counts_access h) hlt.le helems with
      rfl | ⟨rfl, k, t, hle, hk, hcompletes, hfault⟩
    · cases hend
    · cases hend
      refine ⟨k, _, ⟨hle, hk, t, hcompletes, rfl⟩, (elemStep_access h).vstart hfault, ?_⟩
      rw [run_access_vstart h]
      exact hfault
  · rw [run_process hrange, if_pos rfl, pure_bind, if_pos (by omega)] at hrun
    cases hrun

/-- **The execution from the state that the accesses before an element reach ends as the execution
from their start does.** -/
theorem Reaches.run_process (h : i.whole = some w) (hl : w.Legal) (hr : w.Reaches s k t)
    (hrange : startRange t.vstart t.vtype = some true) : w.process.run t = w.process.run s := by
  obtain ⟨hle, hlt, t₀, hcompletes, rfl⟩ := hr
  have hk : (BitVec.ofNat 16 k).toNat = k := by
    have hcount := count_le h hl
    rw [BitVec.toNat_ofNat, Nat.mod_eq_of_lt (by omega)]
  have hvtype : t₀.vtype = s.vtype := congrArg Aside.vtype (hcompletes.frame h hle).2
  have hrange' : startRange s.vstart s.vtype = some true := by
    rw [← hvtype]
    exact startRange_mono (hk.symm ▸ hle) hrange
  have hstart := run_process_of_lt h hrange (show (BitVec.ofNat 16 k).toNat < w.count by omega)
  simp only [hk] at hstart
  -- both executions are now the loop from `k`; the access to `k` sets `vstart` before it reads
  rw [hstart, run_process_of_lt h hrange' (by omega), StateT.run_bind, StateT.run_bind,
    Exec.run_elements_append (counts_access h) hle hlt.le hcompletes, Exec.elements_of_lt hlt,
    StateT.run_bind, StateT.run_bind, run_access_vstart h]

/-- **Without another exception the load or store retires.** -/
theorem retires (h : i.whole = some w) (hrange : startRange s.vstart s.vtype = some true)
    (hlt : s.vstart.toNat < w.count) (hun : w.Unfaulted s) :
    ∃ s', w.process.run s = .ok (.RETIRE_SUCCESS, s') ∧ s'.vstart = 0#16 ∧ Frame s s'
      ∧ s'.nextPC = s.nextPC := by
  obtain ⟨t, hcompletes⟩ := hun
  obtain ⟨hframe, haside⟩ := hcompletes.frame h hlt.le
  refine ⟨{ t with vstart := 0#16 }, ?_, rfl, hframe, congrArg Aside.nextPC haside⟩
  rw [run_process_of_lt h hrange hlt, Exec.run_bind_of_ok hcompletes]
  rfl

end WholeRegister

/-- **A whole-register load or store that an exception ends is resumed.**  With `vstart` in its
range, an exception ends it at one element, which it leaves in `vstart`, after the accesses before
this element.  From every state that these accesses reach, without an exception, from a state
`u`, it ends as it does from `u`; and if no access has an exception then it retires with
`vstart` zero and takes no trap. -/
theorem whole_register_resumes {i : VextMemInst} {w : WholeRegister} (h : i.whole = some w)
    (hl : w.Legal) :
    (∀ {s s' : State}, startRange s.vstart s.vtype = some true →
        i.execute.run s = .ok (.RETIRE_FAIL, s') →
        ∃ k t, w.Reaches s k t ∧ s'.vstart = BitVec.ofNat 16 k
          ∧ (w.access faultExit k).run t = .ok (none, s'))
      ∧ ∀ {u t : State} {k : ℕ}, w.Reaches u k t → startRange t.vstart t.vtype = some true →
        i.execute.run t = i.execute.run u
        ∧ (w.Unfaulted t → ∃ t', i.execute.run t = .ok (.RETIRE_SUCCESS, t') ∧ t'.vstart = 0#16
          ∧ Frame t t' ∧ t'.nextPC = t.nextPC) := by
  have hexec (s : State) : i.execute.run s = w.process.run s := by
    rw [VextMemInst.execute_of_whole h, run_orIllegalFields hl]
  constructor
  · intro s s' hrange hrun
    rw [hexec] at hrun
    exact WholeRegister.reaches_of_fail h hrange hrun
  · intro u t k hr hrange
    rw [hexec, hexec]
    refine ⟨hr.run_process h hl hrange, fun hun => WholeRegister.retires h hrange ?_ hun⟩
    obtain ⟨-, hlt, t₀, -, rfl⟩ := hr
    have hcount := WholeRegister.count_le h hl
    show (BitVec.ofNat 16 k).toNat < w.count
    rw [BitVec.toNat_ofNat, Nat.mod_eq_of_lt (by omega)]
    exact hlt

/-- User mode, and a PMP that lets loads pass below an address where the RAM begins. -/
def loadsBelow (bound : Xlenbits) : State :=
  { State.zero (fun _ => 0#8) with
    curPrivilege := .User
    misa := BitVec.allOnes _
    mstatus := 0xA00000600#_
    pmpcfg := fun i => if i = 0 then 0x09#8 else 0#8
    pmpaddr := fun _ => bound >>> 2
    x := fun _ => 0x80000000#_ }

omit [Platform] in
/-- `vl1re64.v` faults at its element 2, at the end of what the PMP lets pass.  With the rest of the
register let pass, it goes on from there. -/
theorem whole_register_resumes_vl1re64 :
    letI := rv64Pmp 16 (by decide)
    let i : VextMemInst := .VLRETYPE 0#3 1#5 .VLE64 2#5
    let s := loadsBelow 0x80000010#64
    let u := loadsBelow 0x80000040#64
    (∃ s' k t, i.execute.run s = .ok (.RETIRE_FAIL, s') ∧ s'.vstart = 2#16
        ∧ (i.whole.get rfl).Reaches s k t ∧ s'.vstart = BitVec.ofNat 16 k
        ∧ ((i.whole.get rfl).access faultExit k).run t = .ok (none, s'))
      ∧ ∃ t t', (i.whole.get rfl).Reaches u 2 t ∧ i.execute.run t = i.execute.run u
        ∧ i.execute.run t = .ok (.RETIRE_SUCCESS, t') ∧ t'.vstart = 0#16 ∧ Frame t t'
        ∧ t'.nextPC = t.nextPC := by
  let := rv64Pmp 16 (by decide)
  let i : VextMemInst := .VLRETYPE 0#3 1#5 .VLE64 2#5
  let w := i.whole.get rfl
  let s := loadsBelow 0x80000010#64
  let u := loadsBelow 0x80000040#64
  have hresumes := whole_register_resumes (i := i) (w := w) rfl (Or.inl rfl)
  constructor
  · obtain ⟨r, s', hrun, htest⟩ := Exec.passes_iff.mp
      (by decide +kernel : i.execute.passes s
        (fun r s' => r == .RETIRE_FAIL && s'.vstart == 2#16) = true)
    obtain ⟨hr, hv⟩ := Bool.and_eq_true_iff.mp htest
    obtain rfl := beq_iff_eq.mp hr
    obtain ⟨k, t, hreaches, hk, hfault⟩ := hresumes.1 (by decide +kernel) hrun
    exact ⟨s', k, t, hrun, beq_iff_eq.mp hv, hreaches, hk, hfault⟩
  · obtain ⟨r, t₀, hbefore, htest⟩ := Exec.passes_iff.mp
      (by decide +kernel : Exec.passes (Exec.elements (w.access faultExit) 0 2) u
        (fun r t₀ => r == some 2 && Exec.passes (Exec.elements (w.access faultExit) 2 w.count)
          { t₀ with vstart := 2#16 } (fun r _ => r == some w.count)
          && startRange 2#16 t₀.vtype == some true) = true)
    simp only [Bool.and_eq_true, beq_iff_eq] at htest
    obtain ⟨⟨rfl, hafter⟩, hrange⟩ := htest
    obtain ⟨r', t₁, hafter, hr'⟩ := Exec.passes_iff.mp hafter
    obtain rfl := beq_iff_eq.mp hr'
    have hreaches : w.Reaches u 2 { t₀ with vstart := 2#16 } :=
      ⟨by decide, by decide, t₀, hbefore, rfl⟩
    obtain ⟨hsame, hretires⟩ := hresumes.2 hreaches hrange
    obtain ⟨t', hrun, hv, hframe, hnext⟩ := hretires ⟨t₁, hafter⟩
    exact ⟨_, t', hreaches, hsame, hrun, hv, hframe, hnext⟩

end SailRiscv
