/-
# Whole-register loads and stores and `vtype`

The clauses of `VLRETYPE` and `VSRETYPE` depend on `vtype` only through the range that
`get_start_element` allows for `vstart`.  Where the values of `vtype` agree on the range, the
outcome is the same.
-/
import SailRiscv.Aside
import SailRiscv.VextMaskRuns

namespace SailRiscv

open Bits Platform

variable [Platform]

/-! ## Instructions -/

/-- A whole-register load or store: its number of registers, the elements of each of them, the access
to an element, in which `fault` handles an exception, and the loops from an element on. -/
structure WholeRegister where
  nf : ℕ
  elemPerReg : ℕ
  access : (Xlenbits → ExceptionType → M (Option ℕ)) → ℕ → M (Option ℕ)
  loops : (Xlenbits → ExceptionType → M (Option ℕ)) → ℕ → M Retired

/-- The load of element `i` of register `field`. -/
def wholeLoadElem (fault : Xlenbits → ExceptionType → M (Option ℕ)) (vd : Regidx) (bytes : ℕ)
    (rs1 : Regidx) (field i curElem : ℕ) : M (Option ℕ) := do
  setVstart curElem
  loadElem fault rs1 (curElem * bytes) bytes fun elem => do
    writeSingleElement (8 * bytes) i (groupReg vd field) elem
    pure (some (curElem + 1))

/-- The store of an element. -/
def wholeStoreElem (fault : Xlenbits → ExceptionType → M (Option ℕ)) (bytes : ℕ) (rs1 : Regidx)
    (elem : M (BitVec (8 * bytes))) (curElem : ℕ) : M (Option ℕ) := do
  setVstart curElem
  storeElem fault rs1 (curElem * bytes) bytes elem (pure (some (curElem + 1)))

/-- The whole-register load or store of an instruction. -/
def VextMemInst.whole : VextMemInst → Option WholeRegister
  | .VLRETYPE nf rs1 width vd =>
      let bytes := vlewidthBytesnumber width
      let elemPerReg := VLEN / (bytes * 8)
      some ⟨nfieldsInt nf, elemPerReg,
        fun fault k => wholeLoadElem fault vd bytes rs1 (k / elemPerReg) (k % elemPerReg) k,
        fun fault start =>
          wholeRegisters (nfieldsInt nf) elemPerReg start (wholeLoadElem fault vd bytes rs1)
            (fun _ => pure ()) (fun _ => wholeLoadElem fault vd bytes rs1)⟩
  | .VSRETYPE nf rs1 vs3 =>
      let elemPerReg := VLEN / 8
      some ⟨nfieldsInt nf, elemPerReg,
        fun fault k => wholeStoreElem fault 1 rs1
          (readSingleElement (8 * 1) (k % elemPerReg) (groupReg vs3 (k / elemPerReg))) k,
        fun fault start =>
          wholeRegisters (nfieldsInt nf) elemPerReg start
            (fun field i =>
              wholeStoreElem fault 1 rs1 (readSingleElement (8 * 1) i (groupReg vs3 field)))
            (fun j => readVreg elemPerReg (8 * 1) 0 (groupReg vs3 j))
            (fun vals _ i => wholeStoreElem fault 1 rs1 (pure (vals i)))⟩
  | _ => none

namespace WholeRegister

/-- The number of registers is 1, 2, 4 or 8. -/
def Legal (w : WholeRegister) : Prop := w.nf = 1 ∨ w.nf = 2 ∨ w.nf = 4 ∨ w.nf = 8

/-- The number of elements. -/
def count (w : WholeRegister) : ℕ := w.nf * w.elemPerReg

/-- The clause after the check of the number of registers. -/
def process (w : WholeRegister) : M Retired := do
  let start ← getStartElement
  if start ≥ w.count then pure .RETIRE_SUCCESS else w.loops faultExit start

end WholeRegister

section Loops

variable {β : Type} {nf elemPerReg : ℕ} {field : ℕ → M β} {elem : β → ℕ → ℕ → ℕ → M (Option ℕ)}

/-- The loops over the registers from `j` on, after the loop over the rest of the one before. -/
def registersFrom (nf elemPerReg : ℕ) (field : ℕ → M β) (elem : β → ℕ → ℕ → ℕ → M (Option ℕ))
    (j : ℕ) (aligned : Option ℕ) : M Retired :=
  onLoop aligned fun curElem => do
    let loop ← Exec.foreachTry j (nf - j) curElem fun j curElem => do
      let vals ← field j
      Exec.foreachTry 0 elemPerReg curElem (elem vals j)
    onLoop loop fun _ => endVector

/-- The rest of a register, and the registers after it. -/
theorem wholeRegisters_eq {start : ℕ} {first : ℕ → ℕ → ℕ → M (Option ℕ)} :
    wholeRegisters nf elemPerReg start first field elem
      = if start % elemPerReg > 0 then
          Exec.foreachTry (start % elemPerReg) (elemPerReg - start % elemPerReg) start
              (first (start / elemPerReg))
            >>= registersFrom nf elemPerReg field elem (start / elemPerReg + 1)
        else registersFrom nf elemPerReg field elem (start / elemPerReg) (some start) := by
  unfold wholeRegisters
  by_cases h : start % elemPerReg > 0
  · simp only [if_pos h]
    rfl
  · simp only [if_neg h, pure_bind]
    rfl

end Loops

/-- The clauses of `execute`. -/
theorem VextMemInst.execute_of_whole {i : VextMemInst} {w : WholeRegister}
    (h : i.whole = some w) : i.execute = orIllegalFields w.nf w.process := by
  cases i <;> cases h <;> rfl

/-! ## The range of `vstart` -/

/-- The check of `get_start_element` for a value of `vtype`: no value where `vsew` is reserved. -/
def startRange (vstart : BitVec 16) (vtype : Xlenbits) : Option Bool :=
  (sewPow (Vtype.vsew.get vtype)).map fun p => decide (vstart.toNat ≤ 2 ^ (3 + vlenPow - p) - 1)

/-- `get_start_element` with a reserved `vsew`. -/
theorem run_getStartElement_reserved {s : State} (h : startRange s.vstart s.vtype = none) :
    getStartElement.run s = .error (.assertFailed "invalid vsew field in vtype") := by
  have hsew : sewPow (Vtype.vsew.get s.vtype) = none := Option.map_eq_none_iff.mp h
  unfold getStartElement
  rw [Exec.run_bind_of_ok (Exec.run_reads _ _)]
  refine Exec.run_bind_of_error ?_
  unfold getSewPow
  rw [Exec.run_checks, hsew]
  rfl

/-- `get_start_element` checks the range and returns `vstart`. -/
theorem run_getStartElement {s : State} {b : Bool} (h : startRange s.vstart s.vtype = some b) :
    getStartElement.run s = ((if b then pure () else handleIllegal) >>= fun _ =>
      pure s.vstart.toNat : M ℕ).run s := by
  obtain ⟨p, hp, hb⟩ := Option.map_eq_some_iff.mp h
  unfold getStartElement
  rw [Exec.run_bind_of_ok (Exec.run_reads _ _), Exec.run_bind_of_ok (run_getSewPow_ok.mpr ⟨hp, rfl⟩)]
  unfold checkStart
  subst hb
  by_cases hle : s.vstart.toNat ≤ 2 ^ (3 + vlenPow - p) - 1
  · rw [if_neg (by omega), if_pos (decide_eq_true hle)]
  · rw [if_pos (by omega), if_neg (by simpa using hle)]

namespace WholeRegister

variable {w : WholeRegister}

/-- The clause with the range checked. -/
theorem run_process {s : State} {b : Bool} (h : startRange s.vstart s.vtype = some b) :
    w.process.run s = ((if b then pure () else handleIllegal) >>= fun _ =>
      if s.vstart.toNat ≥ w.count then pure .RETIRE_SUCCESS
      else w.loops faultExit s.vstart.toNat : M Retired).run s := by
  have hcongr {m m' : M ℕ} (f : ℕ → M Retired) (hm : m.run s = m'.run s) :
      (m >>= f).run s = (m' >>= f).run s := by
    rw [StateT.run_bind, StateT.run_bind, hm]
  unfold process
  rw [hcongr _ (run_getStartElement h), bind_assoc]
  simp only [pure_bind]

/-- The clause with a reserved `vsew`. -/
theorem run_process_reserved {s : State} (h : startRange s.vstart s.vtype = none) :
    w.process.run s = .error (.assertFailed "invalid vsew field in vtype") :=
  Exec.run_bind_of_error (run_getStartElement_reserved h)

end WholeRegister

/-! ## What the loops do not see -/

section Blind

variable {ι : Type} {G : ι → State → State}

/-- `m` neither sees nor changes what the maps `G` change. -/
abbrev Blind {α : Type} (G : ι → State → State) (m : M α) : Prop :=
  Exec.Plain Anything.rel G (fun _ => False) m

/-- The accesses to memory and to the vector registers neither see nor change what `G` changes. -/
class AccessBlind (G : ι → State → State) : Prop where
  addr : ∀ base offset, Blind G (extDataGetAddr base offset)
  translate : ∀ va ac, Blind G (translateAddr va ac)
  read : ∀ pa n, Blind G (memRead .Read pa n false false false)
  writeEa : ∀ pa n, Blind G (Exec.checks (fun _ : State => memWriteEa pa n false false false))
  write : ∀ pa n (v : BitVec (8 * n)), Blind G (memWriteValue pa n v false false false)
  rV : ∀ r, Blind G (rV r)
  wV : ∀ r v, Blind G (wV r v)
  start : ∀ i, Blind G (setVstart i)

omit [Platform] in
instance blind_assert (c : Bool) (msg : String) : Blind G (assert c msg) := by
  unfold assert
  exact @Exec.plain_ite _ _ _ _ _ _ _ _ _ _ _ inferInstance (Exec.plain_abort id)

omit [Platform] in
instance blind_internalError {α : Type} (msg : String) : Blind G (internalError msg : M α) :=
  Exec.plain_abort id

attribute [instance] AccessBlind.addr AccessBlind.translate AccessBlind.read AccessBlind.writeEa
  AccessBlind.write AccessBlind.rV AccessBlind.wV AccessBlind.start

variable [AccessBlind G]

instance blind_readSingleVreg (numElem SEW : ℕ) (r : Regidx) :
    Blind G (readSingleVreg numElem SEW r) := by
  unfold readSingleVreg
  infer_instance

omit [AccessBlind G] in
instance blind_divOrError (n d : ℕ) : Blind G (divOrError n d) := by
  unfold divOrError
  infer_instance

instance blind_readSingleElement (EEW index : ℕ) (r : Regidx) :
    Blind G (readSingleElement EEW index r) := by
  unfold readSingleElement
  infer_instance

instance blind_writeSingleElement (EEW index : ℕ) (r : Regidx) (v : BitVec EEW) :
    Blind G (writeSingleElement EEW index r v) := by
  unfold writeSingleElement
  infer_instance

omit [AccessBlind G] in
instance blind_assertInGroup (numElem numElemSingle i : ℕ) :
    Blind G (assertInGroup numElem numElemSingle i) := by
  unfold assertInGroup
  infer_instance

instance blind_readVreg (numElem SEW : ℕ) (lmul : ℤ) (r : Regidx) :
    Blind G (readVreg numElem SEW lmul r) := by
  unfold readVreg
  refine @Exec.plain_bind _ _ _ _ _ _ _ _ _ _ _ inferInstance (fun _ => ?_)
  refine @Exec.plain_bind _ _ _ _ _ _ _ _ _ _ _ inferInstance (fun _ => ?_)
  refine @Exec.plain_ite _ _ _ _ _ _ _ _ _ _ _ inferInstance ?_
  exact @Exec.plain_foreach _ _ _ _ _ _ _ _ _ _ _ _ _ (fun _ _ => inferInstance)

instance blind_endVector : Blind G endVector := by
  have : Blind G (setVstart 0) := inferInstance
  unfold endVector
  exact @Exec.plain_bind _ _ _ _ _ _ _ _ _ _ _ this (fun _ => inferInstance)

omit [AccessBlind G] in
instance blind_onLoop {α : Type} (r : Option α) (k : α → M Retired) [∀ a, Blind G (k a)] :
    Blind G (onLoop r k) := by
  unfold onLoop
  cases r <;> infer_instance

section Access

variable {α : Type} {fault : Xlenbits → ExceptionType → M α}

instance blind_loadElem (rs1 : Regidx) (offset : ℤ) (bytes : ℕ) (k : BitVec (8 * bytes) → M α)
    [∀ a e, Blind G (fault a e)] [∀ v, Blind G (k v)] :
    Blind G (loadElem fault rs1 offset bytes k) := by
  unfold loadElem onAddress onMemValue
  refine @Exec.plain_bind _ _ _ _ _ _ _ _ _ _ _ inferInstance (fun vaddr => ?_)
  refine @Exec.plain_ite _ _ _ _ _ _ _ _ _ _ _ inferInstance ?_
  refine @Exec.plain_bind _ _ _ _ _ _ _ _ _ _ _ inferInstance (fun r => ?_)
  rcases r with pa | e
  · refine @Exec.plain_bind _ _ _ _ _ _ _ _ _ _ _ inferInstance (fun r => ?_)
    cases r <;> infer_instance
  · infer_instance

instance blind_storeElem (rs1 : Regidx) (offset : ℤ) (bytes : ℕ) (elem : M (BitVec (8 * bytes)))
    (k : M α) [∀ a e, Blind G (fault a e)] [Blind G elem] [Blind G k] :
    Blind G (storeElem fault rs1 offset bytes elem k) := by
  unfold storeElem onAddress onStored onMemValue
  refine @Exec.plain_bind _ _ _ _ _ _ _ _ _ _ _ inferInstance (fun vaddr => ?_)
  refine @Exec.plain_ite _ _ _ _ _ _ _ _ _ _ _ inferInstance ?_
  refine @Exec.plain_bind _ _ _ _ _ _ _ _ _ _ _ inferInstance (fun r => ?_)
  rcases r with pa | e
  · refine @Exec.plain_bind _ _ _ _ _ _ _ _ _ _ _ inferInstance (fun r => ?_)
    rcases r with u | e
    · refine @Exec.plain_bind _ _ _ _ _ _ _ _ _ _ _ inferInstance (fun v => ?_)
      refine @Exec.plain_bind _ _ _ _ _ _ _ _ _ _ _ inferInstance (fun r => ?_)
      cases r <;> infer_instance
    · infer_instance
  · infer_instance

end Access

theorem blind_wholeRegisters {β : Type} {nf elemPerReg start : ℕ}
    {first : ℕ → ℕ → ℕ → M (Option ℕ)} {field : ℕ → M β} {elem : β → ℕ → ℕ → ℕ → M (Option ℕ)}
    (hfirst : ∀ f i c, Blind G (first f i c)) (hfield : ∀ j, Blind G (field j))
    (helem : ∀ b j i c, Blind G (elem b j i c)) :
    Blind G (wholeRegisters nf elemPerReg start first field elem) := by
  have hrest (j : ℕ) (aligned : Option ℕ) :
      Blind G (registersFrom nf elemPerReg field elem j aligned) := by
    unfold registersFrom
    infer_instance
  rw [wholeRegisters_eq]
  infer_instance

/-- The loops, when the handler of exceptions does not see it either. -/
theorem WholeRegister.blind_loops {i : VextMemInst} {w : WholeRegister} (h : i.whole = some w)
    {fault : Xlenbits → ExceptionType → M (Option ℕ)} (hf : ∀ a e, Blind G (fault a e))
    (start : ℕ) : Blind G (w.loops fault start) := by
  cases i <;> cases h
  · refine blind_wholeRegisters (fun f i c => ?_) (fun _ => Exec.plain_pure ())
      (fun _ j i c => ?_)
    · unfold wholeLoadElem
      infer_instance
    · unfold wholeLoadElem
      infer_instance
  · dsimp only
    refine blind_wholeRegisters (fun f i c => ?_) (fun j => ?_) (fun b j i c => ?_)
    · unfold wholeStoreElem
      infer_instance
    · exact blind_readVreg ..
    · unfold wholeStoreElem
      infer_instance

end Blind

instance : AccessBlind (fun (a : Aside) s => s.withAside a) where
  addr _ _ := inferInstance
  translate _ _ := inferInstance
  read _ _ := inferInstance
  writeEa _ _ := inferInstance
  write _ _ _ := inferInstance
  rV _ := unaware_reads (fun _ _ => rfl)
  wV r v := by
    have hset : Unaware (Exec.update (fun s : State => { s with
        v := Function.update s.v r.toFin v }) : M Unit) := unaware_update (fun _ _ => rfl)
    have hdirty : Unaware dirtyVContext := by
      unfold dirtyVContext
      exact @Exec.plain_bind _ _ _ _ _ _ _ _ _ _ _ inferInstance
        (fun _ => unaware_update (fun _ _ => rfl))
    unfold wV
    infer_instance
  start _ := unaware_update (fun _ _ => rfl)

/-! ## Other values of `vtype` and `vl` -/

/-- The state with other values of `vtype` and `vl`. -/
def State.configured (s : State) (c : Xlenbits × Xlenbits) : State :=
  { s with
    vtype := c.1
    vl := c.2 }

/-- `m` neither sees nor changes `vtype` and `vl`. -/
abbrev VtypeFree {α : Type} (m : M α) : Prop :=
  Blind (fun (c : Xlenbits × Xlenbits) s => s.configured c) m

/-- What sees no register that accesses put aside sees no `vtype` and no `vl`. -/
theorem Unaware.vtypeFree {α : Type} {m : M α} (h : Unaware m) : VtypeFree m where
  keeps := ⟨fun _ => trivial⟩
  comm c := by
    refine ⟨fun s => ?_⟩
    have hrun := h.run_withAside { s.aside with
      vtype := c.1
      vl := c.2 } s
    refine hrun.trans ?_
    cases hm : m.run s with
    | error e => rfl
    | ok p =>
        have haside : p.2.aside = s.aside := h.aside_eq hm
        rw [← haside]
        rfl
  avoids _ _ h := h.elim

instance : AccessBlind (fun (c : Xlenbits × Xlenbits) s => s.configured c) where
  addr _ _ := Unaware.vtypeFree inferInstance
  translate _ _ := Unaware.vtypeFree inferInstance
  read _ _ := Unaware.vtypeFree inferInstance
  writeEa _ _ := Unaware.vtypeFree inferInstance
  write _ _ _ := Unaware.vtypeFree inferInstance
  rV _ := Unaware.vtypeFree inferInstance
  wV _ _ := Unaware.vtypeFree inferInstance
  start _ := Unaware.vtypeFree inferInstance

instance vtypeFree_handleSync (e : SyncException) : VtypeFree (handleSync e) where
  keeps := ⟨fun _ => trivial⟩
  comm c := by
    refine ⟨fun s => ?_⟩
    let a : Aside := ⟨s.nextPC, s.instbits, c.1, c.2⟩
    change (handleSync e).run (s.withAside a) = _
    rcases alike_handleSync e s a with ⟨err, hm, hm'⟩ | ⟨x, t, y, u, hm, hm', haside, rfl⟩
    · rw [hm, hm']
      rfl
    · have hbits : t.instbits = s.instbits := congrArg Aside.instbits haside
      have hrest : t.withAside { a with nextPC := t.nextPC } = t.configured c := by
        change t.withAside ⟨t.nextPC, s.instbits, c.1, c.2⟩ = _
        rw [← hbits]
        rfl
      rw [hm, hm', hrest]
      rfl
  avoids _ _ h := h.elim

instance vtypeFree_handleIllegal : VtypeFree handleIllegal := by
  have : VtypeFree (Exec.reads (fun s => some s.instbits) : M (Option Xlenbits)) :=
    @Exec.plain_reads _ _ _ _ _ _ _ _ _ ⟨fun _ _ => rfl⟩
  unfold handleIllegal
  infer_instance

instance vtypeFree_faultExit {α : Type} (vaddr : Xlenbits) (e : ExceptionType) :
    VtypeFree (faultExit vaddr e : M (Option α)) := by
  unfold faultExit handleMemException
  infer_instance

/-- From the values `c` and `c'` of `vtype` and `vl` the run has the same result, or aborts with the
same error, and ends in states that differ only in `vtype` and `vl`, which keep their values. -/
def SameOutcome (m : M Retired) (s : State) (c c' : Xlenbits × Xlenbits) : Prop :=
  Exec.Alike (fun r t r' t' => r = r' ∧ t = t.configured c ∧ t' = t.configured c')
    m (s.configured c) m (s.configured c')

/-- What sees no `vtype` has the same outcome. -/
theorem VtypeFree.sameOutcome {m : M Retired} (h : VtypeFree m) (s : State)
    (c c' : Xlenbits × Xlenbits) : SameOutcome m s c c' := by
  have hrun := (h.comm c).run_comm s
  have hrun' := (h.comm c').run_comm s
  cases hm : m.run s with
  | error e =>
      rw [hm] at hrun hrun'
      exact Or.inl ⟨e, hrun, hrun'⟩
  | ok p =>
      rw [hm] at hrun hrun'
      exact Or.inr ⟨_, _, _, _, hrun, hrun', rfl, rfl, rfl⟩

/-- **The outcome does not depend on `vtype` beyond the range of `vstart`.** -/
theorem WholeRegister.sameOutcome {i : VextMemInst} {w : WholeRegister} (h : i.whole = some w)
    {s : State} {c c' : Xlenbits × Xlenbits}
    (hrange : startRange s.vstart c.1 = startRange s.vstart c'.1) :
    SameOutcome w.process s c c' := by
  have hloops (start : ℕ) : VtypeFree (w.loops faultExit start) :=
    blind_loops h (fun _ _ => inferInstance) start
  rcases hc : startRange s.vstart c.1 with _ | b
  · exact Or.inl ⟨_, run_process_reserved hc, run_process_reserved (hrange.symm.trans hc)⟩
  · have hfree : VtypeFree ((if b then pure () else handleIllegal) >>= fun _ =>
        if s.vstart.toNat ≥ w.count then pure .RETIRE_SUCCESS
        else w.loops faultExit s.vstart.toNat : M Retired) := inferInstance
    have hsame := hfree.sameOutcome s c c'
    have hrun := run_process (w := w) (s := s.configured c) hc
    have hrun' := run_process (w := w) (s := s.configured c') (hrange.symm.trans hc)
    unfold SameOutcome Exec.Alike at hsame ⊢
    rw [hrun, hrun']
    exact hsame

/-- The check of the number of registers. -/
theorem run_orIllegalFields {w : WholeRegister} (hl : w.Legal) (k : M Retired) (s : State) :
    (orIllegalFields w.nf k).run s = k.run s := by
  refine run_orIllegal_of_false ?_
  rcases hl with hl | hl | hl | hl <;> rw [hl] <;> rfl

/-- **A whole-register load or store does not depend on `vtype` and `vl`** as long as the values of
`vtype` agree on whether `vstart` is in its range. -/
theorem whole_register_sameOutcome {i : VextMemInst} {w : WholeRegister} (h : i.whole = some w)
    {s : State} {c c' : Xlenbits × Xlenbits}
    (hrange : startRange s.vstart c.1 = startRange s.vstart c'.1) :
    SameOutcome i.execute s c c' := by
  rw [VextMemInst.execute_of_whole h]
  by_cases hl : w.Legal
  · have hsame := WholeRegister.sameOutcome h hrange
    unfold SameOutcome Exec.Alike at hsame ⊢
    simp only [run_orIllegalFields hl]
    exact hsame
  · have hill : VtypeFree illegal := by
      unfold illegal
      infer_instance
    have hbad : (!(w.nf == 1 || w.nf == 2 || w.nf == 4 || w.nf == 8)) = true := by
      unfold WholeRegister.Legal at hl
      simpa [not_or, and_assoc] using hl
    have hsame := hill.sameOutcome s c c'
    have hrun (t : State) : (orIllegalFields w.nf w.process).run t = illegal.run t :=
      run_orIllegal_of_true hbad
    unfold SameOutcome Exec.Alike at hsame ⊢
    simp only [hrun]
    exact hsame

omit [Platform] in
/-- `vl1re64.v` with `vstart` 3 and `vtype` for elements of 8 and of 64 bits. -/
theorem whole_register_sameOutcome_vl1re64 :
    letI := rv64Pmp 16 (by decide)
    let s := { State.zero (fun _ => 0#8) with vstart := 3#16 }
    SameOutcome (VextMemInst.VLRETYPE 0#3 1#5 .VLE64 2#5).execute s (0#64, 0#64) (0x18#64, 8#64) := by
  let := rv64Pmp 16 (by decide)
  exact whole_register_sameOutcome rfl (by decide +kernel)

end SailRiscv
