/-
# Registers that accesses to memory do not see

The address of the next instruction, the word of the current one, `vtype` and `vl` are neither read
nor written by the operations that move data between the registers and the memory, or by the entry
of a trap, which only sets the address of the next instruction.
-/
import SailRiscv.Lib.TwoRuns
import SailRiscv.FpFree
import SailRiscv.VmemRuns

namespace SailRiscv

open Bits Platform

variable [Platform]

/-! ## The registers -/

/-- The registers that an access to memory does not see. -/
structure Aside where
  nextPC : Xlenbits
  instbits : Xlenbits
  vtype : Xlenbits
  vl : Xlenbits

/-- These registers of a state. -/
def State.aside (s : State) : Aside := ⟨s.nextPC, s.instbits, s.vtype, s.vl⟩

/-- The state with other values of these registers. -/
def State.withAside (s : State) (a : Aside) : State :=
  { s with
    nextPC := a.nextPC
    instbits := a.instbits
    vtype := a.vtype
    vl := a.vl }

@[simp] theorem State.withAside_aside (s : State) : s.withAside s.aside = s := rfl

@[simp] theorem State.aside_withAside (s : State) (a : Aside) : (s.withAside a).aside = a := rfl

@[simp] theorem State.withAside_withAside (s : State) (a b : Aside) :
    (s.withAside a).withAside b = s.withAside b := rfl

/-- `m` neither reads nor writes these registers. -/
abbrev Unaware {α : Type} (m : M α) : Prop :=
  Exec.Plain Anything.rel (fun (a : Aside) s => s.withAside a) (fun _ => False) m

/-- A run with other values of these registers. -/
theorem Unaware.run_withAside {α : Type} {m : M α} (h : Unaware m) (a : Aside) (s : State) :
    m.run (s.withAside a) = (m.run s).map (fun p => (p.1, p.2.withAside a)) :=
  (h.comm a).run_comm s

/-- A completed run leaves these registers alone. -/
theorem Unaware.aside_eq {α : Type} {m : M α} (h : Unaware m) {s s' : State} {x : α}
    (hm : m.run s = .ok (x, s')) : s'.aside = s.aside := by
  have hrun := (h.comm s.aside).run_ok hm
  rw [s.withAside_aside] at hrun
  have heq : s' = s'.withAside s.aside := (Prod.ext_iff.mp (Except.ok.inj (hm.symm.trans hrun))).2
  rw [heq, State.aside_withAside]

/-- Runs with different values of these registers are alike. -/
theorem Unaware.alike {α : Type} {m : M α} (h : Unaware m) (s : State) (a : Aside) :
    Exec.Alike (fun x t y u => x = y ∧ t.aside = s.aside ∧ u = t.withAside a) m s m
      (s.withAside a) := by
  cases hm : m.run s with
  | error e => exact Or.inl ⟨e, hm, (h.comm a).run_error hm⟩
  | ok p => exact Or.inr ⟨p.1, p.2, p.1, _, hm, (h.comm a).run_ok hm, rfl, h.aside_eq hm, rfl⟩

/-! ## Primitive operations -/

section

variable {α : Type}

theorem unaware_reads {f : State → α} (h : ∀ a s, f (s.withAside a) = f s) :
    Unaware (Exec.reads f : M α) :=
  @Exec.plain_reads _ _ _ _ _ _ _ _ f ⟨h⟩

theorem unaware_checks {f : State → Except ModelError α} (h : ∀ a s, f (s.withAside a) = f s) :
    Unaware (Exec.checks f) :=
  Exec.plain_checks h (fun _ _ hE => hE.elim)

theorem unaware_update {f : State → State} (h : ∀ a s, f (s.withAside a) = (f s).withAside a) :
    Unaware (Exec.update f : M Unit) :=
  Exec.plain_update (fun _ => trivial) h

instance (e : ModelError) : Unaware (Exec.abort e : M α) := Exec.plain_abort id

instance (msg : String) : Unaware (internalError msg : M α) := by
  unfold internalError
  infer_instance

instance (c : Bool) (msg : String) : Unaware (assert c msg) := by
  unfold assert
  infer_instance

instance unaware_rX (r : Regidx) : Unaware (rX r) := unaware_reads (fun _ _ => rfl)

instance unaware_wX (r : Regidx) (v : Xlenbits) : Unaware (wX r v) := by
  refine unaware_update (fun a s => ?_)
  unfold State.setX
  split <;> rfl

instance unaware_retireX (r : Regidx) (v : Xlenbits) : Unaware (retireX r v) := by
  unfold retireX
  infer_instance

instance unaware_pc : Unaware (Exec.reads State.pc : M Xlenbits) := unaware_reads (fun _ _ => rfl)

instance unaware_getArchPc : Unaware getArchPc := unaware_pc

instance unaware_extDataGetAddr (base : Regidx) (offset : Xlenbits) :
    Unaware (extDataGetAddr base offset) := unaware_reads (fun _ _ => rfl)

instance unaware_dcRead (addr : Xlenbits) : Unaware (dcRead addr) :=
  unaware_update (fun _ _ => rfl)

instance unaware_dcWrite (addr : Xlenbits) : Unaware (dcWrite addr) :=
  unaware_update (fun _ _ => rfl)

end

/-! ## Memory -/

/-- A read of memory sees none of these registers. -/
theorem memReadPriv_withAside (a : Aside) (s : State) (t : AccessType) (priv : Privilege)
    (pa : Xlenbits) (n : ℕ) (aq rl res : Bool) :
    memReadPriv (s.withAside a) t priv pa n aq rl res = memReadPriv s t priv pa n aq rl res := by
  have hpmp : SamePmp s (s.withAside a) := ⟨rfl, rfl⟩
  unfold memReadPriv checkedMemRead
  rw [physAccessCheck_congr hpmp]
  rfl

instance unaware_memRead (t : AccessType) (pa : Xlenbits) (n : ℕ) (aq rl res : Bool) :
    Unaware (memRead t pa n aq rl res) := by
  unfold memRead
  refine unaware_checks (fun a s => ?_)
  simp only [memReadPriv_withAside]
  rfl

instance unaware_memWriteEa (pa : Xlenbits) (n : ℕ) (aq rl con : Bool) :
    Unaware (Exec.checks (fun _ => memWriteEa pa n aq rl con)) :=
  unaware_checks (fun _ _ => rfl)

instance unaware_clintStore (addr : Xlenbits) (n : ℕ) (data : BitVec (8 * n)) :
    Unaware (clintStore addr n data) := by
  have hdispatch : Unaware clintDispatch := unaware_update (fun _ _ => rfl)
  have hstored {f : State → State} (h : ∀ a s, f (s.withAside a) = (f s).withAside a) :
      Unaware (do
        Exec.update f
        clintDispatch
        pure (.MemValue true) : M (MemoryOpResult Bool)) := by
    have := unaware_update h
    infer_instance
  unfold clintStore
  repeat' first
    | infer_instance
    | exact hstored (fun _ _ => rfl)
    | refine @Exec.plain_ite _ _ _ _ _ _ _ _ _ _ _ ?_ ?_

instance unaware_htifStore (addr : Xlenbits) (n : ℕ) (data : BitVec (8 * n)) :
    Unaware (htifStore addr n data) := by
  have hport : Unaware (Exec.update (htifWritePort addr n data) : M Unit) := by
    refine unaware_update (fun a s => ?_)
    unfold htifWritePort
    split
    · rfl
    · split
      · rfl
      · split <;> rfl
  have hexec : Unaware
      (Exec.update (fun s => if htifReady s then htifExecute s else s) : M Unit) := by
    refine unaware_update (fun a s => ?_)
    have hready : htifReady (s.withAside a) = htifReady s := rfl
    have hdo : htifExecute (s.withAside a) = (htifExecute s).withAside a := by
      unfold htifExecute resetHtif State.withAside
      dsimp only
      split_ifs <;> rfl
    rw [hready, hdo]
    split <;> rfl
  unfold htifStore
  infer_instance

/-- A write to memory. -/
instance unaware_memWriteValuePrivMeta (pa : Xlenbits) (n : ℕ) (v : BitVec (8 * n))
    (t : AccessType) (priv : Privilege) (aq rl con : Bool) :
    Unaware (memWriteValuePrivMeta pa n v t priv aq rl con) := by
  have hmem : Unaware (Exec.update (fun s => { s with
      mem := Bytes.write s.mem pa.toNat n v }) : M Unit) := unaware_update (fun _ _ => rfl)
  have hkind : Unaware (Exec.checks (fun _ => writeKindOfFlags aq rl con)) :=
    unaware_checks (fun _ _ => rfl)
  have hcheck : Unaware (Exec.checks (fun s => physAccessCheck s t priv pa n)) :=
    unaware_checks (fun a s => physAccessCheck_congr ⟨rfl, rfl⟩ _ _ _ _)
  unfold memWriteValuePrivMeta checkedMemWrite physMemWrite mmioWrite
  refine @Exec.plain_ite _ _ _ _ _ _ _ _ _ _ _ inferInstance ?_
  refine @Exec.plain_bind _ _ _ _ _ _ _ _ _ _ _ hcheck (fun c => ?_)
  cases c <;> infer_instance

instance unaware_memWriteValuePriv (pa : Xlenbits) (n : ℕ) (v : BitVec (8 * n))
    (priv : Privilege) (aq rl con : Bool) :
    Unaware (memWriteValuePriv pa n v priv aq rl con) := unaware_memWriteValuePrivMeta ..

instance unaware_memWriteValue (pa : Xlenbits) (n : ℕ) (v : BitVec (8 * n)) (aq rl con : Bool) :
    Unaware (memWriteValue pa n v aq rl con) := by
  have : Unaware (Exec.checks (fun s => effectivePrivilege .Write s.mstatus s.curPrivilege)) :=
    unaware_checks (fun _ _ => rfl)
  unfold memWriteValue
  infer_instance

/-! ## Address translation -/

/-- The page-table walk sees none of these registers. -/
theorem ptWalk_withAside (a : Aside) (s : State) (p : SVParams) (va : BitVec 64)
    (ac : AccessType) (priv : Privilege) (mxr doSum : Bool) (base : BitVec 64) (level : ℕ)
    (global : Bool) : ptWalk (s.withAside a) p va ac priv mxr doSum base level global
      = ptWalk s p va ac priv mxr doSum base level global := by
  have hread (x : BitVec 64) : readPTE (s.withAside a) p x = readPTE s p x := by
    unfold readPTE
    rw [memReadPriv_withAside]
  induction level generalizing base global with
  | zero =>
      unfold ptWalk
      simp only [hread]
  | succ level ih =>
      unfold ptWalk
      simp only [hread, ih]

/-- A translation through the TLB and the page tables. -/
instance unaware_translate (p : SVParams) (asid : BitVec 16) (ptb vAddr : BitVec 64)
    (ac : AccessType) (priv : Privilege) (mxr doSum : Bool) :
    Unaware (translate p asid ptb vAddr ac priv mxr doSum) := by
  have hlookup : Unaware (Exec.reads (fun s => lookupTLB s asid vAddr)) :=
    unaware_reads (fun _ _ => rfl)
  have htlb (i : Fin 64) (e : TLBEntry) : Unaware (writeTLB i e) := unaware_update (fun _ _ => rfl)
  have hadd (pa pte a : BitVec 64) (level n : ℕ) (g : Bool) :
      Unaware (addToTLB asid vAddr pa pte a level g n) := by
    unfold addToTLB
    exact @Exec.plain_bind _ _ _ _ _ _ _ _ _ _ _ inferInstance
      (fun _ => unaware_update (fun _ _ => rfl))
  have hpte (a : Xlenbits) (x : BitVec 64) : Unaware (writePte p a x) := by
    unfold writePte
    infer_instance
  have hperm (flags : BitVec 8) :
      Unaware (Exec.checks (fun _ => checkPTEPermission ac priv mxr doSum flags)) :=
    unaware_checks (fun _ _ => rfl)
  have hwalk : Unaware (Exec.checks (fun s => ptWalk s p vAddr ac priv mxr doSum ptb
      (p.levels - 1) false)) :=
    unaware_checks (fun a s => ptWalk_withAside ..)
  unfold translate
  refine @Exec.plain_bind _ _ _ _ _ _ _ _ _ _ _ hlookup (fun r => ?_)
  rcases r with _ | ⟨i, e⟩
  · dsimp only
    unfold translateTLBMiss
    refine @Exec.plain_bind _ _ _ _ _ _ _ _ _ _ _ hwalk (fun w => ?_)
    cases w with
    | PTW_Failure f => infer_instance
    | PTW_Success o =>
        dsimp only
        cases updatePTEBits o.pte ac with
        | none => infer_instance
        | some x =>
            refine @Exec.plain_ite _ _ _ _ _ _ _ _ _ _ _ inferInstance ?_
            refine @Exec.plain_bind _ _ _ _ _ _ _ _ _ _ _ inferInstance (fun w => ?_)
            cases w <;> infer_instance
  · dsimp only
    unfold translateTLBHit
    refine @Exec.plain_bind _ _ _ _ _ _ _ _ _ _ _ inferInstance (fun b => ?_)
    refine @Exec.plain_ite _ _ _ _ _ _ _ _ _ _ _ inferInstance ?_
    cases updatePTEBits e.pte ac with
    | none => infer_instance
    | some x =>
        refine @Exec.plain_ite _ _ _ _ _ _ _ _ _ _ _ inferInstance ?_
        refine @Exec.plain_bind _ _ _ _ _ _ _ _ _ _ _ inferInstance (fun _ => ?_)
        refine @Exec.plain_bind _ _ _ _ _ _ _ _ _ _ _ inferInstance (fun w => ?_)
        cases w <;> infer_instance

instance unaware_translateAddr (va : Xlenbits) (ac : AccessType) :
    Unaware (translateAddr va ac) := by
  have hpriv : Unaware (Exec.checks (fun s => effectivePrivilege ac s.mstatus s.curPrivilege)) :=
    unaware_checks (fun _ _ => rfl)
  have hmode (priv : Privilege) : Unaware (Exec.checks (fun s => translationMode s priv)) :=
    unaware_checks (fun _ _ => rfl)
  unfold translateAddr
  refine @Exec.plain_bind _ _ _ _ _ _ _ _ _ _ _ inferInstance (fun priv => ?_)
  refine @Exec.plain_bind _ _ _ _ _ _ _ _ _ _ _ inferInstance (fun mode => ?_)
  cases svParams mode with
  | none => infer_instance
  | some p =>
      refine @Exec.plain_ite _ _ _ _ _ _ _ _ _ _ _ inferInstance ?_
      refine Exec.plain_get_bind (fun s => ?_) (fun _ _ => rfl)
      refine @Exec.plain_bind _ _ _ _ _ _ _ _ _ _ _ inferInstance (fun r => ?_)
      cases r <;> infer_instance

/-! ## Traps -/

/-- The entry of a trap, up to the address of the next instruction. -/
instance unaware_trapHandler (p : Privilege) (intr : Bool) (c : BitVec 8) (pc : Xlenbits)
    (info : Option Xlenbits) : Unaware (trapHandler p intr c pc info) := by
  have hcheck (p : Privilege) {f : State → Xlenbits} (h : ∀ a s, f (s.withAside a) = f s) :
      Unaware (Exec.checks (fun s => prepareTrapVector s p (f s))) := by
    refine unaware_checks (fun a s => ?_)
    rw [h]
    rfl
  have hS : Unaware (Exec.reads (fun s => extensionEnabled s .S)) := unaware_reads (fun _ _ => rfl)
  have hpriv : Unaware (Exec.reads State.curPrivilege : M Privilege) :=
    unaware_reads (fun _ _ => rfl)
  unfold trapHandler
  cases p with
  | User => infer_instance
  | Machine =>
      exact @Exec.plain_bind _ _ _ _ _ _ _ _ _ _ _ (unaware_update (fun _ _ => rfl))
        (fun _ => hcheck .Machine (fun _ _ => rfl))
  | Supervisor =>
      refine @Exec.plain_bind _ _ _ _ _ _ _ _ _ _ _ inferInstance (fun b => ?_)
      refine @Exec.plain_bind _ _ _ _ _ _ _ _ _ _ _ inferInstance (fun _ => ?_)
      refine @Exec.plain_bind _ _ _ _ _ _ _ _ _ _ _ inferInstance (fun priv => ?_)
      have hend (spp : BitVec 1) : Unaware (do
          Exec.update (fun s => { s with
            scause := trapCause s.scause intr c
            mstatus := mstatusTrapS s.mstatus spp
            stval := tval info
            sepc := pc
            curPrivilege := .Supervisor })
          Exec.checks (fun s => prepareTrapVector s .Supervisor s.scause) : M Xlenbits) :=
        @Exec.plain_bind _ _ _ _ _ _ _ _ _ _ _ (unaware_update (fun _ _ => rfl))
          (fun _ => hcheck .Supervisor (fun _ _ => rfl))
      cases priv <;> infer_instance

/-- An exception with other values of these registers: it sets the address of the next
instruction. -/
theorem alike_handleSync (e : SyncException) (s : State) (a : Aside) :
    Exec.Alike (fun _ t _ u => t.aside = { s.aside with nextPC := t.nextPC }
        ∧ u = t.withAside { a with nextPC := t.nextPC })
      (handleSync e) s (handleSync e) (s.withAside a) := by
  have hpriv : Unaware (Exec.reads State.curPrivilege : M Privilege) :=
    unaware_reads (fun _ _ => rfl)
  have hdel (priv : Privilege) : Unaware
      (Exec.reads (fun s => exceptionDelegatee s e.trap priv) : M Privilege) :=
    unaware_reads (fun _ _ => rfl)
  have hexc : Unaware (do
      exceptionHandler (← Exec.reads State.curPrivilege) (.CTL_TRAP e) (← Exec.reads State.pc)
      : M Xlenbits) := by
    unfold exceptionHandler
    infer_instance
  have hsplit : handleSync e = (do
      exceptionHandler (← Exec.reads State.curPrivilege) (.CTL_TRAP e) (← Exec.reads State.pc)
      : M Xlenbits) >>= setNextPc := by
    unfold handleSync
    simp only [bind_assoc]
  rw [hsplit]
  refine Exec.alike_bind (hexc.alike s a) ?_
  rintro target t _ _ - - ⟨rfl, haside, rfl⟩
  refine Exec.alike_update ⟨?_, rfl⟩
  rw [← haside]
  rfl

end SailRiscv
