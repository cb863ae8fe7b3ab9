/-
# What a memory access changes

Stores reach the devices or the memory, and a translation changes the TLB as well.  The three
classes below say that a relation between states allows for these changes; the operations on
memory then keep it.

* `DeviceClosed R` : `R` allows for changes of the devices;
* `BusClosed R` : and for stores to the memory;
* `TlbClosed R` : and for changes of the TLB.
-/
import SailRiscv.PteBits

namespace SailRiscv

open Bits Platform

variable [Platform]

/-! ## Primitive operations -/

instance keeps_assert {R : State → State → Prop} [Std.Refl R] (c : Bool) (msg : String) :
    Exec.Keeps R (assert c msg) := by
  unfold assert
  infer_instance

instance keeps_internalError {R : State → State → Prop} {α : Type} (msg : String) :
    Exec.Keeps R (internalError msg : M α) := by
  unfold internalError
  infer_instance

instance keeps_get {R : State → State → Prop} [Std.Refl R] : Exec.Keeps R (get : M State) where
  rel h := by
    cases h
    exact Std.Refl.refl _

/-! ## The devices -/

/-- The registers of the devices. -/
structure DeviceRegs where
  mip : Xlenbits
  mtimecmp : BitVec 64
  mtime : BitVec 64
  htifTohost : BitVec 64
  htifDone : Bool
  htifExitCode : BitVec 64
  htifCmdWrite : Bool
  htifPayloadWrites : BitVec 4
  termOutput : List (BitVec 8)

/-- The state with other device registers. -/
def State.withDevices (s : State) (d : DeviceRegs) : State :=
  { s with
    mip := d.mip
    mtimecmp := d.mtimecmp
    mtime := d.mtime
    htifTohost := d.htifTohost
    htifDone := d.htifDone
    htifExitCode := d.htifExitCode
    htifCmdWrite := d.htifCmdWrite
    htifPayloadWrites := d.htifPayloadWrites
    termOutput := d.termOutput }

/-- The device registers of a state. -/
def State.deviceRegs (s : State) : DeviceRegs where
  mip := s.mip
  mtimecmp := s.mtimecmp
  mtime := s.mtime
  htifTohost := s.htifTohost
  htifDone := s.htifDone
  htifExitCode := s.htifExitCode
  htifCmdWrite := s.htifCmdWrite
  htifPayloadWrites := s.htifPayloadWrites
  termOutput := s.termOutput

/-- The relation allows for changes of the devices. -/
class DeviceClosed (R : State → State → Prop) : Prop extends Std.Refl R, IsTrans State R where
  devices : ∀ s d, R s (s.withDevices d)

/-- A store that `checked_mem_write` lets through to the memory: the write-back of a page-table
entry, which is checked at Supervisor level, or a store at the effective privilege. -/
structure StoreAllowed (s : State) (a : Xlenbits) (n : ℕ) : Prop where
  inMem : withinPhysMem a n = true
  checked : ∃ p, (p = .Supervisor
      ∨ effectivePrivilege .Write s.mstatus s.curPrivilege = .ok p)
    ∧ physAccessCheck s .Write p a n = .ok none

/-- The relation allows for changes of the devices and for stores to the memory. -/
class BusClosed (R : State → State → Prop) : Prop extends DeviceClosed R where
  store : ∀ s (a : Xlenbits) n (v : BitVec (8 * n)), StoreAllowed s a n →
    R s { s with mem := Bytes.write s.mem a.toNat n v }

/-- The entries of the TLB hold valid PTEs with A set. -/
def TlbLegal (t : Fin 64 → Option TLBEntry) : Prop :=
  ∀ i e, t i = some e → e.pte.getLsbD 6 = true ∧ pteIsInvalid (pteFlags e.pte) = false

/-- The relation allows for all that a translation changes, which keeps the TLB legal. -/
class TlbClosed (R : State → State → Prop) : Prop extends BusClosed R where
  tlb : ∀ s t, (TlbLegal s.tlb → TlbLegal t) → R s { s with tlb := t }

section Devices

variable {R : State → State → Prop} [DeviceClosed R]

/-- A change of the devices keeps the relation. -/
theorem keeps_devices {f : State → State} (h : ∀ s, f s = s.withDevices (f s).deviceRegs) :
    Exec.Keeps R (Exec.update f : M Unit) := by
  refine Exec.keeps_update (fun s => ?_)
  rw [h s]
  exact DeviceClosed.devices s _

instance keeps_clintDispatch : Exec.Keeps R clintDispatch := keeps_devices (fun _ => rfl)

instance keeps_clintStore (a : Xlenbits) (n : ℕ) (data : BitVec (8 * n)) :
    Exec.Keeps R (clintStore a n data) := by
  unfold clintStore
  have hst {f : State → State} (h : ∀ s, f s = s.withDevices (f s).deviceRegs) :
      Exec.Keeps R (do
        Exec.update f
        clintDispatch
        pure (.MemValue true) : M (MemoryOpResult Bool)) := by
    have := keeps_devices (R := R) h
    infer_instance
  repeat' first
    | infer_instance
    | exact hst (fun _ => rfl)
    | refine @Exec.keeps_ite _ _ _ _ _ _ _ _ ?_ ?_

instance keeps_htifStore (a : Xlenbits) (n : ℕ) (data : BitVec (8 * n)) :
    Exec.Keeps R (htifStore a n data) := by
  have hport : Exec.Keeps R (Exec.update (htifWritePort a n data) : M Unit) := by
    refine keeps_devices (fun s => ?_)
    unfold htifWritePort
    split
    · rfl
    · split
      · rfl
      · split <;> rfl
  have hexec : Exec.Keeps R
      (Exec.update (fun s => if htifReady s then htifExecute s else s) : M Unit) := by
    refine keeps_devices (fun s => ?_)
    unfold htifExecute resetHtif
    dsimp only
    split_ifs <;> rfl
  unfold htifStore
  infer_instance

instance keeps_mmioWrite (a : Xlenbits) (n : ℕ) (data : BitVec (8 * n)) :
    Exec.Keeps R (mmioWrite a n data) := by
  unfold mmioWrite
  infer_instance

end Devices

/-! ## The memory -/

section Bus

variable {R : State → State → Prop} [BusClosed R]

/-- A store after the checks, at Supervisor level or at the effective privilege. -/
theorem rel_memWriteValuePriv {paddr : Xlenbits} {width : ℕ} {value : BitVec (8 * width)}
    {priv : Privilege} {aq rl con : Bool} {s s' : State} {r : MemoryOpResult Bool}
    (hpriv : priv = .Supervisor
      ∨ effectivePrivilege .Write s.mstatus s.curPrivilege = .ok priv)
    (h : (memWriteValuePriv paddr width value priv aq rl con).run s = .ok (r, s')) : R s s' := by
  unfold memWriteValuePriv memWriteValuePrivMeta at h
  by_cases halign : ((rl || con) && !isAlignedAddr paddr width) = true
  · rw [if_pos halign] at h
    cases h
    exact Std.Refl.refl _
  rw [if_neg halign] at h
  unfold checkedMemWrite at h
  obtain ⟨e, s₁, hcheck, hrest⟩ := Exec.run_bind_ok.mp h
  obtain ⟨hphys, rfl⟩ := Exec.run_checks_ok.mp hcheck
  cases e with
  | some e =>
      cases hrest
      exact Std.Refl.refl _
  | none =>
      by_cases hmmio : withinMmioWritable paddr width = true
      · simp only [if_pos hmmio] at hrest
        exact (keeps_mmioWrite paddr width value).rel hrest
      simp only [if_neg hmmio] at hrest
      by_cases hmem : withinPhysMem paddr width = true
      · rw [if_pos hmem] at hrest
        obtain ⟨_, s₂, hkind, hstore⟩ := Exec.run_bind_ok.mp hrest
        obtain ⟨-, rfl⟩ := Exec.run_checks_ok.mp hkind
        cases hstore
        exact BusClosed.store _ _ _ _ ⟨hmem, priv, hpriv, hphys⟩
      · rw [if_neg hmem] at hrest
        cases hrest
        exact Std.Refl.refl _

instance keeps_memWriteValue (paddr : Xlenbits) (width : ℕ) (value : BitVec (8 * width))
    (aq rl con : Bool) : Exec.Keeps R (memWriteValue paddr width value aq rl con) where
  rel h := by
    unfold memWriteValue at h
    obtain ⟨p, s₁, hp, hrest⟩ := Exec.run_bind_ok.mp h
    obtain ⟨heff, rfl⟩ := Exec.run_checks_ok.mp hp
    exact rel_memWriteValuePriv (Or.inr heff) hrest

instance keeps_writePte (p : SVParams) (paddr : Xlenbits) (pte : BitVec 64) :
    Exec.Keeps R (writePte p paddr pte) where
  rel h := by
    unfold writePte at h
    exact rel_memWriteValuePriv (Or.inl rfl) h

end Bus

/-- A read of memory changes nothing. -/
instance keeps_memRead {R : State → State → Prop} [Std.Refl R] (t : AccessType)
    (paddr : Xlenbits) (width : ℕ) (aq rl res : Bool) :
    Exec.Keeps R (memRead t paddr width aq rl res) := by
  unfold memRead
  infer_instance

/-! ## The TLB -/

section Tlb

omit [Platform]

variable {t : Fin 64 → Option TLBEntry} {i : Fin 64} {e : TLBEntry} {pte x : BitVec 64}
  {ac : AccessType}

/-- An entry that is replaced by a legal one. -/
theorem TlbLegal.update (h : TlbLegal t) (ha : e.pte.getLsbD 6 = true)
    (hvalid : pteIsInvalid (pteFlags e.pte) = false) :
    TlbLegal (Function.update t i (some e)) := by
  intro j e' hj
  by_cases hij : j = i
  · subst hij
    rw [Function.update_self] at hj
    cases hj
    exact ⟨ha, hvalid⟩
  · rw [Function.update_of_ne hij] at hj
    exact h j e' hj

/-- Entries that are dropped. -/
theorem TlbLegal.filter (h : TlbLegal t) (keep : TLBEntry → Bool) :
    TlbLegal (fun i => (t i).filter keep) :=
  fun i e hi => h i e (Option.filter_eq_some_iff.mp hi).1

/-- The PTE that an update makes of a valid one. -/
theorem legal_of_updatePTEBits (h : updatePTEBits pte ac = some x)
    (hvalid : pteIsInvalid (pteFlags pte) = false) :
    x.getLsbD 6 = true ∧ pteIsInvalid (pteFlags x) = false := by
  rw [getLsbD_updatePTEBits h 6, if_pos rfl, ← (sameExceptAD_updatePTEBits h).pteIsInvalid]
  exact ⟨rfl, hvalid⟩

end Tlb

/-! ## Translation -/

section Translation

variable {R : State → State → Prop} [TlbClosed R]

/-- A change of the TLB that keeps it legal keeps the relation. -/
theorem keeps_tlb {f : State → Fin 64 → Option TLBEntry}
    (h : ∀ s, TlbLegal s.tlb → TlbLegal (f s)) :
    Exec.Keeps R (Exec.update (fun s => { s with
      tlb := f s }) : M Unit) :=
  Exec.keeps_update (fun s => TlbClosed.tlb s _ (h s))

instance keeps_flushTLB (asid addr : Option Xlenbits) : Exec.Keeps R (flushTLB asid addr) :=
  keeps_tlb (fun _ h => h.filter _)

/-- An entry with a valid PTE that has A set is added. -/
theorem keeps_addToTLB (asid : BitVec 16) (vAddr pAddr pteAddr : BitVec 64) (level : ℕ)
    (global : Bool) (n : ℕ) {pte : BitVec 64}
    (h : pte.getLsbD 6 = true ∧ pteIsInvalid (pteFlags pte) = false) :
    Exec.Keeps R (addToTLB asid vAddr pAddr pte pteAddr level global n) := by
  unfold addToTLB
  exact @Exec.keeps_bind _ _ _ _ _ _ _ _ inferInstance
    (fun _ => keeps_tlb (fun _ ht => ht.update h.1 h.2))

omit [Platform] in
/-- A leaf that is admitted is the PTE of the walk. -/
theorem pte_of_ptwLeaf {p : SVParams} {va pte pteAddr : BitVec 64} {ac : AccessType}
    {priv : Privilege} {mxr doSum global : Bool} {level : ℕ} {o : PTWOutput}
    (h : ptwLeaf p va ac priv mxr doSum pte pteAddr level global = .ok (.PTW_Success o)) :
    o.pte = pte := by
  unfold ptwLeaf at h
  simp only [bind, Except.bind, pure, Except.pure] at h
  split at h
  · cases h
  · split_ifs at h
    all_goals first
      | (cases h; done)
      | exact congrArg PTWOutput.pte (PTWResult.PTW_Success.inj (Except.ok.inj h)).symm

omit [TlbClosed R] in
/-- The leaf of a walk is valid. -/
theorem valid_of_ptWalk {s : State} {p : SVParams} {va base : BitVec 64} {ac : AccessType}
    {priv : Privilege} {mxr doSum global : Bool} {level : ℕ} {o : PTWOutput}
    (h : ptWalk s p va ac priv mxr doSum base level global = .ok (.PTW_Success o)) :
    pteIsInvalid (pteFlags o.pte) = false := by
  induction level generalizing base global with
  | zero =>
      unfold ptWalk at h
      simp only [bind, Except.bind, pure, Except.pure] at h
      repeat' split at h
      all_goals first
        | cases h
        | skip
      next hinv _ =>
        rw [pte_of_ptwLeaf h]
        exact Bool.not_eq_true _ ▸ hinv
  | succ level ih =>
      unfold ptWalk at h
      simp only [bind, Except.bind, pure, Except.pure] at h
      repeat' split at h
      all_goals first
        | cases h
        | skip
      · exact ih h
      · next hinv _ =>
          rw [pte_of_ptwLeaf h]
          exact Bool.not_eq_true _ ▸ hinv

/-- A hit. -/
theorem rel_translateTLBHit {s s' : State} {p : SVParams} {vAddr : BitVec 64} {ac : AccessType}
    {priv : Privilege} {mxr doSum : Bool} {i : Fin 64} {e : TLBEntry}
    {r : TRResult (BitVec 64) PTWError} (hi : s.tlb i = some e)
    (h : (translateTLBHit p vAddr ac priv mxr doSum i e).run s = .ok (r, s')) : R s s' := by
  unfold translateTLBHit at h
  obtain ⟨b, s₁, hb, hthen⟩ := Exec.run_bind_ok.mp h
  obtain ⟨-, rfl⟩ := Exec.run_checks_ok.mp hb
  cases b with
  | false =>
      cases hthen
      exact Std.Refl.refl _
  | true =>
      cases hx : updatePTEBits e.pte ac with
      | none =>
          simp only [hx] at hthen
          cases hthen
          exact Std.Refl.refl _
      | some x =>
          simp only [hx, Bool.not_true, Bool.false_eq_true, if_false] at hthen
          split at hthen
          · cases hthen
            exact Std.Refl.refl _
          obtain ⟨u, s₂, htlb, hwrite⟩ := Exec.run_bind_ok.mp hthen
          have hupd : R s₁ s₂ := by
            cases htlb
            refine TlbClosed.tlb _ _ (fun ht => ?_)
            obtain ⟨ha, hvalid⟩ := legal_of_updatePTEBits hx (ht i e hi).2
            exact ht.update ha hvalid
          obtain ⟨m, s₃, hpte, hend⟩ := Exec.run_bind_ok.mp hwrite
          refine IsTrans.trans _ _ _ hupd
            (IsTrans.trans _ _ _ ((keeps_writePte _ _ _).rel hpte) ?_)
          cases m with
          | MemValue v =>
              cases hend
              exact Std.Refl.refl _
          | MemException e => cases hend

instance keeps_translateTLBMiss (p : SVParams) (asid : BitVec 16) (ptb vAddr : BitVec 64)
    (ac : AccessType) (priv : Privilege) (mxr doSum : Bool) :
    Exec.Keeps R (translateTLBMiss p asid ptb vAddr ac priv mxr doSum) where
  rel {s r s'} h := by
    unfold translateTLBMiss at h
    obtain ⟨w, s₁, hw, hthen⟩ := Exec.run_bind_ok.mp h
    obtain ⟨hwalk, rfl⟩ := Exec.run_checks_ok.mp hw
    cases w with
    | PTW_Failure f =>
        cases hthen
        exact Std.Refl.refl _
    | PTW_Success o =>
        have hvalid := valid_of_ptWalk hwalk
        cases hx : updatePTEBits o.pte ac with
        | none =>
            simp only [hx] at hthen
            obtain ⟨u, s₂, hadd, hend⟩ := Exec.run_bind_ok.mp hthen
            cases hend
            exact (keeps_addToTLB asid vAddr o.pAddr o.pteAddr o.level o.global p.vpnSizeBits
              ⟨(updatePTEBits_eq_none.mp hx).1, hvalid⟩).rel hadd
        | some x =>
            simp only [hx] at hthen
            split at hthen
            · cases hthen
              exact Std.Refl.refl _
            obtain ⟨m, s₂, hpte, hend⟩ := Exec.run_bind_ok.mp hthen
            refine IsTrans.trans _ _ _ ((keeps_writePte _ _ _).rel hpte) ?_
            cases m with
            | MemException e =>
                cases hend
                exact Std.Refl.refl _
            | MemValue v =>
                obtain ⟨u, s₃, hadd, hend'⟩ := Exec.run_bind_ok.mp hend
                cases hend'
                exact (keeps_addToTLB asid vAddr o.pAddr o.pteAddr o.level o.global p.vpnSizeBits
                  (legal_of_updatePTEBits hx hvalid)).rel hadd

instance keeps_translate (p : SVParams) (asid : BitVec 16) (ptb vAddr : BitVec 64)
    (ac : AccessType) (priv : Privilege) (mxr doSum : Bool) :
    Exec.Keeps R (translate p asid ptb vAddr ac priv mxr doSum) where
  rel {s r s'} h := by
    unfold translate at h
    obtain ⟨l, s₁, hl, hthen⟩ := Exec.run_bind_ok.mp h
    cases hl
    rcases hlook : lookupTLB s asid vAddr with _ | ⟨i, e⟩
    · simp only [hlook] at hthen
      exact (keeps_translateTLBMiss p asid ptb vAddr ac priv mxr doSum).rel hthen
    · simp only [hlook] at hthen
      refine rel_translateTLBHit ?_ hthen
      unfold lookupTLB at hlook
      split at hlook
      · cases hlook
      · next he =>
          split at hlook
          · cases hlook
            exact he
          · cases hlook

instance keeps_translateAddr (vaddr : Xlenbits) (ac : AccessType) :
    Exec.Keeps R (translateAddr vaddr ac) := by
  have hres (r : TRResult (BitVec 64) PTWError) : Exec.Keeps R (match r with
      | .TR_Address pa => pure (.TR_Address (pa.setWidth xlen))
      | .TR_Failure f => pure (.TR_Failure (translationException ac f))
      : M (TRResult Xlenbits ExceptionType)) := by
    cases r <;> infer_instance
  unfold translateAddr
  refine @Exec.keeps_bind _ _ _ _ _ _ _ _ _ (fun priv => ?_)
  refine @Exec.keeps_bind _ _ _ _ _ _ _ _ _ (fun mode => ?_)
  cases svParams mode <;> infer_instance

end Translation

end SailRiscv
