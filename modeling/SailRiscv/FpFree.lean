/-
# Operations and the floating-point registers

What is asked of a computation is collected in a `View`: a relation that its completed runs
respect, whether it may see `f0`-`f31` and `fcsr`, and whether it may run into an assertion of the
accessors of these registers.  `FpFree W m` says that `m` does what `W` asks.  This module has the
primitive operations of the model that have nothing to do with these registers: they do
what any view with the right relation asks.
-/
import SailRiscv.Lib.Plain
import SailRiscv.Insts.Common

namespace SailRiscv

open Bits Platform

variable [Platform]

/-! ## The part of the state -/

/-- The state with other floating-point registers. -/
def State.withFp (s : State) (f : Fin 32 → BitVec flen) (fcsr : BitVec 32) : State :=
  { s with
    f := f
    fcsr := fcsr }

/-- Other floating-point registers. -/
def fpSwap (p : (Fin 32 → BitVec flen) × BitVec 32) (s : State) : State := s.withFp p.1 p.2

omit [Platform] in
/-- A failed assertion of an accessor of the floating-point registers. -/
def fpFault : ModelError := .assertFailed fpAccessor

omit [Platform] in
/-- What is asked of a computation. -/
structure View where
  /-- Completed runs are steps of this relation. -/
  rel : State → State → Prop
  /-- Floating-point registers are neither read nor written. -/
  blind : Prop
  /-- The assertions of the accessors of these registers do not fail. -/
  safe : Prop

/-- The changes of the state that a view does not let a computation see. -/
def View.swap (W : View) (p : {_p : (Fin 32 → BitVec flen) × BitVec 32 // W.blind}) (s : State) :
    State := fpSwap p.1 s

omit [Platform] in
/-- The errors that a view excludes. -/
def View.faults (W : View) (e : ModelError) : Prop := W.safe ∧ e = fpFault

/-- `m` does what the view asks. -/
abbrev FpFree {α : Type} (W : View) (m : M α) : Prop := Exec.Plain W.rel W.swap W.faults m

section

variable {W : View} {α : Type}

/-- The state without its floating-point registers decides what `f` is. -/
theorem indep {f : State → α} (h : ∀ p s, f (fpSwap p s) = f s) : Exec.Indep W.swap f :=
  ⟨fun p s => h p.1 s⟩

/-- A check that sees no floating-point registers. -/
theorem fpFree_checks [Std.Refl W.rel] {f : State → Except ModelError α}
    (hG : ∀ p s, f (fpSwap p s) = f s) (he : ∀ s, f s ≠ .error fpFault) :
    FpFree W (Exec.checks f) :=
  Exec.plain_checks (fun p s => hG p.1 s) (fun s _ hE => hE.2 ▸ he s)

/-- An update that sees no floating-point registers. -/
theorem fpFree_update {f : State → State} (hR : ∀ s, W.rel s (f s))
    (hG : ∀ p s, f (fpSwap p s) = fpSwap p (f s)) : FpFree W (Exec.update f : M Unit) :=
  Exec.plain_update hR (fun p s => hG p.1 s)

/-- An abort with another error. -/
theorem fpFree_abort [Std.Refl W.rel] {e : ModelError} (h : e ≠ fpFault) :
    FpFree W (Exec.abort e : M α) :=
  Exec.plain_abort (fun hE => h hE.2)

/-- A computation that depends on the state without its floating-point registers. -/
theorem fpFree_get_bind {k : State → M α} (hk : ∀ s, FpFree W (k s))
    (hG : ∀ p s, k (fpSwap p s) = k s) : FpFree W (get >>= k) :=
  Exec.plain_get_bind hk (fun p s => hG p.1 s)

end

/-- A text that is not the label of the assertions of the accessors. -/
class OtherLabel (msg : String) : Prop where
  ne : msg ≠ fpAccessor

section Labels

omit [Platform]

instance : OtherLabel "" := ⟨by decide⟩
instance : OtherLabel "0 < VLEN & VLEN <= sizeof(vlenmax)" := ⟨by decide⟩
instance : OtherLabel "0 < lowlog2bits & lowlog2bits < 'n" := ⟨by decide⟩
instance : OtherLabel "0 < num_elem & num_elem <= VLEN" := ⟨by decide⟩
instance : OtherLabel "0 <= r_i & r_i < num_elem" := ⟨by decide⟩
instance : OtherLabel "8 <= SEW & SEW <= 64" := ⟨by decide⟩
instance : OtherLabel "SEW_widen <= 64" := ⟨by decide⟩
instance : OtherLabel "VLEN >= EEW" := ⟨by decide⟩
instance : OtherLabel "VLMAX <= 'n" := ⟨by decide⟩
instance : OtherLabel "VLMAX > 0 & VLMAX <= 'n" := ⟨by decide⟩
instance : OtherLabel "invalid vlmul field in vtype" := ⟨by decide⟩
instance : OtherLabel "invalid vsew field in vtype" := ⟨by decide⟩
instance : OtherLabel "last_elem < num_elem" := ⟨by decide⟩
instance : OtherLabel "num_elem <= sizeof(vlenmax)" := ⟨by decide⟩
instance : OtherLabel "num_elem > 0" := ⟨by decide⟩
instance : OtherLabel "num_elem >= real_num_elem" := ⟨by decide⟩
instance : OtherLabel "invalid register group: vrid overflow the largest number" := ⟨by decide⟩
instance : OtherLabel "invalid register group: vrid is not a multiple of EMUL" := ⟨by decide⟩

end Labels

/-! ## Functions of the state -/

section Functions

omit [Platform] in
/-- A sequence of checks fails with none of the errors of its parts. -/
theorem bind_ne_error {α β : Type} {e : ModelError} {x : Except ModelError α}
    {f : α → Except ModelError β} (hx : x ≠ .error e) (hf : ∀ a, f a ≠ .error e) :
    (x >>= f) ≠ .error e := by
  rcases x with e' | a
  · intro h
    cases h
    exact hx rfl
  · exact hf a

/-- The PMP check reads no floating-point registers. -/
theorem pmpCheck_fpSwap (p : (Fin 32 → BitVec flen) × BitVec 32) (s : State) (addr : Xlenbits)
    (width : ℕ) (acc : AccessType) (priv : Privilege) :
    pmpCheck (fpSwap p s) addr width acc priv = pmpCheck s addr width acc priv := by
  unfold pmpCheck
  induction List.finRange 64 with
  | nil => rfl
  | cons i is ih =>
      unfold pmpCheckFrom
      rw [ih]
      rfl

theorem pmpMatchEntry_ne (addr width : Xlenbits) (acc : AccessType) (priv : Privilege)
    (ent : BitVec 8) (pmpaddr prevPmpaddr : Xlenbits) :
    pmpMatchEntry addr width acc priv ent pmpaddr prevPmpaddr ≠ .error fpFault := by
  unfold pmpMatchEntry
  refine bind_ne_error ?_ ?_
  · unfold pmpAddrRange
    split
    · rintro ⟨⟩
    · rintro ⟨⟩
    · split
      · rintro ⟨⟩
      · intro h
        injection h with h
        exact absurd h (by decide)
    · rintro ⟨⟩
  · intro rng
    split <;> rintro ⟨⟩

/-- The PMP check does not fail an assertion of the accessors. -/
theorem pmpCheck_ne (s : State) (addr : Xlenbits) (width : ℕ) (acc : AccessType)
    (priv : Privilege) : pmpCheck s addr width acc priv ≠ .error fpFault := by
  unfold pmpCheck
  induction List.finRange 64 with
  | nil => rintro ⟨⟩
  | cons i is ih =>
      unfold pmpCheckFrom
      refine bind_ne_error (pmpMatchEntry_ne _ _ _ _ _ _ _) (fun r => ?_)
      rcases r
      · rintro ⟨⟩
      · exact ih
      · rintro ⟨⟩

theorem physAccessCheck_ne (s : State) (t : AccessType) (priv : Privilege) (paddr : Xlenbits)
    (width : ℕ) : physAccessCheck s t priv paddr width ≠ .error fpFault := by
  unfold physAccessCheck
  split
  · rintro ⟨⟩
  · exact pmpCheck_ne _ _ _ _ _

theorem physAccessCheck_fpSwap (p : (Fin 32 → BitVec flen) × BitVec 32) (s : State)
    (t : AccessType) (priv : Privilege) (paddr : Xlenbits) (width : ℕ) :
    physAccessCheck (fpSwap p s) t priv paddr width = physAccessCheck s t priv paddr width := by
  unfold physAccessCheck
  rw [pmpCheck_fpSwap]

theorem effectivePrivilege_ne (t : AccessType) (m : Xlenbits) (priv : Privilege) :
    effectivePrivilege t m priv ≠ .error fpFault := by
  unfold effectivePrivilege privLevelOfBits
  split_ifs <;> rintro ⟨⟩

/-- Reads of memory see no floating-point registers. -/
theorem memReadPriv_fpSwap (p : (Fin 32 → BitVec flen) × BitVec 32) (s : State) (t : AccessType)
    (priv : Privilege) (paddr : Xlenbits) (width : ℕ) (aq rl res : Bool) :
    memReadPriv (fpSwap p s) t priv paddr width aq rl res
      = memReadPriv s t priv paddr width aq rl res := by
  unfold memReadPriv checkedMemRead
  rw [physAccessCheck_fpSwap]
  rfl

theorem memReadPriv_ne (s : State) (t : AccessType) (priv : Privilege) (paddr : Xlenbits)
    (width : ℕ) (aq rl res : Bool) :
    memReadPriv s t priv paddr width aq rl res ≠ .error fpFault := by
  unfold memReadPriv
  split_ifs
  · rintro ⟨⟩
  · rintro ⟨⟩
  · rintro ⟨⟩
  · unfold checkedMemRead
    refine bind_ne_error (physAccessCheck_ne _ _ _ _ _) (fun r => ?_)
    rcases r <;> rintro ⟨⟩

theorem memWriteEa_ne (addr : Xlenbits) (width : ℕ) (aq rl con : Bool) :
    memWriteEa addr width aq rl con ≠ .error fpFault := by
  unfold memWriteEa writeKindOfFlags
  split_ifs <;> rintro ⟨⟩

/-- The page-table walk sees no floating-point registers. -/
theorem ptWalk_fpSwap (q : (Fin 32 → BitVec flen) × BitVec 32) (s : State) (p : SVParams)
    (va : BitVec 64) (ac : AccessType) (priv : Privilege) (mxr doSum : Bool) (ptBase : BitVec 64)
    (level : ℕ) (global : Bool) :
    ptWalk (fpSwap q s) p va ac priv mxr doSum ptBase level global
      = ptWalk s p va ac priv mxr doSum ptBase level global := by
  have hread (a : BitVec 64) : readPTE (fpSwap q s) p a = readPTE s p a := by
    unfold readPTE
    rw [memReadPriv_fpSwap]
  induction level generalizing ptBase global with
  | zero =>
      unfold ptWalk
      simp only [hread]
  | succ level ih =>
      unfold ptWalk
      simp only [hread, ih]

omit [Platform] in
theorem ptwLeaf_ne (p : SVParams) (va : BitVec 64) (ac : AccessType) (priv : Privilege)
    (mxr doSum : Bool) (pte pteAddr : BitVec 64) (level : ℕ) (global : Bool) :
    ptwLeaf p va ac priv mxr doSum pte pteAddr level global ≠ .error fpFault := by
  unfold ptwLeaf
  refine bind_ne_error ?_ (fun b => ?_)
  · unfold checkPTEPermission
    dsimp only
    split <;> rintro ⟨⟩
  · dsimp only
    split_ifs <;> rintro ⟨⟩

theorem ptWalk_ne (s : State) (p : SVParams) (va : BitVec 64) (ac : AccessType)
    (priv : Privilege) (mxr doSum : Bool) (ptBase : BitVec 64) (level : ℕ) (global : Bool) :
    ptWalk s p va ac priv mxr doSum ptBase level global ≠ .error fpFault := by
  have hvpn (n : ℕ) : vpnJOfVa p va n ≠ .error fpFault := by
    unfold vpnJOfVa
    dsimp only
    split_ifs
    · rintro ⟨⟩
    · intro h
      injection h with h
      exact absurd h (by decide)
  have hread (a : BitVec 64) : readPTE s p a ≠ .error fpFault := by
    unfold readPTE
    refine bind_ne_error (memReadPriv_ne _ _ _ _ _ _ _ _) (fun r => ?_)
    rcases r <;> rintro ⟨⟩
  induction level generalizing ptBase global with
  | zero =>
      unfold ptWalk
      refine bind_ne_error (hvpn _) (fun v => bind_ne_error (hread _) (fun r => ?_))
      rcases r with _ | pte
      · rintro ⟨⟩
      · dsimp only
        split_ifs
        · rintro ⟨⟩
        · rintro ⟨⟩
        · exact ptwLeaf_ne _ _ _ _ _ _ _ _ _ _
  | succ level ih =>
      unfold ptWalk
      refine bind_ne_error (hvpn _) (fun v => bind_ne_error (hread _) (fun r => ?_))
      rcases r with _ | pte
      · rintro ⟨⟩
      · dsimp only
        split_ifs
        · rintro ⟨⟩
        · exact ih _ _
        · exact ptwLeaf_ne _ _ _ _ _ _ _ _ _ _

end Functions

/-! ## Primitive operations -/

section Primitives

variable {W : View} [Std.Refl W.rel]

instance fpFree_assert (c : Bool) (msg : String) [h : OtherLabel msg] :
    FpFree W (assert c msg) := by
  unfold assert
  split
  · infer_instance
  · refine fpFree_abort (fun he => ?_)
    injection he with he
    exact h.ne he

instance fpFree_internalError {α : Type} (msg : String) :
    FpFree W (internalError msg : M α) := by
  unfold internalError
  exact fpFree_abort nofun

instance fpFree_rX (r : Regidx) : FpFree W (rX r) := by
  have : Exec.Indep W.swap (fun s : State => s.X r) := ⟨fun _ _ => rfl⟩
  unfold rX
  infer_instance

instance fpFree_extDataGetAddr (base : Regidx) (offset : Xlenbits) :
    FpFree W (extDataGetAddr base offset) := by
  have : Exec.Indep W.swap (fun s : State => s.X base + offset) := ⟨fun _ _ => rfl⟩
  unfold extDataGetAddr
  infer_instance

instance : Exec.Indep W.swap State.pc := ⟨fun _ _ => rfl⟩

instance : Exec.Indep W.swap State.nextPC := ⟨fun _ _ => rfl⟩

instance : Exec.Indep W.swap State.curPrivilege := ⟨fun _ _ => rfl⟩

instance : FpFree W getArchPc := by
  unfold getArchPc
  infer_instance

instance : FpFree W getNextPc := by
  unfold getNextPc
  infer_instance

instance fpFree_memRead (t : AccessType) (paddr : Xlenbits) (width : ℕ) (aq rl res : Bool) :
    FpFree W (memRead t paddr width aq rl res) := by
  unfold memRead
  refine fpFree_checks (fun p s => ?_) (fun s => ?_)
  · simp only [memReadPriv_fpSwap]
    rfl
  · exact bind_ne_error (effectivePrivilege_ne _ _ _) (fun _ => memReadPriv_ne _ _ _ _ _ _ _ _)

instance fpFree_memWriteEa (addr : Xlenbits) (width : ℕ) (aq rl con : Bool) :
    FpFree W (Exec.checks (fun _ => memWriteEa addr width aq rl con)) :=
  fpFree_checks (fun _ _ => rfl) (fun _ => memWriteEa_ne _ _ _ _ _)

end Primitives

/-! ## Relations between states -/

/-- The relation allows for the steps of integer instructions other than `WFI`. -/
class CoreClosed (W : View) : Prop extends CoreRel W.rel

/-- The relation allows for the steps of integer instructions. -/
class IntClosed (W : View) : Prop extends IntRel W.rel

instance {W : View} [h : IntClosed W] : CoreClosed W where
  toCoreRel := h.toCoreRel

/-- The relation contains the exceptions. -/
class TrapClosed (W : View) : Prop where
  trap : ∀ {s s'}, SyncTrap s s' → W.rel s s'

omit [Platform] in
/-- The view that asks everything but a relation. -/
def Anything : View := ⟨fun _ _ => True, True, True⟩

instance : IntClosed Anything where
  refl _ := trivial
  trans _ _ _ _ _ := trivial
  devices _ _ := trivial
  store _ _ _ _ _ := trivial
  tlb _ _ _ := trivial
  x _ _ := trivial
  clock _ _ := trivial
  jump _ _ _ := trivial

instance : TraceClosed Anything.rel := ⟨fun _ _ => trivial⟩

instance : ReservationClosed Anything.rel := ⟨fun _ _ _ => trivial⟩

instance : TrapClosed Anything := ⟨fun _ => trivial⟩

/-- An update that commutes with changes of the floating-point registers. -/
theorem fpFree_anything {f : State → State} (h : ∀ p s, f (fpSwap p s) = fpSwap p (f s)) :
    FpFree Anything (Exec.update f : M Unit) :=
  fpFree_update (fun _ => trivial) h

/-- What is known of a computation apart from its steps. -/
theorem fpFree_of_keeps {α : Type} {W : View} {m : M α} (hk : Exec.Keeps W.rel m)
    (h : FpFree Anything m) : FpFree W m :=
  ⟨hk, fun p => h.comm ⟨p.1, trivial⟩, fun s e hE => h.avoids s e ⟨trivial, hE.2⟩⟩

/-! ## Registers, devices and memory -/

section

variable {W : View} [CoreClosed W]

omit [CoreClosed W] in
/-- An update whose steps are known, which sees no floating-point registers. -/
theorem fpFree_kept {f : State → State} (hk : Exec.Keeps W.rel (Exec.update f : M Unit))
    (hf : ∀ p s, f (fpSwap p s) = fpSwap p (f s)) : FpFree W (Exec.update f : M Unit) :=
  fpFree_of_keeps hk (fpFree_anything hf)

instance fpFree_wX (r : Regidx) (v : Xlenbits) : FpFree W (wX r v) := by
  refine fpFree_of_keeps inferInstance (fpFree_anything (fun p s => ?_))
  unfold State.setX
  split <;> rfl

instance fpFree_retireX (rd : Regidx) (v : Xlenbits) : FpFree W (retireX rd v) := by
  unfold retireX
  infer_instance

instance : FpFree W clintDispatch := fpFree_kept keeps_clintDispatch (fun _ _ => rfl)

instance fpFree_mmioWrite (a : Xlenbits) (n : ℕ) (data : BitVec (8 * n)) :
    FpFree W (mmioWrite a n data) := by
  refine fpFree_of_keeps inferInstance ?_
  have hclint : FpFree Anything (clintStore a n data) := by
    unfold clintStore
    have hst {f : State → State} (h : ∀ p s, f (fpSwap p s) = fpSwap p (f s)) :
        FpFree Anything (do
          Exec.update f
          clintDispatch
          pure (.MemValue true) : M (MemoryOpResult Bool)) := by
      have := fpFree_anything h
      infer_instance
    repeat' first
      | infer_instance
      | exact hst (fun _ _ => rfl)
      | refine @Exec.plain_ite _ _ _ _ _ _ _ _ _ _ _ ?_ ?_
  have hport : FpFree Anything (Exec.update (htifWritePort a n data) : M Unit) := by
    refine fpFree_anything (fun p s => ?_)
    unfold htifWritePort
    split
    · rfl
    · split
      · rfl
      · split <;> rfl
  have hexec : FpFree Anything
      (Exec.update (fun s => if htifReady s then htifExecute s else s) : M Unit) := by
    refine fpFree_anything (fun p s => ?_)
    have hready : htifReady (fpSwap p s) = htifReady s := rfl
    have hdo : htifExecute (fpSwap p s) = fpSwap p (htifExecute s) := by
      unfold htifExecute resetHtif fpSwap State.withFp
      dsimp only
      split_ifs <;> rfl
    rw [hready, hdo]
    split <;> rfl
  have hhtif : FpFree Anything (htifStore a n data) := by
    unfold htifStore
    infer_instance
  unfold mmioWrite
  infer_instance

/-- A write to memory sees no floating-point registers. -/
instance fpFree_memWriteValuePrivMeta (paddr : Xlenbits) (width : ℕ)
    (value : BitVec (8 * width)) (t : AccessType) (priv : Privilege) (aq rl con : Bool) :
    FpFree Anything (memWriteValuePrivMeta paddr width value t priv aq rl con) := by
  have hmem : FpFree Anything (physMemWrite paddr width value) := by
    have : FpFree Anything (Exec.update (fun s => { s with
        mem := Bytes.write s.mem paddr.toNat width value }) : M Unit) :=
      fpFree_anything (fun _ _ => rfl)
    unfold physMemWrite
    infer_instance
  have hkind : FpFree Anything (Exec.checks (fun _ => writeKindOfFlags aq rl con) : M Unit) := by
    refine fpFree_checks (fun _ _ => rfl) (fun _ => ?_)
    unfold writeKindOfFlags
    split_ifs <;> rintro ⟨⟩
  have hcheck : FpFree Anything
      (Exec.checks (fun s => physAccessCheck s t priv paddr width) : M (Option ExceptionType)) :=
    fpFree_checks (fun _ _ => physAccessCheck_fpSwap _ _ _ _ _ _)
      (fun _ => physAccessCheck_ne _ _ _ _ _)
  have hchecked : FpFree Anything (checkedMemWrite paddr width value t priv aq rl con) := by
    unfold checkedMemWrite
    have hk (r : Option ExceptionType) : FpFree Anything (match r with
        | some e => pure (.MemException e)
        | none =>
            if withinMmioWritable paddr width then mmioWrite paddr width value
            else if withinPhysMem paddr width then do
              Exec.checks (fun _ => writeKindOfFlags aq rl con)
              physMemWrite paddr width value
            else pure (.MemException .E_SAMO_Access_Fault) : M (MemoryOpResult Bool)) := by
      rcases r <;> infer_instance
    infer_instance
  unfold memWriteValuePrivMeta
  infer_instance

instance (paddr : Xlenbits) (width : ℕ) (value : BitVec (8 * width)) (priv : Privilege)
    (aq rl con : Bool) : FpFree Anything (memWriteValuePriv paddr width value priv aq rl con) := by
  unfold memWriteValuePriv
  infer_instance

instance fpFree_memWriteValue (paddr : Xlenbits) (width : ℕ) (value : BitVec (8 * width))
    (aq rl con : Bool) : FpFree W (memWriteValue paddr width value aq rl con) := by
  refine fpFree_of_keeps inferInstance ?_
  have : FpFree Anything (Exec.checks (fun s => effectivePrivilege .Write s.mstatus s.curPrivilege)
      : M Privilege) :=
    fpFree_checks (fun _ _ => rfl) (fun _ => effectivePrivilege_ne _ _ _)
  unfold memWriteValue
  infer_instance

instance [TraceClosed W.rel] (addr : Xlenbits) : FpFree W (icRead addr) :=
  fpFree_kept (keeps_icRead addr) (fun _ _ => rfl)

instance [TraceClosed W.rel] (addr : Xlenbits) : FpFree W (dcRead addr) :=
  fpFree_kept (keeps_dcRead addr) (fun _ _ => rfl)

instance [TraceClosed W.rel] (addr : Xlenbits) : FpFree W (dcWrite addr) :=
  fpFree_kept (keeps_dcWrite addr) (fun _ _ => rfl)

/-! ## Address translation -/

instance (asid addr : Option Xlenbits) : FpFree W (flushTLB asid addr) :=
  fpFree_kept (keeps_flushTLB asid addr) (fun _ _ => rfl)

/-- A translation through the TLB and the page tables. -/
instance fpFree_translate (p : SVParams) (asid : BitVec 16) (ptb vAddr : BitVec 64)
    (ac : AccessType) (priv : Privilege) (mxr doSum : Bool) :
    FpFree W (translate p asid ptb vAddr ac priv mxr doSum) := by
  have htlb (i : Fin 64) (e : TLBEntry) : FpFree Anything (writeTLB i e) :=
    fpFree_anything (fun _ _ => rfl)
  have hadd (pAddr pte pteAddr : BitVec 64) (level : ℕ) (global : Bool) (n : ℕ) :
      FpFree Anything (addToTLB asid vAddr pAddr pte pteAddr level global n) := by
    have (f : BitVec 64 → (Fin 64 → Option TLBEntry) → Fin 64 → Option TLBEntry) :
        FpFree Anything (Exec.update (fun s => { s with tlb := f s.mcycle s.tlb }) : M Unit) :=
      fpFree_anything (fun _ _ => rfl)
    unfold addToTLB
    exact @Exec.plain_bind _ _ _ _ _ _ _ _ _ _ _ inferInstance
      (fun _ => this (fun age tlb => Function.update tlb (tlbHash vAddr) (some (mkTLBEntry asid
        vAddr pAddr pte pteAddr (pagesizeBits + level * n) (Nat.le_add_right _ _) global age))))
  have hpte (paddr : Xlenbits) (pte : BitVec 64) : FpFree Anything (writePte p paddr pte) := by
    unfold writePte
    infer_instance
  have hperm (flags : BitVec 8) : FpFree Anything
      (Exec.checks (fun _ => checkPTEPermission ac priv mxr doSum flags) : M Bool) := by
    refine fpFree_checks (fun _ _ => rfl) (fun _ => ?_)
    unfold checkPTEPermission
    dsimp only
    split <;> rintro ⟨⟩
  have hhit (i : Fin 64) (e : TLBEntry) :
      FpFree Anything (translateTLBHit p vAddr ac priv mxr doSum i e) := by
    unfold translateTLBHit
    refine @Exec.plain_bind _ _ _ _ _ _ _ _ _ _ _ inferInstance (fun b => ?_)
    refine @Exec.plain_ite _ _ _ _ _ _ _ _ _ _ _ inferInstance ?_
    rcases updatePTEBits e.pte ac with _ | x
    · infer_instance
    · have hres (r : MemoryOpResult Bool) : FpFree Anything (match r with
          | .MemValue _ => pure (.TR_Address (e.translate vAddr))
          | .MemException _ => internalError "invalid physical address in TLB"
          : M (TRResult (BitVec 64) PTWError)) := by
        rcases r <;> infer_instance
      infer_instance
  have hmiss : FpFree Anything (translateTLBMiss p asid ptb vAddr ac priv mxr doSum) := by
    have : FpFree Anything (Exec.checks (fun s => ptWalk s p vAddr ac priv mxr doSum ptb (p.levels - 1)
        false) : M PTWResult) :=
      fpFree_checks (fun _ _ => ptWalk_fpSwap _ _ _ _ _ _ _ _ _ _ _)
        (fun _ => ptWalk_ne _ _ _ _ _ _ _ _ _ _)
    unfold translateTLBMiss
    refine @Exec.plain_bind _ _ _ _ _ _ _ _ _ _ _ inferInstance (fun w => ?_)
    rcases w with o | f
    · simp only
      rcases updatePTEBits o.pte ac with _ | x
      · infer_instance
      · have hres (r : MemoryOpResult Bool) : FpFree Anything (match r with
            | .MemValue _ => do
                addToTLB asid vAddr o.pAddr x o.pteAddr o.level o.global p.vpnSizeBits
                pure (.TR_Address o.pAddr)
            | .MemException _ => pure (.TR_Failure .PTW_Access)
            : M (TRResult (BitVec 64) PTWError)) := by
          rcases r <;> infer_instance
        infer_instance
    · infer_instance
  have : Exec.Indep Anything.swap (fun s : State => lookupTLB s asid vAddr) := ⟨fun _ _ => rfl⟩
  refine fpFree_of_keeps inferInstance ?_
  unfold translate
  refine @Exec.plain_bind _ _ _ _ _ _ _ _ _ _ _ inferInstance (fun r => ?_)
  rcases r with _ | ie
  · exact hmiss
  · exact hhit ie.1 ie.2

theorem translationMode_ne (s : State) (priv : Privilege) :
    translationMode s priv ≠ .error fpFault := by
  unfold translationMode
  split_ifs
  · rintro ⟨⟩
  · rintro ⟨⟩
  · split
    · split <;> rintro ⟨⟩
    · rintro ⟨⟩
    · rintro ⟨⟩

instance fpFree_translateAddr (vaddr : Xlenbits) (ac : AccessType) :
    FpFree W (translateAddr vaddr ac) := by
  have hpriv : FpFree W (Exec.checks (fun s => effectivePrivilege ac s.mstatus s.curPrivilege)
      : M Privilege) :=
    fpFree_checks (fun _ _ => rfl) (fun _ => effectivePrivilege_ne _ _ _)
  have hmode (priv : Privilege) : FpFree W (Exec.checks (fun s => translationMode s priv)
      : M SATPMode) :=
    fpFree_checks (fun _ _ => rfl) (fun _ => translationMode_ne _ _)
  unfold translateAddr
  refine @Exec.plain_bind _ _ _ _ _ _ _ _ _ _ _ inferInstance (fun priv => ?_)
  refine @Exec.plain_bind _ _ _ _ _ _ _ _ _ _ _ inferInstance (fun mode => ?_)
  rcases svParams mode with _ | p
  · infer_instance
  · refine @Exec.plain_ite _ _ _ _ _ _ _ _ _ _ _ inferInstance ?_
    refine fpFree_get_bind (fun s => ?_) (fun _ _ => rfl)
    refine @Exec.plain_bind _ _ _ _ _ _ _ _ _ _ _ inferInstance (fun r => ?_)
    rcases r <;> infer_instance

end

/-! ## Exceptions -/

section Traps

theorem prepareTrapVector_ne (s : State) (p : Privilege) (cause : Xlenbits) :
    prepareTrapVector s p cause ≠ .error fpFault := by
  unfold prepareTrapVector
  rcases p
  · rintro ⟨⟩
  · simp only [pure_bind]
    split <;> rintro ⟨⟩
  · simp only [pure_bind]
    split <;> rintro ⟨⟩

instance : OtherLabel "no supervisor mode present for delegation" := ⟨by decide⟩

/-- A trap entry sees no floating-point registers. -/
instance fpFree_trapHandler (p : Privilege) (intr : Bool) (c : BitVec 8) (pc : Xlenbits)
    (info : Option Xlenbits) : FpFree Anything (trapHandler p intr c pc info) := by
  have hcheck (p : Privilege) (f : State → Xlenbits) (h : ∀ q s, f (fpSwap q s) = f s) :
      FpFree Anything (Exec.checks (fun s => prepareTrapVector s p (f s)) : M Xlenbits) :=
    fpFree_checks (fun q s => by
      rw [h]
      rfl) (fun _ => prepareTrapVector_ne _ _ _)
  have hM := hcheck .Machine State.mcause (fun _ _ => rfl)
  have hS := hcheck .Supervisor State.scause (fun _ _ => rfl)
  have hext : Exec.Indep Anything.swap (fun s : State => extensionEnabled s .S) := ⟨fun _ _ => rfl⟩
  unfold trapHandler
  rcases p
  · infer_instance
  · have hupd (spp : BitVec 1) : FpFree Anything (do
        Exec.update (fun s => { s with
          scause := trapCause s.scause intr c
          mstatus := mstatusTrapS s.mstatus spp
          stval := tval info
          sepc := pc
          curPrivilege := .Supervisor })
        Exec.checks (fun s => prepareTrapVector s .Supervisor s.scause) : M Xlenbits) :=
      @Exec.plain_bind _ _ _ _ _ _ _ _ _ _ _ (fpFree_anything (fun _ _ => rfl)) (fun _ => hS)
    simp only
    refine @Exec.plain_bind _ _ _ _ _ _ _ _ _ _ _ inferInstance (fun b => ?_)
    refine @Exec.plain_bind _ _ _ _ _ _ _ _ _ _ _ inferInstance (fun _ => ?_)
    refine @Exec.plain_bind _ _ _ _ _ _ _ _ _ _ _ inferInstance (fun priv => ?_)
    rcases priv <;> infer_instance
  · exact @Exec.plain_bind _ _ _ _ _ _ _ _ _ _ _ (fpFree_anything (fun _ _ => rfl)) (fun _ => hM)

instance (pc : Xlenbits) : FpFree Anything (setNextPc pc) := fpFree_anything (fun _ _ => rfl)

variable {W : View} [CoreClosed W] [TrapClosed W]

/-- An exception sees no floating-point registers. -/
instance fpFree_handleSync (e : SyncException) : FpFree W (handleSync e) := by
  have : FpFree Anything (handleSync e) := by
    have (priv : Privilege) : Exec.Indep Anything.swap
        (fun s : State => exceptionDelegatee s e.trap priv) := ⟨fun _ _ => rfl⟩
    unfold handleSync exceptionHandler
    infer_instance
  exact fpFree_of_keeps ⟨fun h => TrapClosed.trap ⟨e, h⟩⟩ this

instance (addr : Xlenbits) (e : ExceptionType) : FpFree W (handleMemException addr e) := by
  unfold handleMemException
  infer_instance

instance (e : ExceptionType) : FpFree W (handleException e) := by
  unfold handleException
  infer_instance

instance fpFree_handleIllegal : FpFree W handleIllegal := by
  have : Exec.Indep W.swap (fun s : State => some s.instbits) := ⟨fun _ _ => rfl⟩
  unfold handleIllegal
  split <;> infer_instance

/-! ## The ends of a clause -/

instance : FpFree W illegal := by
  unfold illegal
  infer_instance

instance (addr : Xlenbits) (e : ExceptionType) : FpFree W (memFault addr e) := by
  unfold memFault
  infer_instance

end Traps

section Matches

variable {W : View}

instance fpFree_onAddress {α : Type} (fault : ExceptionType → M α)
    (r : TRResult Xlenbits ExceptionType) (k : Xlenbits → M α) [∀ e, FpFree W (fault e)]
    [∀ a, FpFree W (k a)] : FpFree W (onAddress fault r k) := by
  unfold onAddress
  rcases r <;> infer_instance

instance fpFree_onMemValue {α β : Type} (fault : ExceptionType → M β) (r : MemoryOpResult α)
    (k : α → M β) [∀ e, FpFree W (fault e)] [∀ v, FpFree W (k v)] :
    FpFree W (onMemValue fault r k) := by
  unfold onMemValue
  rcases r <;> infer_instance

instance fpFree_onStored {α : Type} [Std.Refl W.rel] (fault : ExceptionType → M α)
    (r : MemoryOpResult Bool) (msg : String) (k : M α) [∀ e, FpFree W (fault e)] [FpFree W k] :
    FpFree W (onStored fault r msg k) := by
  unfold onStored
  infer_instance

end Matches

end SailRiscv
