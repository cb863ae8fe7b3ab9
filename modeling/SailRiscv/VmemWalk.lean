/-
# The page-table walk as a relation

`LeafAt s p va base level global l` says that the walk of `va` from the table at `base`
arrives at the leaf PTE `l`.  The walk is the descent to the leaf followed by the checks of
the leaf, and the descent can be moved

* to another address that agrees with `va` above the page of the leaf, and
* to another state in which the PTEs differ in the A and D bits only.
-/
import SailRiscv.VmemPte
import SailRiscv.PmpRegs

namespace SailRiscv

open Bits Platform

variable [Platform]

/-! ## Descent -/

/-- A leaf PTE, where it was found, and whether the mapping is global. -/
structure Leaf where
  pte : BitVec 64
  pteAddr : BitVec 64
  level : ℕ
  global : Bool

/-- The index of a virtual address at a level of the table. -/
def vpnAt (p : SVParams) (va : BitVec 64) (level : ℕ) : BitVec 64 :=
  (va >>> (pagesizeBits + level * p.vpnSizeBits)) &&& lowOnes 64 p.vpnSizeBits

/-- Where the walk of `va` finds its PTE in the table at `base`. -/
def pteSlot (p : SVParams) (va base : BitVec 64) (level : ℕ) : BitVec 64 :=
  base + (vpnAt p va level <<< p.logPteSizeBytes)

/-- Whether a mapping is global after the PTE `pte`. -/
def globalAfter (global : Bool) (pte : BitVec 64) : Bool :=
  global || PTEFlags.G.get (pteFlags pte) == 1#1

/-- The walk of `va` from the table at `base` arrives at a leaf PTE. -/
inductive LeafAt (s : State) (p : SVParams) (va : BitVec 64) :
    BitVec 64 → ℕ → Bool → Leaf → Prop
  | leaf {base : BitVec 64} {level : ℕ} {global : Bool} {pte : BitVec 64}
      (hlsb : pagesizeBits + level * p.vpnSizeBits < xlen)
      (hread : readPTE s p (pteSlot p va base level) = .ok (some pte))
      (hvalid : pteIsInvalid (pteFlags pte) = false) (hptr : pteIsPtr (pteFlags pte) = false) :
      LeafAt s p va base level global
        ⟨pte, pteSlot p va base level, level, globalAfter global pte⟩
  | next {base : BitVec 64} {level : ℕ} {global : Bool} {pte : BitVec 64} {l : Leaf}
      (hlsb : pagesizeBits + (level + 1) * p.vpnSizeBits < xlen)
      (hread : readPTE s p (pteSlot p va base (level + 1)) = .ok (some pte))
      (hvalid : pteIsInvalid (pteFlags pte) = false) (hptr : pteIsPtr (pteFlags pte) = true)
      (hnext : LeafAt s p va (ppnsOfPTE p pte <<< pagesizeBits) level
        (globalAfter global pte) l) :
      LeafAt s p va base (level + 1) global l

section Walk

variable {s s' : State} {p : SVParams} {va va' base : BitVec 64} {level : ℕ} {global : Bool}
  {l : Leaf}

/-- The index of the walk, when the assertion about its position holds. -/
theorem vpnJOfVa_ok (h : pagesizeBits + level * p.vpnSizeBits < xlen) :
    vpnJOfVa p va level = .ok (vpnAt p va level) := by
  unfold vpnJOfVa
  rw [if_pos h]
  rfl

/-- One level of the walk. -/
theorem ptWalk_step {ac : AccessType} {priv : Privilege} {mxr doSum : Bool} {pte : BitVec 64}
    (hlsb : pagesizeBits + level * p.vpnSizeBits < xlen)
    (hread : readPTE s p (pteSlot p va base level) = .ok (some pte))
    (hvalid : pteIsInvalid (pteFlags pte) = false) :
    ptWalk s p va ac priv mxr doSum base level global
      = if pteIsPtr (pteFlags pte) then
          match level with
          | level' + 1 =>
              ptWalk s p va ac priv mxr doSum (ppnsOfPTE p pte <<< pagesizeBits) level'
                (globalAfter global pte)
          | 0 => .ok (.PTW_Failure .PTW_Invalid_PTE)
        else ptwLeaf p va ac priv mxr doSum pte (pteSlot p va base level) level
          (globalAfter global pte) := by
  unfold pteSlot at hread
  cases level with
  | zero =>
      rw [ptWalk, vpnJOfVa_ok hlsb]
      simp only [bind, Except.bind, hread, hvalid]
      rfl
  | succ level =>
      rw [ptWalk, vpnJOfVa_ok hlsb]
      simp only [bind, Except.bind, hread, hvalid]
      rfl

/-- Past the descent, the walk is the check of the leaf. -/
theorem LeafAt.ptWalk (h : LeafAt s p va base level global l) (ac : AccessType)
    (priv : Privilege) (mxr doSum : Bool) :
    ptWalk s p va ac priv mxr doSum base level global
      = ptwLeaf p va ac priv mxr doSum l.pte l.pteAddr l.level l.global := by
  induction h with
  | leaf hlsb hread hvalid hptr =>
      rw [ptWalk_step hlsb hread hvalid, hptr]
      rfl
  | next hlsb hread hvalid hptr hnext ih =>
      rw [ptWalk_step hlsb hread hvalid, hptr, if_pos rfl]
      exact ih

/-- A walk that succeeds has read a valid PTE. -/
theorem ptWalk_reads {ac : AccessType} {priv : Privilege} {mxr doSum : Bool} {o : PTWOutput}
    (h : ptWalk s p va ac priv mxr doSum base level global = .ok (.PTW_Success o)) :
    pagesizeBits + level * p.vpnSizeBits < xlen
      ∧ ∃ pte, readPTE s p (pteSlot p va base level) = .ok (some pte)
        ∧ pteIsInvalid (pteFlags pte) = false := by
  have hlsb : pagesizeBits + level * p.vpnSizeBits < xlen := by
    by_contra hno
    rw [SailRiscv.ptWalk.eq_def, vpnJOfVa, if_neg hno] at h
    cases h
  refine ⟨hlsb, ?_⟩
  rw [SailRiscv.ptWalk.eq_def, vpnJOfVa_ok hlsb] at h
  simp only [bind, Except.bind] at h
  unfold pteSlot
  cases hread : readPTE s p (base + (vpnAt p va level <<< p.logPteSizeBytes)) with
  | error e => rw [hread] at h; cases h
  | ok r =>
      rw [hread] at h
      cases r with
      | none => cases h
      | some pte =>
          refine ⟨pte, rfl, ?_⟩
          by_contra hinvalid
          have ht : pteIsInvalid (pteFlags pte) = true := by simpa using hinvalid
          simp only [ht] at h
          cases h

/-- A walk that succeeds arrives at a leaf that passes the checks. -/
theorem leafAt_of_ptWalk {ac : AccessType} {priv : Privilege} {mxr doSum : Bool} {o : PTWOutput}
    (h : ptWalk s p va ac priv mxr doSum base level global = .ok (.PTW_Success o)) :
    ∃ l, LeafAt s p va base level global l
      ∧ ptwLeaf p va ac priv mxr doSum l.pte l.pteAddr l.level l.global
        = .ok (.PTW_Success o) := by
  induction level generalizing base global with
  | zero =>
      obtain ⟨hlsb, pte, hread, hvalid⟩ := ptWalk_reads h
      rw [ptWalk_step hlsb hread hvalid] at h
      cases hptr : pteIsPtr (pteFlags pte) with
      | true => rw [hptr, if_pos rfl] at h; cases h
      | false =>
          rw [hptr, if_neg (by simp)] at h
          exact ⟨_, .leaf hlsb hread hvalid hptr, h⟩
  | succ level ih =>
      obtain ⟨hlsb, pte, hread, hvalid⟩ := ptWalk_reads h
      rw [ptWalk_step hlsb hread hvalid] at h
      cases hptr : pteIsPtr (pteFlags pte) with
      | true =>
          rw [hptr, if_pos rfl] at h
          obtain ⟨l, hl, hleaf⟩ := ih h
          exact ⟨l, .next hlsb hread hvalid hptr hl, hleaf⟩
      | false =>
          rw [hptr, if_neg (by simp)] at h
          exact ⟨_, .leaf hlsb hread hvalid hptr, h⟩

/-! ## Facts about the leaf -/

/-- The leaf lies at or below the level where the walk starts. -/
theorem LeafAt.level_le (h : LeafAt s p va base level global l) : l.level ≤ level := by
  induction h with
  | leaf => exact le_rfl
  | next _ _ _ _ _ ih => omega

/-- The leaf is a valid leaf PTE in memory. -/
theorem LeafAt.read (h : LeafAt s p va base level global l) :
    readPTE s p l.pteAddr = .ok (some l.pte) := by
  induction h with
  | leaf _ hread _ _ => exact hread
  | next _ _ _ _ _ ih => exact ih

omit [Platform] in
/-- The index depends on the address above the page of the level only. -/
theorem vpnAt_congr {k : ℕ}
    (h : ∀ i, pagesizeBits + k * p.vpnSizeBits ≤ i → va'.getLsbD i = va.getLsbD i)
    (hk : k ≤ level) : vpnAt p va' level = vpnAt p va level := by
  have hmul : k * p.vpnSizeBits ≤ level * p.vpnSizeBits := Nat.mul_le_mul_right _ hk
  unfold vpnAt
  apply BitVec.eq_of_getLsbD_eq
  intro i _
  rw [BitVec.getLsbD_and, BitVec.getLsbD_and, BitVec.getLsbD_ushiftRight,
    BitVec.getLsbD_ushiftRight, h _ (by omega)]

/-- The walk of an address that agrees above the page of the leaf arrives at the same
leaf. -/
theorem LeafAt.congr_va (h : LeafAt s p va base level global l)
    (hva : ∀ i, pagesizeBits + l.level * p.vpnSizeBits ≤ i → va'.getLsbD i = va.getLsbD i) :
    LeafAt s p va' base level global l := by
  induction h with
  | @leaf base level global pte hlsb hread hvalid hptr =>
      have hslot : pteSlot p va base level = pteSlot p va' base level := by
        unfold pteSlot
        rw [vpnAt_congr hva le_rfl]
      rw [hslot] at hread ⊢
      exact .leaf hlsb hread hvalid hptr
  | @next base level global pte l hlsb hread hvalid hptr hnext ih =>
      have hle := hnext.level_le
      have hslot : pteSlot p va base (level + 1) = pteSlot p va' base (level + 1) := by
        unfold pteSlot
        rw [vpnAt_congr hva (by omega)]
      rw [hslot] at hread
      exact .next hlsb hread hvalid hptr (ih hva)

/-! ## Alignment of the slots -/

/-- An address at which a PTE can lie. -/
def SlotAligned (p : SVParams) (a : BitVec 64) : Prop := p.pteSize ∣ a.toNat

omit [Platform] in
/-- The slots of a page-aligned table are aligned. -/
theorem slotAligned_pteSlot (hp : p.Valid) (hbase : 2 ^ 12 ∣ base.toNat) :
    SlotAligned p (pteSlot p va base level) := by
  have hsize : p.pteSize ∣ 2 ^ 12 := by
    rcases hp.pteSize_eq with h | h <;> rw [h] <;> decide
  have hsize64 : p.pteSize ∣ 2 ^ 64 := hsize.trans (pow_dvd_pow 2 (by omega))
  unfold SlotAligned pteSlot
  rw [BitVec.toNat_add, BitVec.toNat_shiftLeft, Nat.shiftLeft_eq]
  have h1 : p.pteSize ∣ (vpnAt p va level).toNat * 2 ^ p.logPteSizeBytes % 2 ^ 64 :=
    (Nat.dvd_mod_iff hsize64).mpr (Nat.dvd_mul_left _ _)
  exact (Nat.dvd_mod_iff hsize64).mpr (Nat.dvd_add (hsize.trans hbase) h1)

omit [Platform] in
/-- A table that a PTE points to is page-aligned. -/
theorem pageAligned_ppns (pte : BitVec 64) :
    2 ^ 12 ∣ (ppnsOfPTE p pte <<< pagesizeBits).toNat := by
  unfold pagesizeBits
  rw [BitVec.toNat_shiftLeft, Nat.shiftLeft_eq]
  exact (Nat.dvd_mod_iff (pow_dvd_pow 2 (by omega))).mpr (Nat.dvd_mul_left _ _)

/-- The slot of the leaf is aligned. -/
theorem LeafAt.slotAligned (hp : p.Valid) (h : LeafAt s p va base level global l)
    (hbase : 2 ^ 12 ∣ base.toNat) : SlotAligned p l.pteAddr := by
  induction h with
  | leaf => exact slotAligned_pteSlot hp hbase
  | next _ _ _ _ _ ih => exact ih (pageAligned_ppns _)

/-! ## Moving the descent to another state -/

/-- The PTE of the second state is that of the first with bits A and D possibly set. -/
structure Advanced (x y : BitVec 64) : Prop where
  same : SameExceptAD x y
  setA : x.getLsbD 6 = true → y.getLsbD 6 = true
  setD : x.getLsbD 7 = true → y.getLsbD 7 = true

omit [Platform] in
theorem Advanced.refl (x : BitVec 64) : Advanced x x := ⟨.refl x, id, id⟩

/-- Every PTE of the first state is advanced in the second. -/
def PTEsAdvanced (s s' : State) (p : SVParams) : Prop :=
  ∀ a pte, SlotAligned p a → readPTE s p a = .ok (some pte) →
    ∃ pte', readPTE s' p a = .ok (some pte') ∧ Advanced pte pte'

/-- The walk of the second state arrives at the same leaf, advanced. -/
theorem LeafAt.advanced (hp : p.Valid) (hadv : PTEsAdvanced s s' p)
    (h : LeafAt s p va base level global l) (hbase : 2 ^ 12 ∣ base.toNat) :
    ∃ pte', LeafAt s' p va base level global { l with pte := pte' } ∧ Advanced l.pte pte' := by
  induction h with
  | @leaf base level global pte hlsb hread hvalid hptr =>
      obtain ⟨pte', hread', h'⟩ := hadv _ _ (slotAligned_pteSlot hp hbase) hread
      refine ⟨pte', ?_, h'⟩
      rw [h'.same.pteIsInvalid] at hvalid
      rw [h'.same.pteIsPtr] at hptr
      have hg : globalAfter global pte = globalAfter global pte' := by
        unfold globalAfter
        rw [h'.same.global]
      simp only [hg]
      exact .leaf hlsb hread' hvalid hptr
  | @next base level global pte l hlsb hread hvalid hptr hnext ih =>
      obtain ⟨pte', hread', h'⟩ := hadv _ _ (slotAligned_pteSlot hp hbase) hread
      obtain ⟨leaf', hleaf, hl⟩ := ih (pageAligned_ppns _)
      refine ⟨leaf', ?_, hl⟩
      rw [h'.same.pteIsInvalid] at hvalid
      rw [h'.same.pteIsPtr] at hptr
      have hg : globalAfter global pte = globalAfter global pte' := by
        unfold globalAfter
        rw [h'.same.global]
      rw [h'.same.ppns hp.ptePPNsLsbIndex_eq, hg] at hleaf
      exact .next hlsb hread' hvalid hptr hleaf

end Walk

/-! ## The checks of the leaf -/

/-- The physical address that a leaf PTE at a level gives to `va`. -/
def leafAddr (p : SVParams) (va pte : BitVec 64) (level : ℕ) : BitVec 64 :=
  let ppns := ppnsOfPTE p pte
  let ppn := if 0 < level
    then ppns ||| (vpnsOfVa p va &&& ~~~(BitVec.allOnes 64 <<< (level * p.ptePPNjSizeBits)))
    else ppns
  (ppn <<< pagesizeBits) ||| (offsetOfVa va).setWidth 64

/-- The low PPNs of a superpage are clear. -/
def SuperpageAligned (p : SVParams) (pte : BitVec 64) (level : ℕ) : Prop :=
  0 < level → ppnsOfPTE p pte
    = (ppnsOfPTE p pte >>> (level * p.ptePPNjSizeBits)) <<< (level * p.ptePPNjSizeBits)

omit [Platform] in
/-- The check of a leaf that fails for want of permission. -/
theorem ptwLeaf_of_denied {p : SVParams} {va pte pteAddr : BitVec 64} {ac : AccessType}
    {priv : Privilege} {mxr doSum global : Bool} {level : ℕ}
    (h : checkPTEPermission ac priv mxr doSum (pteFlags pte) = .ok false) :
    ptwLeaf p va ac priv mxr doSum pte pteAddr level global
      = .ok (.PTW_Failure .PTW_No_Permission) := by
  unfold ptwLeaf
  simp only [bind, Except.bind, h]
  rfl

omit [Platform] in
/-- The check of a leaf that succeeds. -/
theorem ptwLeaf_of_allowed {p : SVParams} {va pte pteAddr : BitVec 64} {ac : AccessType}
    {priv : Privilege} {mxr doSum global : Bool} {level : ℕ}
    (h : checkPTEPermission ac priv mxr doSum (pteFlags pte) = .ok true)
    (hal : SuperpageAligned p pte level) :
    ptwLeaf p va ac priv mxr doSum pte pteAddr level global
      = .ok (.PTW_Success ⟨leafAddr p va pte level, pte, pteAddr, level, global⟩) := by
  unfold ptwLeaf leafAddr
  simp only [bind, Except.bind, h]
  by_cases hl : 0 < level
  · have hppns := hal hl
    simp only [hl, if_true, Bool.not_true, Bool.false_eq_true, if_false, ne_eq]
    rw [if_neg (not_not_intro hppns)]
    rfl
  · simp only [hl, if_false, Bool.not_true, Bool.false_eq_true]
    rfl

omit [Platform] in
/-- What a successful check of a leaf says. -/
theorem ptwLeaf_success {p : SVParams} {va pte pteAddr : BitVec 64} {ac : AccessType}
    {priv : Privilege} {mxr doSum global : Bool} {level : ℕ} {o : PTWOutput}
    (h : ptwLeaf p va ac priv mxr doSum pte pteAddr level global = .ok (.PTW_Success o)) :
    checkPTEPermission ac priv mxr doSum (pteFlags pte) = .ok true
      ∧ SuperpageAligned p pte level
      ∧ o = ⟨leafAddr p va pte level, pte, pteAddr, level, global⟩ := by
  cases hc : checkPTEPermission ac priv mxr doSum (pteFlags pte) with
  | error e =>
      unfold ptwLeaf at h
      simp only [bind, Except.bind, hc] at h
      cases h
  | ok b =>
      cases b with
      | false => rw [ptwLeaf_of_denied hc] at h; cases h
      | true =>
          have hal : SuperpageAligned p pte level := by
            intro hl
            by_contra hne
            unfold ptwLeaf at h
            simp only [bind, Except.bind, hc, hl, if_true, Bool.not_true, Bool.false_eq_true,
              if_false, ne_eq, hne, not_false_eq_true] at h
            cases h
          rw [ptwLeaf_of_allowed hc hal] at h
          cases h
          exact ⟨rfl, hal, rfl⟩

end SailRiscv
