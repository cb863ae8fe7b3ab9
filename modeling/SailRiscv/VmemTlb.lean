/-
# Coherence of the look-aside buffer

A state is coherent for a page table and an address space when each entry that can be hit
is the entry that the walk of its page would build, up to the D bit being still clear in the
entry.  Setting A and D bits of PTEs in memory keeps a state coherent.

* `EntryOk` : an entry agrees with the page table;
* `Coherent` : all entries of an address space do;
* `entryOk_of_walk` : what a walk adds to the buffer agrees with the table.
-/
import SailRiscv.VmemRuns

namespace SailRiscv

open Bits Platform

variable [Platform]

/-! ## What the read of a PTE depends on -/

/-- The registers that reads of memory and devices depend on are the same. -/
structure SameBus (s s' : State) : Prop where
  pmp : SamePmp s s'
  mip : s'.mip = s.mip
  mtimecmp : s'.mtimecmp = s.mtimecmp
  mtime : s'.mtime = s.mtime
  htifTohost : s'.htifTohost = s.htifTohost

theorem SameBus.refl (s : State) : SameBus s s := ⟨⟨rfl, rfl⟩, rfl, rfl, rfl, rfl⟩

section Bus

variable {s s' : State} {p : SVParams} {a : BitVec 64}

/-- The read of a PTE, with the flags of the access folded in. -/
theorem readPTE_eq (s : State) (p : SVParams) (a : BitVec 64) :
    readPTE s p a = (physAccessCheck s .Read .Supervisor (a.setWidth xlen) p.pteSize).map
      (fun c => match c with
        | some _ => none
        | none =>
            if withinMmioReadable (a.setWidth xlen) p.pteSize then
              match mmioRead s .Read (a.setWidth xlen) p.pteSize with
              | .MemException _ => none
              | .MemValue v => some (v.setWidth 64)
            else if withinPhysMem (a.setWidth xlen) p.pteSize then
              some ((Bytes.read s.mem (a.setWidth xlen).toNat p.pteSize).setWidth 64)
            else none) := by
  unfold readPTE memReadPriv checkedMemRead
  rw [if_neg (by simp), if_neg (by simp)]
  cases physAccessCheck s .Read .Supervisor (a.setWidth xlen) p.pteSize with
  | error e => rfl
  | ok c =>
      cases c with
      | some e => rfl
      | none =>
          simp only [bind, Except.bind, Except.map]
          by_cases h1 : withinMmioReadable (a.setWidth xlen) p.pteSize = true
          · simp only [h1, if_true]
            cases mmioRead s .Read (a.setWidth xlen) p.pteSize <;> rfl
          · simp only [h1, Bool.false_eq_true, if_false]
            by_cases h2 : withinPhysMem (a.setWidth xlen) p.pteSize = true
            · simp only [h2, if_true]
              rfl
            · simp only [h2, Bool.false_eq_true, if_false]
              rfl

/-- The read of a device depends on its registers only. -/
theorem mmioRead_congr (h : SameBus s s') (t : AccessType) (a : Xlenbits) (n : ℕ) :
    mmioRead s' t a n = mmioRead s t a n := by
  unfold mmioRead clintLoad htifLoad
  rw [h.mip, h.mtimecmp, h.mtime, h.htifTohost]

/-- A PTE that is the same in both memories is read the same. -/
theorem readPTE_congr (h : SameBus s s')
    (hmem : Bytes.read s'.mem (a.setWidth xlen).toNat p.pteSize
      = Bytes.read s.mem (a.setWidth xlen).toNat p.pteSize) :
    readPTE s' p a = readPTE s p a := by
  rw [readPTE_eq, readPTE_eq, physAccessCheck_congr h.pmp, mmioRead_congr h, hmem]

/-- A PTE that can be written back is read from main memory. -/
theorem readPTE_of_writable {m : BitVec 64} (hp : p.Valid)
    (hw : PteWritable s p (a.setWidth xlen)) (hread : readPTE s p a = .ok (some m))
    (h : SameBus s s') :
    readPTE s' p a
      = .ok (some ((Bytes.read s'.mem (a.setWidth xlen).toNat p.pteSize).setWidth 64)) := by
  obtain ⟨-, hmmio, hphys⟩ := hw
  have hmmio' : withinMmioReadable (a.setWidth xlen) p.pteSize = false := by
    unfold withinMmioWritable at hmmio
    unfold withinMmioReadable
    rcases hp.pteSize_eq with hsize | hsize <;> rw [hsize] at hmmio ⊢ <;> exact hmmio
  rw [readPTE_eq] at hread ⊢
  rw [physAccessCheck_congr h.pmp]
  cases hc : physAccessCheck s .Read .Supervisor (a.setWidth xlen) p.pteSize with
  | error e => rw [hc] at hread; cases hread
  | ok c =>
      cases c with
      | some e => rw [hc] at hread; cases hread
      | none => simp [Except.map, hmmio', hphys]

/-- A PTE has the bits of its memory only. -/
theorem readPTE_bits {m : BitVec 64} (hread : readPTE s p a = .ok (some m)) {i : ℕ}
    (hi : 8 * p.pteSize ≤ i) : m.getLsbD i = false := by
  rw [readPTE_eq] at hread
  cases hc : physAccessCheck s .Read .Supervisor (a.setWidth xlen) p.pteSize with
  | error e => rw [hc] at hread; cases hread
  | ok c =>
      rw [hc] at hread
      simp only [Except.map, Except.ok.injEq] at hread
      cases c with
      | some e => cases hread
      | none =>
          have hwide (v : BitVec (8 * p.pteSize)) : (v.setWidth 64).getLsbD i = false := by
            rw [BitVec.getLsbD_setWidth, BitVec.getLsbD_of_ge v i hi, Bool.and_false]
          simp only at hread
          split at hread
          · split at hread
            · cases hread
            · cases hread
              exact hwide _
          · split at hread
            · cases hread
              exact hwide _
            · cases hread

omit [Platform] in
/-- The stored value of a PTE that fits its slot. -/
theorem setWidth_setWidth_pte {m : BitVec 64}
    (h : ∀ i, 8 * p.pteSize ≤ i → m.getLsbD i = false) :
    (m.setWidth (8 * p.pteSize)).setWidth 64 = m := by
  apply BitVec.eq_of_getLsbD_eq
  intro i hi
  rw [BitVec.getLsbD_setWidth, BitVec.getLsbD_setWidth]
  by_cases hlt : i < 8 * p.pteSize
  · simp [hi, hlt]
  · rw [h i (by omega)]
    simp

/-- Two aligned slots are the same or apart. -/
theorem slots_apart (hp : p.Valid) {b : BitVec 64} (ha : SlotAligned p a)
    (hb : SlotAligned p b) (hne : a.setWidth xlen ≠ b.setWidth xlen) :
    (a.setWidth xlen).toNat + p.pteSize ≤ (b.setWidth xlen).toNat
      ∨ (b.setWidth xlen).toNat + p.pteSize ≤ (a.setWidth xlen).toNat := by
  have hx := xlen_ge
  have hsize : p.pteSize ∣ 2 ^ xlen := by
    have h3 : p.pteSize ∣ 2 ^ 3 := by
      rcases hp.pteSize_eq with h | h <;> rw [h] <;> decide
    exact h3.trans (pow_dvd_pow 2 (by omega))
  have ha' : p.pteSize ∣ (a.setWidth xlen).toNat := by
    rw [BitVec.toNat_setWidth]
    exact (Nat.dvd_mod_iff hsize).mpr ha
  have hb' : p.pteSize ∣ (b.setWidth xlen).toNat := by
    rw [BitVec.toNat_setWidth]
    exact (Nat.dvd_mod_iff hsize).mpr hb
  have hne' : (a.setWidth xlen).toNat ≠ (b.setWidth xlen).toNat :=
    fun h => hne (BitVec.eq_of_toNat_eq h)
  obtain ⟨x, hx'⟩ := ha'
  obtain ⟨y, hy'⟩ := hb'
  rw [hx', hy'] at hne' ⊢
  rcases hp.pteSize_eq with h | h <;> rw [h] at hne' ⊢ <;> omega

/-- **A write-back advances the PTEs.** -/
theorem ptesAdvanced_store (hp : p.Valid) {b : BitVec 64} {m m' : BitVec 64}
    (hbus : SameBus s s') (hb : SlotAligned p b) (hw : PteWritable s p (b.setWidth xlen))
    (hread : readPTE s p b = .ok (some m)) (hadv : Advanced m m')
    (hmem : s'.mem = Bytes.write s.mem (b.setWidth xlen).toNat p.pteSize
      (m'.setWidth (8 * p.pteSize))) :
    PTEsAdvanced s s' p ∧ readPTE s' p b = .ok (some m') := by
  have hfit : ∀ i, 8 * p.pteSize ≤ i → m'.getLsbD i = false := by
    intro i hi
    have hsize := hp.pteSize_eq
    rw [← hadv.same i (by omega) (by omega)]
    exact readPTE_bits hread hi
  have hat {a : BitVec 64} (ha : a.setWidth xlen = b.setWidth xlen) :
      readPTE s' p a = .ok (some m') := by
    have hread' : readPTE s p a = .ok (some m) := by
      rw [readPTE_eq] at hread ⊢
      rw [ha]
      exact hread
    rw [readPTE_of_writable hp (by rw [ha]; exact hw) hread' hbus, ha, hmem, Bytes.read_write,
      setWidth_setWidth_pte hfit]
  refine ⟨fun a pte ha hpte => ?_, hat rfl⟩
  by_cases hab : a.setWidth xlen = b.setWidth xlen
  · refine ⟨m', hat hab, ?_⟩
    have heq : pte = m := by
      have hread' : readPTE s p a = readPTE s p b := by
        rw [readPTE_eq, readPTE_eq, hab]
      rw [hread', hread] at hpte
      cases hpte
      rfl
    rw [heq]
    exact hadv
  · refine ⟨pte, ?_, Advanced.refl pte⟩
    rw [readPTE_congr hbus]
    · exact hpte
    · rw [hmem]
      exact Bytes.read_write_of_disjoint _ _ ((slots_apart hp ha hb hab).symm)

/-- A change of the buffer does not change the PTEs. -/
theorem ptesAdvanced_of_sameMem (hbus : SameBus s s') (hmem : s'.mem = s.mem) :
    PTEsAdvanced s s' p := by
  intro a pte _ hpte
  refine ⟨pte, ?_, Advanced.refl pte⟩
  rw [readPTE_congr hbus (by rw [hmem])]
  exact hpte

end Bus

/-! ## Coherence -/

/-- The PTE of an entry is the one in memory, except that D may still be clear in the entry.
The A bit is set in both: the walk adds no other PTE to the buffer. -/
structure UpToD (e m : BitVec 64) : Prop where
  same : SameExceptAD e m
  setA : e.getLsbD 6 = true
  setA' : m.getLsbD 6 = true
  setD : e.getLsbD 7 = true → m.getLsbD 7 = true

omit [Platform] in
theorem pagesizeBits_le_superpage : pagesizeBits ≤ 22 := by decide

/-- An entry is the one that `add_to_TLB` builds after some successful walk of its page, up to
the D bit of the PTE. -/
def EntryOk (s : State) (p : SVParams) (ptb : BitVec 64) (e : TLBEntry) : Prop :=
  ∃ va ac priv mxr doSum o,
    ptWalk s p va ac priv mxr doSum ptb (p.levels - 1) false = .ok (.PTW_Success o)
      ∧ UpToD e.pte o.pte
      ∧ e = mkTLBEntry e.asid va o.pAddr e.pte o.pteAddr
          (pagesizeBits + o.level * p.vpnSizeBits) (pagesizeBits_le o p) e.global e.age

/-- Every entry that is global or belongs to the address space agrees with the table. -/
def Coherent (s : State) (p : SVParams) (asid : BitVec 16) (ptb : BitVec 64) : Prop :=
  ∀ i e, s.tlb i = some e → (e.global = true ∨ e.asid = asid) → EntryOk s p ptb e

/-- The address of the PTE that a translation writes back, from a hit or from the walk. -/
def NeedsWriteback (s : State) (p : SVParams) (asid : BitVec 16) (ptb va : BitVec 64)
    (ac : AccessType) (priv : Privilege) (mxr doSum : Bool) (a : BitVec 64) : Prop :=
  platEnableDirtyUpdate = true
    ∧ ((∃ i ent, lookupTLB s asid va = some (i, ent) ∧ updatePTEBits ent.pte ac ≠ none
          ∧ a = ent.pteAddr)
      ∨ ∃ o, ptWalk s p va ac priv mxr doSum ptb (p.levels - 1) false = .ok (.PTW_Success o)
          ∧ updatePTEBits o.pte ac ≠ none ∧ a = o.pteAddr)

section Coherence

variable {s s' : State} {p : SVParams} {asid : BitVec 16} {ptb : BitVec 64} {e : TLBEntry}

/-- **The entry of a walk agrees with the table**, in every later state that holds the PTE up
to D. -/
theorem entryOk_of_walk (hp : p.Valid) (hptb : 2 ^ 12 ∣ ptb.toNat) (hadv : PTEsAdvanced s s' p)
    {va x m age : BitVec 64} {ac : AccessType} {priv : Privilege} {mxr doSum : Bool}
    {o : PTWOutput}
    (hwalk : ptWalk s p va ac priv mxr doSum ptb (p.levels - 1) false = .ok (.PTW_Success o))
    (hread : readPTE s' p o.pteAddr = .ok (some m)) (hx : UpToD x m) (asid : BitVec 16)
    (global : Bool) : EntryOk s' p ptb (mkTLBEntry asid va o.pAddr x o.pteAddr
      (pagesizeBits + o.level * p.vpnSizeBits) (Nat.le_add_right _ _) global age) := by
  obtain ⟨l, hl, hleaf⟩ := leafAt_of_ptWalk hwalk
  obtain ⟨hperm, hal, rfl⟩ := ptwLeaf_success hleaf
  obtain ⟨pte', hl', hpte'⟩ := hl.advanced hp hadv hptb
  have hm : pte' = m := by
    have h := hl'.read
    simp only at h hread
    rw [h] at hread
    cases hread
    rfl
  subst hm
  have hppns := hpte'.same.ppns hp.ptePPNsLsbIndex_eq
  have haddr : leafAddr p va pte' l.level = leafAddr p va l.pte l.level := by
    unfold leafAddr
    rw [hppns]
  refine ⟨va, ac, priv, mxr, doSum, ⟨leafAddr p va pte' l.level, pte', l.pteAddr, l.level,
    l.global⟩, ?_, hx, ?_⟩
  · rw [hl'.ptWalk]
    refine ptwLeaf_of_allowed ?_ ?_
    · rw [← hpte'.same.checkPTEPermission]
      exact hperm
    · intro hlevel
      rw [← hppns]
      exact hal hlevel
  · simp only [haddr]
    rfl

/-- The PTE of an entry can be brought up to date. -/
theorem EntryOk.updated (hp : p.Valid) (hptb : 2 ^ 12 ∣ ptb.toNat) (hadv : PTEsAdvanced s s' p)
    (h : EntryOk s p ptb e) {x m : BitVec 64} (hread : readPTE s' p e.pteAddr = .ok (some m))
    (hx : UpToD x m) : EntryOk s' p ptb { e with pte := x } := by
  obtain ⟨va, ac, priv, mxr, doSum, o, hwalk, -, he⟩ := h
  rw [he] at hread ⊢
  exact entryOk_of_walk hp hptb hadv hwalk hread hx e.asid e.global

/-- The PTE that an entry was made from is in memory. -/
theorem EntryOk.read (hp : p.Valid) (hptb : 2 ^ 12 ∣ ptb.toNat) (h : EntryOk s p ptb e) :
    SlotAligned p e.pteAddr ∧ ∃ m, readPTE s p e.pteAddr = .ok (some m) ∧ UpToD e.pte m := by
  obtain ⟨va, ac, priv, mxr, doSum, o, hwalk, hpte, he⟩ := h
  obtain ⟨l, hl, hleaf⟩ := leafAt_of_ptWalk hwalk
  obtain ⟨-, -, rfl⟩ := ptwLeaf_success hleaf
  have haddr : e.pteAddr = l.pteAddr := by rw [he]; rfl
  rw [haddr]
  exact ⟨hl.slotAligned hp hptb, l.pte, hl.read, hpte⟩

/-- Advancing the PTEs keeps an entry in agreement with the table. -/
theorem EntryOk.advanced (hp : p.Valid) (hptb : 2 ^ 12 ∣ ptb.toNat)
    (hadv : PTEsAdvanced s s' p) (h : EntryOk s p ptb e) : EntryOk s' p ptb e := by
  obtain ⟨hal, m, hread, hpte⟩ := h.read hp hptb
  obtain ⟨m', hread', hm⟩ := hadv _ _ hal hread
  exact h.updated hp hptb hadv hread' ⟨hpte.same.trans hm.same, hpte.setA, hm.setA hpte.setA',
    fun hD => hm.setD (hpte.setD hD)⟩

/-- Advancing the PTEs keeps the entries of a state coherent that are also in the first. -/
theorem Coherent.entry_advanced (hp : p.Valid) (hptb : 2 ^ 12 ∣ ptb.toNat)
    (hcoh : Coherent s p asid ptb) (hadv : PTEsAdvanced s s' p) {j : Fin 64} {n : TLBEntry}
    (hn : n.global = true ∨ n.asid = asid → EntryOk s' p ptb n)
    (htlb : s'.tlb = Function.update s.tlb j (some n)) : Coherent s' p asid ptb := by
  intro i e hi hglobal
  rw [htlb] at hi
  by_cases hij : i = j
  · subst hij
    rw [Function.update_self] at hi
    cases hi
    exact hn hglobal
  · rw [Function.update_of_ne hij] at hi
    exact (hcoh i e hi hglobal).advanced hp hptb hadv

end Coherence

end SailRiscv
