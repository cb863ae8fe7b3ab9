/-
# Flushing the look-aside buffer

`flush_TLB` and the instruction that calls it.  An entry maps the page of `pageSize` bytes
that starts at its virtual address; every entry that a translation adds is aligned to its page
and carries the address space of some value of `satp`, and then the masks of the entry decide
whether it maps an address.

* `EntryFilled`, `Filled` : what holds of the entries that translations add;
* `translate_tlb` : what a translation does to the buffer;
* `FilledSince` : an entry was made by a page-table walk of a run;
* `AsidFlushes` : a register value flushes the entries of the address space it names.
-/
import SailRiscv.Insts.Base
import SailRiscv.Lib.Run
import SailRiscv.Lib.TrailingOnes
import SailRiscv.Pages
import SailRiscv.VmemTransparent

namespace SailRiscv

open Bits Platform

/-! ## The page of an entry -/

/-- The size of the page of an entry in bytes. -/
def TLBEntry.pageSize (e : TLBEntry) : ℕ := e.vAddrMask.toNat + 1

/-- The address lies in the page of an entry. -/
def TLBEntry.Maps (e : TLBEntry) (a : BitVec 64) : Prop :=
  e.vAddr.toNat ≤ a.toNat ∧ a.toNat < e.vAddr.toNat + e.pageSize

instance (e : TLBEntry) (a : BitVec 64) : Decidable (e.Maps a) :=
  inferInstanceAs (Decidable (_ ∧ _))

/-- The virtual address of an entry has no offset. -/
def TLBEntry.Aligned (e : TLBEntry) : Prop := e.vAddr &&& e.vMatchMask = e.vAddr

/-- New entries are aligned. -/
theorem aligned_mkTLBEntry (asid : BitVec 16) (va pa pte pteAddr : BitVec 64) (shift : ℕ)
    (hshift : pagesizeBits ≤ shift) (global : Bool) (age : BitVec 64) :
    (mkTLBEntry asid va pa pte pteAddr shift hshift global age).Aligned := by
  unfold TLBEntry.Aligned mkTLBEntry
  rw [BitVec.and_assoc, BitVec.and_self]

/-- The masks of an entry, by the width of the offset. -/
theorem TLBEntry.masks (e : TLBEntry) :
    ∃ shift, e.pageSize = 2 ^ shift ∧ e.vMatchMask = ~~~lowOnes 64 shift := by
  obtain ⟨shift, -, hlow, hhigh, -⟩ := e.pages
  refine ⟨min shift 64, ?_, ?_⟩
  · unfold TLBEntry.pageSize
    rw [hlow, ← lowOnes_min, toNat_lowOnes _ _ (min_le_right _ _)]
    have := Nat.two_pow_pos (min shift 64)
    omega
  · rw [hhigh, lowOnes_min]

/-- The comparison under the mask decides whether an aligned entry maps an address. -/
theorem TLBEntry.Aligned.match_iff {e : TLBEntry} (h : e.Aligned) (a : BitVec 64) :
    e.vAddr = a &&& e.vMatchMask ↔ e.Maps a := by
  obtain ⟨shift, hsize, hmask⟩ := e.masks
  have hpos := Nat.two_pow_pos shift
  have hpage : e.vAddr.toNat / 2 ^ shift * 2 ^ shift = e.vAddr.toNat := by
    rw [← toNat_and_not_lowOnes, ← hmask, h]
  have hround : (a &&& e.vMatchMask).toNat = a.toNat / 2 ^ shift * 2 ^ shift := by
    rw [hmask, toNat_and_not_lowOnes]
  have hdiv := Nat.div_add_mod a.toNat (2 ^ shift)
  have hlt := Nat.mod_lt a.toNat hpos
  have hcomm := Nat.mul_comm (2 ^ shift) (a.toNat / 2 ^ shift)
  unfold TLBEntry.Maps
  rw [hsize]
  constructor
  · intro heq
    have hn := congrArg BitVec.toNat heq
    rw [hround] at hn
    omega
  · rintro ⟨hle, hlt'⟩
    apply BitVec.eq_of_toNat_eq
    rw [hround, ← hpage]
    congr 1
    apply Nat.le_antisymm
    · exact Nat.div_le_div_right hle
    · rw [Nat.le_div_iff_mul_le hpos]
      by_contra hgt
      have hstep : (e.vAddr.toNat / 2 ^ shift + 1) * 2 ^ shift
          ≤ a.toNat / 2 ^ shift * 2 ^ shift := by
        apply Nat.mul_le_mul_right
        by_contra hq
        have := Nat.mul_le_mul_right (2 ^ shift)
          (show a.toNat / 2 ^ shift ≤ e.vAddr.toNat / 2 ^ shift by omega)
        omega
      rw [Nat.add_mul, hpage] at hstep
      omega

/-- An entry of another PTE is for the same page. -/
def SamePageEntry (e e' : TLBEntry) : Prop := ∃ x, e' = { e with pte := x }

theorem SamePageEntry.refl (e : TLBEntry) : SamePageEntry e e := ⟨e.pte, rfl⟩

theorem SamePageEntry.trans {e₁ e₂ e₃ : TLBEntry} (h : SamePageEntry e₁ e₂)
    (h' : SamePageEntry e₂ e₃) : SamePageEntry e₁ e₃ := by
  obtain ⟨x, rfl⟩ := h
  obtain ⟨y, rfl⟩ := h'
  exact ⟨y, rfl⟩

/-- The match of a look-up, for an aligned entry. -/
theorem TLBEntry.Aligned.matchTLBEntry {e : TLBEntry} (h : e.Aligned) (asid : BitVec 16)
    (a : BitVec 64) :
    matchTLBEntry e asid a = true ↔ (e.global = true ∨ e.asid = asid) ∧ e.Maps a := by
  unfold SailRiscv.matchTLBEntry
  rw [Bool.and_eq_true, Bool.or_eq_true, beq_iff_eq, beq_iff_eq, BitVec.and_comm, h.match_iff]

variable [Platform]

/-! ## Filling the buffer -/

/-- What holds of the entries that translations add. -/
structure EntryFilled (e : TLBEntry) : Prop where
  aligned : e.Aligned
  asid : ∃ satp : Xlenbits, e.asid = satpToAsid satp

/-- All entries of a state are as translations make them. -/
def Filled (s : State) : Prop := ∀ i e, s.tlb i = some e → EntryFilled e

/-- What happens to the buffer. -/
inductive TlbEvent where
  | translate (va : Xlenbits) (ac : AccessType)
  | flush (asid addr : Option Xlenbits)
  /-- Any change that leaves the buffer alone. -/
  | other

/-- One event. -/
def TlbStep (l : TlbEvent) (s s' : State) : Prop :=
  match l with
  | .translate va ac => ∃ r, (translateAddr va ac).run s = .ok (r, s')
  | .flush asid addr => (flushTLB asid addr).run s = .ok ((), s')
  | .other => s'.tlb = s.tlb

/-- A state that is reached from an empty buffer. -/
def TlbReachable (s : State) : Prop :=
  ∃ s₀, (∀ i, s₀.tlb i = none) ∧ Run TlbStep Run.Free s₀ s

/-- The buffers of two states are the same. -/
def SameTlb (s s' : State) : Prop := s'.tlb = s.tlb

instance : BusClosed SameTlb where
  refl _ := rfl
  trans _ _ _ h₁ h₂ := Eq.trans h₂ h₁
  devices _ _ := rfl
  store _ _ _ _ _ := rfl

section Translate

variable {s s' : State} {p : SVParams} {asid : BitVec 16} {ptb va : BitVec 64} {ac : AccessType}
  {priv : Privilege} {mxr doSum : Bool} {r : TRResult (BitVec 64) PTWError}

/-- The translation walked the page table, and stored an entry for the page of `va` in the
slot of `va`. -/
structure Walked (s s' : State) (p : SVParams) (asid : BitVec 16) (ptb va : BitVec 64)
    (ac : AccessType) (priv : Privilege) (mxr doSum : Bool) (e : TLBEntry) : Prop where
  miss : lookupTLB s asid va = none
  walk : ∃ o, ptWalk s p va ac priv mxr doSum ptb (p.levels - 1) false = .ok (.PTW_Success o)
    ∧ ∃ x age, e = mkTLBEntry asid va o.pAddr x o.pteAddr
        (pagesizeBits + o.level * p.vpnSizeBits) (Nat.le_add_right _ _) o.global age
  stored : s'.tlb = Function.update s.tlb (tlbHash va) (some e)

/-- An entry is added. -/
theorem run_addToTLB_tlb {pAddr pte pteAddr : BitVec 64} {level n : ℕ} {global : Bool} {u : Unit}
    (h : (addToTLB asid va pAddr pte pteAddr level global n).run s = .ok (u, s')) :
    ∃ age, s'.tlb = Function.update s.tlb (tlbHash va) (some (mkTLBEntry asid va pAddr pte pteAddr
      (pagesizeBits + level * n) (Nat.le_add_right _ _) global age)) := by
  unfold addToTLB at h
  obtain ⟨_, s₁, hassert, hupdate⟩ := Exec.run_bind_ok.mp h
  have hs : SameTlb s s₁ := (keeps_assert (R := SameTlb) _ _).rel hassert
  cases hupdate
  refine ⟨s₁.mcycle, ?_⟩
  rw [← hs]

/-- A hit changes at most the PTE of the entry. -/
theorem translateTLBHit_tlb {i : Fin 64} {e : TLBEntry}
    (h : (translateTLBHit p va ac priv mxr doSum i e).run s = .ok (r, s')) :
    s'.tlb = s.tlb ∨ ∃ x, s'.tlb = Function.update s.tlb i (some { e with pte := x }) := by
  unfold translateTLBHit at h
  obtain ⟨b, s₁, hcheck, h⟩ := Exec.run_bind_ok.mp h
  obtain ⟨-, rfl⟩ := Exec.run_checks_ok.mp hcheck
  cases b with
  | false => cases h; exact Or.inl rfl
  | true =>
      cases hx : updatePTEBits e.pte ac with
      | none =>
          rw [hx] at h
          cases h
          exact Or.inl rfl
      | some x =>
          rw [hx] at h
          simp only [Bool.not_true, Bool.false_eq_true, if_false] at h
          cases hd : platEnableDirtyUpdate with
          | false =>
              rw [hd] at h
              cases h
              exact Or.inl rfl
          | true =>
              rw [hd] at h
              refine Or.inr ⟨x, ?_⟩
              obtain ⟨_, s₂, hwrite, hrest⟩ := Exec.run_bind_ok.mp h
              obtain ⟨w, s₃, hpte, hres⟩ := Exec.run_bind_ok.mp hrest
              have hkeep : SameTlb s₂ s₃ := (keeps_writePte (R := SameTlb) _ _ _).rel hpte
              cases hwrite
              cases w with
              | MemException _ => cases hres
              | MemValue _ =>
                  cases hres
                  exact hkeep

/-- A miss leaves the buffer alone or stores the entry of the walk. -/
theorem translateTLBMiss_tlb (hmiss : lookupTLB s asid va = none)
    (h : (translateTLBMiss p asid ptb va ac priv mxr doSum).run s = .ok (r, s')) :
    s'.tlb = s.tlb ∨ ∃ e, Walked s s' p asid ptb va ac priv mxr doSum e := by
  unfold translateTLBMiss at h
  obtain ⟨w, s₁, hcheck, h⟩ := Exec.run_bind_ok.mp h
  obtain ⟨hwalk, rfl⟩ := Exec.run_checks_ok.mp hcheck
  cases w with
  | PTW_Failure f => cases h; exact Or.inl rfl
  | PTW_Success o =>
      simp only at h
      cases hx : updatePTEBits o.pte ac with
      | none =>
          rw [hx] at h
          obtain ⟨_, s₂, hadd, hres⟩ := Exec.run_bind_ok.mp h
          cases hres
          obtain ⟨age, htlb⟩ := run_addToTLB_tlb hadd
          exact Or.inr ⟨_, hmiss, ⟨o, hwalk, o.pte, age, rfl⟩, htlb⟩
      | some x =>
          rw [hx] at h
          simp only at h
          cases hd : platEnableDirtyUpdate with
          | false =>
              rw [hd] at h
              cases h
              exact Or.inl rfl
          | true =>
              rw [hd] at h
              obtain ⟨w, s₂, hpte, hres⟩ := Exec.run_bind_ok.mp h
              have hkeep : SameTlb s₁ s₂ := (keeps_writePte (R := SameTlb) _ _ _).rel hpte
              cases w with
              | MemException _ =>
                  cases hres
                  exact Or.inl hkeep
              | MemValue _ =>
                  obtain ⟨_, s₃, hadd, hend⟩ := Exec.run_bind_ok.mp hres
                  cases hend
                  obtain ⟨age, htlb⟩ := run_addToTLB_tlb hadd
                  rw [hkeep] at htlb
                  exact Or.inr ⟨_, hmiss, ⟨o, hwalk, x, age, rfl⟩, htlb⟩

/-- **What a translation does to the buffer**: nothing, or it replaces the PTE of the entry
that it hits, or it misses and stores the entry of its page-table walk. -/
theorem translate_tlb (h : (translate p asid ptb va ac priv mxr doSum).run s = .ok (r, s')) :
    s'.tlb = s.tlb
      ∨ (∃ i e x, s.tlb i = some e
          ∧ s'.tlb = Function.update s.tlb i (some { e with pte := x }))
      ∨ ∃ e, Walked s s' p asid ptb va ac priv mxr doSum e := by
  cases hlook : lookupTLB s asid va with
  | none =>
      rw [run_translate_miss hlook] at h
      rcases translateTLBMiss_tlb hlook h with hsame | hwalked
      · exact Or.inl hsame
      · exact Or.inr (Or.inr hwalked)
  | some ie =>
      obtain ⟨i, e⟩ := ie
      rw [run_translate_hit hlook] at h
      rcases translateTLBHit_tlb h with hsame | ⟨x, hx⟩
      · exact Or.inl hsame
      · exact Or.inr (Or.inl ⟨i, e, x, (lookupTLB_eq_some.mp hlook).2.1, hx⟩)

end Translate

/-! ## Where the entries come from -/

/-- The translation of an address under the registers of `s` stored an entry for its page, in
the slot of the address. -/
def WalkedFor (s s' : State) (va : Xlenbits) (ac : AccessType) (e : TLBEntry) : Prop :=
  ∃ p priv, Translates s va ac p priv
    ∧ Walked s s' p (satpToAsid s.satp) (satpToPTBase s.satp) (va.setWidth 64) ac priv
        (Mstatus.MXR.get s.mstatus == 1#1) (Mstatus.SUM.get s.mstatus == 1#1) e

/-- A page-table walk of a run from `s₁` to `s` made the entry. -/
def FilledSince (s₁ s : State) (i : Fin 64) (e : TLBEntry) : Prop :=
  ∃ u u' va ac e₀, Run TlbStep Run.Free s₁ u ∧ WalkedFor u u' va ac e₀
    ∧ Run TlbStep Run.Free u' s ∧ tlbHash (va.setWidth 64) = i ∧ SamePageEntry e₀ e

section Origin

variable {s₁ s s' : State} {i : Fin 64} {e : TLBEntry}

/-- The entry of a walk is as translations make them. -/
theorem WalkedFor.filled {va : Xlenbits} {ac : AccessType} (h : WalkedFor s s' va ac e) :
    EntryFilled e := by
  obtain ⟨p, priv, -, -, ⟨o, -, x, age, rfl⟩, -⟩ := h
  exact ⟨aligned_mkTLBEntry .., s.satp, rfl⟩

/-- What one event does to the buffer. -/
theorem TlbStep.tlb {l : TlbEvent} (h : TlbStep l s s') (hi : s'.tlb i = some e) :
    (∃ e₀, s.tlb i = some e₀ ∧ SamePageEntry e₀ e)
      ∨ ∃ va ac, WalkedFor s s' va ac e ∧ tlbHash (va.setWidth 64) = i := by
  have hsame (htlb : s'.tlb = s.tlb) : ∃ e₀, s.tlb i = some e₀ ∧ SamePageEntry e₀ e := by
    rw [htlb] at hi
    exact ⟨e, hi, .refl e⟩
  cases l with
  | other => exact Or.inl (hsame h)
  | flush asid addr =>
      cases h
      obtain ⟨hold, -⟩ := Option.filter_eq_some_iff.mp hi
      exact Or.inl ⟨e, hold, .refl e⟩
  | translate va ac =>
      obtain ⟨r, hrun⟩ := h
      rcases translateAddr_cases hrun with ⟨rfl, -⟩ | ⟨p, priv, r', htr, hin, -⟩
      · exact Or.inl (hsame rfl)
      · rcases translate_tlb hin with htlb | ⟨j, e₀, x, hj, htlb⟩ | ⟨e₀, hw⟩
        · exact Or.inl (hsame htlb)
        · left
          rw [htlb] at hi
          by_cases hij : i = j
          · subst hij
            rw [Function.update_self] at hi
            cases hi
            exact ⟨e₀, hj, x, rfl⟩
          · rw [Function.update_of_ne hij] at hi
            exact ⟨e, hi, .refl e⟩
        · have hi' := hi
          rw [hw.stored] at hi'
          by_cases hij : i = tlbHash (va.setWidth 64)
          · subst hij
            rw [Function.update_self] at hi'
            cases hi'
            exact Or.inr ⟨va, ac, ⟨p, priv, htr, hw⟩, rfl⟩
          · rw [Function.update_of_ne hij] at hi'
            exact Or.inl ⟨e, hi', .refl e⟩

/-- An entry after a run was there before it, up to its PTE, or was made by a walk of the run. -/
theorem tlb_origin (hrun : Run TlbStep Run.Free s₁ s) :
    ∀ i e, s.tlb i = some e →
      (∃ e₀, s₁.tlb i = some e₀ ∧ SamePageEntry e₀ e) ∨ FilledSince s₁ s i e := by
  induction hrun with
  | start => exact fun i e hi => Or.inl ⟨e, hi, .refl e⟩
  | @next u u' l hrun hfree hstep ih =>
      intro i e hi
      rcases hstep.tlb hi with ⟨e₀, hi₀, he⟩ | ⟨va, ac, hw, hslot⟩
      · rcases ih i e₀ hi₀ with ⟨e₁, hi₁, he₁⟩ | ⟨v, v', va, ac, e₁, hv, hw, hv', hslot, he₁⟩
        · exact Or.inl ⟨e₁, hi₁, he₁.trans he⟩
        · exact Or.inr ⟨v, v', va, ac, e₁, hv, hw, .next hv' hfree hstep, hslot, he₁.trans he⟩
      · exact Or.inr ⟨u, u', va, ac, e, hrun, hw, .start, hslot, .refl e⟩

/-- Replacing the PTE keeps an entry as translations make them. -/
theorem EntryFilled.samePage {e e' : TLBEntry} (h : EntryFilled e) (he : SamePageEntry e e') :
    EntryFilled e' := by
  obtain ⟨x, rfl⟩ := he
  exact ⟨h.aligned, h.asid⟩

/-- Every event keeps the entries as translations make them. -/
theorem Filled.step {l : TlbEvent} (h : Filled s) (hstep : TlbStep l s s') : Filled s' := by
  intro i e hi
  rcases hstep.tlb hi with ⟨e₀, hi₀, he⟩ | ⟨va, ac, hw, -⟩
  · exact (h i e₀ hi₀).samePage he
  · exact hw.filled

/-- **The entries of a reachable buffer** are aligned and carry an address space of `satp`. -/
theorem TlbReachable.filled (h : TlbReachable s) : Filled s := by
  obtain ⟨s₀, hempty, hrun⟩ := h
  refine hrun.invariant (I := Filled) ?_ (fun hI _ hstep => hI.step hstep)
  intro i e hi
  rw [hempty i] at hi
  cases hi

end Origin

/-! ## Flushing -/

/-- The entries that a flush is for.  No address space means all of them, and no address means
all pages; global entries are spared when an address space is given. -/
def Affected (asid addr : Option Xlenbits) (e : TLBEntry) : Prop :=
  (∀ i ∈ asid, e.asid = i.extractLsb' 0 16 ∧ e.global = false)
    ∧ ∀ a ∈ addr, e.Maps (a.setWidth 64)

section Flush

variable {s s' : State} {asid addr : Option Xlenbits}

/-- The state after a flush. -/
theorem run_flushTLB (h : (flushTLB asid addr).run s = .ok ((), s')) :
    s' = { s with
      tlb := fun i => (s.tlb i).filter (fun e => !flushTLBEntry e
        (asid.map (fun a => a.extractLsb' 0 16)) (addr.map (fun a => a.setWidth 64))) } := by
  cases h
  rfl

/-- The entries that `flush_TLB_Entry` selects. -/
theorem flushTLBEntry_iff {e : TLBEntry} (he : e.Aligned) :
    flushTLBEntry e (asid.map (fun a => a.extractLsb' 0 16)) (addr.map (fun a => a.setWidth 64))
        = true ↔ Affected asid addr e := by
  unfold flushTLBEntry Affected
  rcases asid with _ | i <;> rcases addr with _ | a
  · simp
  · simp [BitVec.and_comm e.vMatchMask, he.match_iff]
  · simp
  · simp [he.match_iff]
    tauto

/-- **What remains after a flush**: the entries that the flush is not for, unchanged. -/
theorem tlb_flushTLB (hs : Filled s) (h : (flushTLB asid addr).run s = .ok ((), s'))
    (i : Fin 64) (e : TLBEntry) :
    s'.tlb i = some e ↔ s.tlb i = some e ∧ ¬ Affected asid addr e := by
  rw [run_flushTLB h]
  simp only [Option.filter_eq_some_iff, Bool.not_eq_true', ← Bool.not_eq_true]
  constructor
  · rintro ⟨hi, hf⟩
    exact ⟨hi, fun ha => hf ((flushTLBEntry_iff (hs i e hi).aligned).mpr ha)⟩
  · rintro ⟨hi, ha⟩
    exact ⟨hi, fun hf => ha ((flushTLBEntry_iff (hs i e hi).aligned).mp hf)⟩

/-- An address space and an address that a flush is for, up to the offset in the page. -/
def Targets (asid addr : Option Xlenbits) (j : BitVec 16) (va : BitVec 64) : Prop :=
  (∀ i ∈ asid, j = i.extractLsb' 0 16) ∧ ∀ a ∈ addr, SamePage (a.setWidth 64) va

omit [Platform] in
/-- An aligned entry maps the addresses of a page together. -/
theorem TLBEntry.Aligned.maps_samePage {e : TLBEntry} (h : e.Aligned) {a b : BitVec 64}
    (hab : SamePage a b) : e.Maps b ↔ e.Maps a := by
  have heq : SailRiscv.matchTLBEntry e e.asid b = SailRiscv.matchTLBEntry e e.asid a :=
    matchTLBEntry_samePage hab e
  rw [Bool.eq_iff_iff, h.matchTLBEntry, h.matchTLBEntry] at heq
  simpa using heq

/-- An entry that a look-up after the flush finds was made since, or it is a global entry that
the flush spared. -/
theorem lookupTLB_flushed {s₂ : State} {j : BitVec 16} {va : BitVec 64} {i : Fin 64}
    {e : TLBEntry} (hs : Filled s) (h : (flushTLB asid addr).run s = .ok ((), s'))
    (hrun : Run TlbStep Run.Free s' s₂) (ht : Targets asid addr j va)
    (hlook : lookupTLB s₂ j va = some (i, e)) :
    FilledSince s' s₂ i e ∨ (asid.isSome = true ∧ e.global = true ∧ e.Maps va
      ∧ ∃ e₀, s.tlb i = some e₀ ∧ SamePageEntry e₀ e) := by
  obtain ⟨-, hi, hm⟩ := lookupTLB_eq_some.mp hlook
  rcases tlb_origin hrun i e hi with ⟨e₀, hi₀, he⟩ | hfilled
  · right
    obtain ⟨hold, hspared⟩ := (tlb_flushTLB hs h i e₀).mp hi₀
    have hal : e₀.Aligned := (hs i e₀ hold).aligned
    obtain ⟨x, rfl⟩ := he
    obtain ⟨hasid, hmaps⟩ :=
      (TLBEntry.Aligned.matchTLBEntry (e := { e₀ with pte := x }) hal j va).mp hm
    have hpage : ∀ a ∈ addr, e₀.Maps (a.setWidth 64) := fun a ha =>
      (hal.maps_samePage (ht.2 a ha)).mp hmaps
    cases asid with
    | none => exact absurd ⟨nofun, hpage⟩ hspared
    | some k =>
        refine ⟨rfl, ?_, hmaps, e₀, hold, x, rfl⟩
        by_contra hglobal
        rw [Bool.not_eq_true] at hglobal
        rcases hasid with hg | hasid
        · rw [hg] at hglobal
          cases hglobal
        · refine hspared ⟨?_, hpage⟩
          intro k' hk'
          cases hk'
          exact ⟨hasid.trans (ht.1 k rfl), hglobal⟩
  · exact Or.inl hfilled

/-- **A flush takes effect.**  It completes, removes the entries that it is for, and leaves
the other entries and the rest of the state alone.  At any later time, a translation that the
flush is for walks the page table, or uses an entry that a walk made since the flush or, when
an address space was given, a global entry that covers the address. -/
theorem flushTLB_effect (s : State) (hs : TlbReachable s) (asid addr : Option Xlenbits) :
    ∃ s', (flushTLB asid addr).run s = .ok ((), s')
      ∧ s' = { s with
          tlb := s'.tlb }
      ∧ (∀ i e, s'.tlb i = some e ↔ s.tlb i = some e ∧ ¬ Affected asid addr e)
      ∧ ∀ s₂, Run TlbStep Run.Free s' s₂ → ∀ j va, Targets asid addr j va →
          ∀ p ptb ac priv mxr doSum,
            (translate p j ptb va ac priv mxr doSum).run s₂
                = (translateTLBMiss p j ptb va ac priv mxr doSum).run s₂
              ∨ ∃ i e, lookupTLB s₂ j va = some (i, e)
                ∧ (FilledSince s' s₂ i e ∨ (asid.isSome = true ∧ e.global = true ∧ e.Maps va
                    ∧ ∃ e₀, s.tlb i = some e₀ ∧ SamePageEntry e₀ e)) := by
  have hfilled := hs.filled
  refine ⟨_, rfl, rfl, fun i e => tlb_flushTLB hfilled rfl i e, ?_⟩
  intro s₂ hrun j va ht p ptb ac priv mxr doSum
  cases hlook : lookupTLB s₂ j va with
  | none => exact Or.inl (run_translate_miss hlook)
  | some ie => exact Or.inr ⟨ie.1, ie.2, rfl, lookupTLB_flushed hfilled rfl hrun ht hlook⟩

end Flush

/-! ## A superpage -/

/-- A supervisor state that maps the superpage at 0 to `0x80000000` in the address space 0. -/
def superpage : State :=
  { State.zero (Bytes.write (fun _ => 0#8) 0x80000000 4 0x200000C7#32) with
    curPrivilege := .Supervisor
    satp := (0x80080000#32).setWidth xlen }

/-- The output of the walk of the superpage. -/
def superpageOutput : PTWOutput := ⟨0x80000000#64, 0x200000C7#64, 0x80000000#64, 1, false⟩

omit [Platform] in
/-- The superpage gets into the buffer by a translation of its first address. -/
theorem reachable_superpage :
    letI := rv32DirtyUpdate true
    TlbReachable (addedEntry superpage sv32Params 0#16 0#64 0x200000C7#64 superpageOutput) := by
  let := rv32DirtyUpdate true
  have htr : Translates superpage 0#32 .Write sv32Params .Supervisor :=
    ⟨by decide, .Sv32, by decide, rfl, rfl⟩
  have hwalk : ptWalk superpage sv32Params 0#64 .Write .Supervisor false false 0x80000000#64 1
      false = .ok (.PTW_Success superpageOutput) := by decide +kernel
  refine ⟨superpage, fun _ => rfl, .next (l := .translate 0#32 .Write) .start trivial
    ⟨trResult .Write (.TR_Address 0x80000000#64), ?_⟩⟩
  rw [run_translateAddr_of_translates htr]
  have hin : (translateIn superpage sv32Params 0#32 .Write .Supervisor).run superpage
      = .ok (.TR_Address 0x80000000#64,
          addedEntry superpage sv32Params 0#16 0#64 0x200000C7#64 superpageOutput) := by
    have hlook : lookupTLB superpage 0#16 0#64 = none := rfl
    have hrun : (translate sv32Params 0#16 0x80000000#64 0#64 .Write .Supervisor false
        false).run superpage = (translateTLBMiss sv32Params 0#16 0x80000000#64 0#64 .Write
        .Supervisor false false).run superpage := run_translate_miss hlook
    rw [run_miss_clean (Or.inl rfl) hwalk (by decide)] at hrun
    have hasid : satpToAsid superpage.satp = 0#16 := by decide
    have hptb : satpToPTBase superpage.satp = 0x80000000#64 := by decide
    have hmxr : (Mstatus.MXR.get superpage.mstatus == 1#1) = false := by decide
    have hsum : (Mstatus.SUM.get superpage.mstatus == 1#1) = false := by decide
    unfold translateIn
    rw [hasid, hptb, hmxr, hsum]
    exact hrun
  rw [Exec.run_bind_of_ok hin]
  rfl

omit [Platform] in
/-- The superpage is flushed by an address in it whose slot is another one. -/
theorem flushTLB_effect_superpage :
    letI := rv32DirtyUpdate true
    ∃ s s' : State, TlbReachable s ∧ (s.tlb 0).isSome = true
      ∧ tlbHash 0x3000#64 ≠ 0
      ∧ (flushTLB none (some 0x3000#32)).run s = .ok ((), s') ∧ s'.tlb 0 = none := by
  let := rv32DirtyUpdate true
  obtain ⟨s', hrun, -, htlb, -⟩ := flushTLB_effect _ reachable_superpage none (some 0x3000#32)
  refine ⟨_, s', reachable_superpage, rfl, by decide, hrun, ?_⟩
  cases hslot : s'.tlb 0 with
  | none => rfl
  | some e =>
      obtain ⟨hold, hspared⟩ := (htlb 0 e).mp hslot
      cases hold
      exact absurd ⟨nofun, fun a ha => by cases ha; decide⟩ hspared

/-! ## The instruction -/

/-- `SFENCE.VMA` flushes with the registers of its operands, where it is legal. -/
theorem run_SFENCE_VMA (s : State) (rs1 rs2 : Regidx)
    (hpriv : s.curPrivilege = .Machine ∨ (s.curPrivilege = .Supervisor
      ∧ (architecture (getMstatusSXL s.mstatus)).isSome = true
      ∧ Mstatus.TVM.get s.mstatus ≠ 1#1)) :
    (BaseInst.SFENCE_VMA rs1 rs2).execute.run s
      = (flushTLB (fenceOperand s rs2) (fenceOperand s rs1) >>= fun _ =>
          pure .RETIRE_SUCCESS : M Retired).run s := by
  unfold BaseInst.execute
  simp only [Exec.run_bind_of_ok (Exec.run_reads _ s)]
  rcases hpriv with hp | ⟨hp, harch, htvm⟩
  · simp [hp]
  · have harch' : (architecture (getMstatusSXL s.mstatus)).isNone = false := by
      cases ha : architecture (getMstatusSXL s.mstatus) with
      | none => rw [ha] at harch; cases harch
      | some a => rfl
    simp [hp, harch', htvm]

/-! ## The width of the address space -/

/-- The width of the field of `satp` for the address space. -/
def asidMax : ℕ := if xlen = 32 then Satp32.Asid.width else Satp64.Asid.width

/-- The address space that a register value names: its lowest `asidMax` bits. -/
def namedAsid (v : Xlenbits) : BitVec 16 := (v.setWidth asidMax).setWidth 16

/-- Flushing with `v` treats exactly the entries that were filled under the address space that
`v` names as its own, and the bits of `v` above the field do not matter. -/
def AsidFlushes (v : Xlenbits) : Prop :=
  ∀ (s : State) (addr : Option Xlenbits), Filled s →
    (∀ s', (flushTLB (some v) addr).run s = .ok ((), s') → ∀ i e, s.tlb i = some e →
      ∀ satp : Xlenbits, e.asid = satpToAsid satp →
        (s'.tlb i = none ↔ satpToAsid satp = namedAsid v ∧ e.global = false
          ∧ ∀ a ∈ addr, e.Maps (a.setWidth 64)))
      ∧ (flushTLB (some v) addr).run s
          = (flushTLB (some ((v.setWidth asidMax).setWidth xlen)) addr).run s

section Asid

/-- Every value of the field is the address space of some `satp`. -/
theorem exists_satpToAsid (v : Xlenbits) : ∃ satp : Xlenbits, satpToAsid satp = namedAsid v := by
  unfold satpToAsid namedAsid asidMax
  rcases Platform.xlen_eq with hx | hx
  · refine ⟨Satp32.Asid.set 0#_ (v.setWidth 9), ?_⟩
    rw [if_pos hx, if_pos hx, Field.get_set (by rw [hx]; decide)]
  · refine ⟨Satp64.Asid.set 0#_ (v.setWidth 16), ?_⟩
    rw [if_neg (by omega), if_neg (by omega), Field.get_set (by rw [hx]; decide)]
    rw [BitVec.setWidth_setWidth_of_le _ (le_refl _)]

/-- The low 16 bits of a register value name the address space when nothing stands in them
above the field. -/
theorem extractLsb'_eq_namedAsid_iff (v : Xlenbits) :
    v.extractLsb' 0 16 = namedAsid v ↔ xlen = 64 ∨ v.extractLsb' 9 7 = 0#7 := by
  have hbits (i : ℕ) : (namedAsid v).getLsbD i
      = (decide (i < 16) && (decide (i < asidMax) && v.getLsbD i)) := by
    unfold namedAsid
    rw [BitVec.getLsbD_setWidth, BitVec.getLsbD_setWidth]
  constructor
  · intro h
    rcases Platform.xlen_eq with hx | hx
    · right
      apply BitVec.eq_of_getLsbD_eq
      intro i hi
      have hbit := congrArg (fun w => w.getLsbD (9 + i)) h
      simp only [hbits, BitVec.getLsbD_extractLsb', asidMax, hx] at hbit
      rw [BitVec.getLsbD_extractLsb']
      simpa [hi, show 9 + i < 16 by omega] using hbit
    · exact Or.inl hx
  · intro h
    apply BitVec.eq_of_getLsbD_eq
    intro i hi
    rw [hbits, BitVec.getLsbD_extractLsb', Nat.zero_add]
    by_cases hlow : i < asidMax
    · simp [hlow]
    · have hx : xlen = 32 := by
        by_contra hx
        exact hlow (by unfold asidMax; rw [if_neg hx]; exact hi)
      have h9 : 9 ≤ i := by
        unfold asidMax at hlow
        rw [if_pos hx] at hlow
        simpa using hlow
      rcases h with h | h
      · omega
      · have hbit := congrArg (fun w => w.getLsbD (i - 9)) h
        simp only [BitVec.getLsbD_extractLsb', show 9 + (i - 9) = i by omega,
          show i - 9 < 7 by omega] at hbit
        simpa [hi, hlow] using hbit

/-- An entry of an address space for the page at 0. -/
def pageEntry (asid : BitVec 16) : TLBEntry :=
  mkTLBEntry asid 0#64 0#64 0#64 0#64 pagesizeBits (le_refl _) false 0#64

/-- A state whose buffer holds one entry. -/
def oneEntry (asid : BitVec 16) : State :=
  { State.zero (fun _ => 0#8) with
    tlb := Function.update (fun _ => none) 0 (some (pageEntry asid)) }

theorem filled_oneEntry {asid : BitVec 16} (h : ∃ satp : Xlenbits, asid = satpToAsid satp) :
    Filled (oneEntry asid) := by
  intro i e hi
  unfold oneEntry at hi
  simp only at hi
  by_cases h0 : i = 0
  · subst h0
    rw [Function.update_self] at hi
    cases hi
    exact ⟨aligned_mkTLBEntry .., h⟩
  · rw [Function.update_of_ne h0] at hi
    cases hi

/-- **A register value flushes the address space that it names** exactly when it holds nothing
between the field for the address space and bit 16: always on RV64, and on RV32 when its bits
15 to 9 are clear. -/
theorem asidFlushes_iff (v : Xlenbits) :
    AsidFlushes v ↔ xlen = 64 ∨ v.extractLsb' 9 7 = 0#7 := by
  rw [← extractLsb'_eq_namedAsid_iff]
  constructor
  · intro h
    obtain ⟨satp, hsatp⟩ := exists_satpToAsid v
    have hmine := ((h (oneEntry (namedAsid v)) none
      (filled_oneEntry ⟨satp, hsatp.symm⟩)).1 _ rfl 0 (pageEntry (namedAsid v)) rfl satp
        hsatp.symm).mpr ⟨hsatp, rfl, nofun⟩
    by_contra hne
    have hkept := (tlb_flushTLB (filled_oneEntry ⟨satp, hsatp.symm⟩)
      (rfl : (flushTLB (some v) none).run (oneEntry (namedAsid v)) = .ok ((), _)) 0
      (pageEntry (namedAsid v))).mpr ⟨rfl, fun ha => hne (ha.1 v rfl).1.symm⟩
    rw [hkept] at hmine
    cases hmine
  · intro h s addr hs
    constructor
    · intro s' hrun i e hi satp hasid
      have hkept := tlb_flushTLB hs hrun i e
      have hsub := tlb_flushTLB hs hrun i
      rw [← hasid, ← h]
      have haff : Affected (some v) addr e ↔ e.asid = v.extractLsb' 0 16 ∧ e.global = false
          ∧ ∀ a ∈ addr, e.Maps (a.setWidth 64) := by
        unfold Affected
        simp [and_assoc]
      rw [← haff]
      constructor
      · intro hnone
        by_contra hna
        rw [hnone] at hkept
        cases hkept.mpr ⟨hi, hna⟩
      · intro ha
        cases hslot : s'.tlb i with
        | none => rfl
        | some e' =>
            obtain ⟨hi', hna⟩ := (hsub e').mp hslot
            rw [hi] at hi'
            cases hi'
            exact absurd ha hna
    · have hlow : ((v.setWidth asidMax).setWidth xlen).extractLsb' 0 16 = v.extractLsb' 0 16 := by
        rw [h]
        unfold namedAsid
        apply BitVec.eq_of_getLsbD_eq
        intro i hi
        have hx := xlen_ge
        rw [BitVec.getLsbD_extractLsb', BitVec.getLsbD_setWidth, BitVec.getLsbD_setWidth,
          Nat.zero_add]
        simp [hi, show i < xlen by omega]
      unfold flushTLB
      simp only [Option.map_some, hlow]

end Asid

omit [Platform] in
/-- On RV32, flushing with `0x200`, whose lowest nine bits are zero, spares the entries of the
address space 0. -/
theorem asidFlushes_fails : ¬ ∀ [Platform] (v : Xlenbits), AsidFlushes v := by
  intro h
  let := rv32DirtyUpdate true
  have hreach := reachable_superpage
  have hflush := (h 0x200#32 _ none hreach.filled).1 _ rfl 0
    (mkTLBEntry 0#16 0#64 0x80000000#64 0x200000C7#64 0x80000000#64 22 (by decide) false 0#64)
    rfl 0x80080000#32 (by decide)
  have hgone := hflush.mpr ⟨by decide, rfl, nofun⟩
  cases hgone

end SailRiscv
