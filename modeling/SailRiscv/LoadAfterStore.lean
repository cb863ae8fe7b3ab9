/-
# A load after a store

A translation leaves an entry in the look-aside buffer that gives the same address again, and a
store of main memory leaves its bytes there.  So in every legal state a load of bytes that a
store has just written, at the virtual address of the store, retires and returns these bytes,
even where the store has overwritten the page tables.

* `HitsClean` : the entry that a translation leaves;
* `translateAddr_again` : translating again gives the same address and changes nothing;
* `load_after_store` : the load returns the bytes of the store.
-/
import SailRiscv.TranslationCompletes
import SailRiscv.DataAccess
import SailRiscv.PmpMono

namespace SailRiscv

open Bits Platform

variable [Platform]

/-! ## What a translation keeps -/

/-- The registers that the checks of an access read are the same. -/
structure SameSetting (s s' : State) : Prop where
  x : s'.x = s.x
  mstatus : s'.mstatus = s.mstatus
  curPrivilege : s'.curPrivilege = s.curPrivilege
  satp : s'.satp = s.satp
  pmp : SamePmp s s'

instance : Std.Refl SameSetting := ⟨fun _ => ⟨rfl, rfl, rfl, rfl, rfl, rfl⟩⟩

instance : IsTrans State SameSetting :=
  ⟨fun _ _ _ h h' => ⟨h'.x.trans h.x, h'.mstatus.trans h.mstatus,
    h'.curPrivilege.trans h.curPrivilege, h'.satp.trans h.satp, IsTrans.trans _ _ _ h.pmp h'.pmp⟩⟩

instance : TlbClosed SameSetting where
  devices _ _ := ⟨rfl, rfl, rfl, rfl, rfl, rfl⟩
  store _ _ _ _ _ := ⟨rfl, rfl, rfl, rfl, rfl, rfl⟩
  tlb _ _ _ := ⟨rfl, rfl, rfl, rfl, rfl, rfl⟩

/-! ## The entry that a translation leaves -/

/-- The access hits an entry that grants it, needs no update and gives the address `a`. -/
def HitsClean (s : State) (va : Xlenbits) (ac : AccessType) (q : Privilege) (a : BitVec 64) :
    Prop :=
  ∃ i e, lookupIn s va = some (i, e) ∧ grantsIn s ac q e.pte = .ok true
    ∧ updatePTEBits e.pte ac = none ∧ e.translate (va.setWidth 64) = a

section Entry

variable {s s' : State} {p : SVParams} {va : Xlenbits} {ac : AccessType} {q : Privilege}
  {a x : BitVec 64} {i : Fin 64} {e : TLBEntry} {o : PTWOutput}

/-- Such a translation changes nothing. -/
theorem HitsClean.run (h : HitsClean s va ac q a) (p : SVParams) :
    (translateIn s p va ac q).run s = .ok (.TR_Address a, s) := by
  obtain ⟨i, e, hlook, hgrant, hclean, rfl⟩ := h
  unfold translateIn
  rw [run_translate_hit hlook]
  exact run_hit_clean hgrant hclean

/-- The entry depends on the look-aside buffer, `satp` and `mstatus`. -/
theorem HitsClean.congr (h : HitsClean s va ac q a) (htlb : SameTlb s s')
    (hset : SameSetting s s') : HitsClean s' va ac q a := by
  obtain ⟨i, e, hlook, hgrant, hclean, ha⟩ := h
  refine ⟨i, e, ?_, ?_, hclean, ha⟩
  · unfold lookupIn lookupTLB at hlook ⊢
    rwa [htlb, hset.satp]
  · unfold grantsIn at hgrant ⊢
    rwa [hset.mstatus]

omit [Platform] in
/-- An updated PTE needs no update. -/
theorem updatePTEBits_updated {pte : BitVec 64} (h : updatePTEBits pte ac = some x) :
    updatePTEBits x ac = none := by
  refine updatePTEBits_eq_none.mpr ⟨?_, fun hd => ?_⟩
  · rw [getLsbD_updatePTEBits h, if_pos rfl]
  · rw [getLsbD_updatePTEBits h, if_neg (by decide), if_pos rfl, hd, Bool.or_true]

/-- An updated PTE grants the same accesses. -/
theorem grantsIn_updated {pte : BitVec 64} (h : updatePTEBits pte ac = some x)
    (hgrant : grantsIn s ac q pte = .ok true) : grantsIn s ac q x = .ok true := by
  unfold grantsIn at hgrant ⊢
  rwa [← (sameExceptAD_updatePTEBits h).checkPTEPermission]

/-- The entry that is added for a walk is found. -/
theorem lookupIn_addedEntry (p : SVParams) (x : BitVec 64) (o : PTWOutput) :
    lookupIn (addedEntry s p (satpToAsid s.satp) (va.setWidth 64) x o) va
      = some (tlbHash (va.setWidth 64), mkTLBEntry (satpToAsid s.satp) (va.setWidth 64) o.pAddr x
          o.pteAddr (pagesizeBits + o.level * p.vpnSizeBits) (pagesizeBits_le o p) o.global
          s.mcycle) := by
  have hmatch (a pteAddr age : BitVec 64) {shift : ℕ} (hshift : pagesizeBits ≤ shift)
      (global : Bool) : matchTLBEntry (mkTLBEntry (satpToAsid s.satp) (va.setWidth 64) a x pteAddr
        shift hshift global age) (satpToAsid s.satp) (va.setWidth 64) = true := by
    unfold matchTLBEntry mkTLBEntry
    simp only [BitVec.and_comm, beq_self_eq_true, Bool.or_true, Bool.and_true]
  exact lookupTLB_eq_some.mpr ⟨rfl, Function.update_self _ _ _, hmatch _ _ _ _ _⟩

/-- The entry whose PTE is replaced is found. -/
theorem lookupIn_updatedEntry (hlook : lookupIn s va = some (i, e)) (x : BitVec 64) :
    lookupIn (updatedEntry s i e x) va = some (i, { e with pte := x }) := by
  obtain ⟨rfl, hslot, hmatch⟩ := lookupTLB_eq_some.mp hlook
  exact lookupTLB_eq_some.mpr ⟨rfl, Function.update_self _ _ _, hmatch⟩

/-- A miss adds such an entry, once the PTE of its walk, updated, has been stored. -/
theorem hitsClean_addedEntry (hp : p.Valid) (hwalk : walkIn s p va ac q = .ok (.PTW_Success o))
    (hset : SameSetting s s') (hx : x = o.pte ∨ updatePTEBits o.pte ac = some x)
    (hclean : updatePTEBits x ac = none) :
    HitsClean (addedEntry s' p (satpToAsid s.satp) (va.setWidth 64) x o) va ac q o.pAddr := by
  obtain ⟨l, hl, hleaf⟩ := leafAt_of_ptWalk hwalk
  obtain ⟨hperm, hal, rfl⟩ := ptwLeaf_success hleaf
  have hgrant : grantsIn s ac q x = .ok true := by
    rcases hx with rfl | hx
    · exact hperm
    · exact grantsIn_updated hx hperm
  have hgrant' (t : Fin 64 → Option TLBEntry) : grantsIn { s' with tlb := t } ac q x = .ok true := by
    unfold grantsIn at hgrant ⊢
    rw [← hset.mstatus] at hgrant
    exact hgrant
  have haddr : (mkTLBEntry (satpToAsid s.satp) (va.setWidth 64)
      (leafAddr p (va.setWidth 64) l.pte l.level) x l.pteAddr
      (pagesizeBits + l.level * p.vpnSizeBits) (Nat.le_add_right _ _) l.global s'.mcycle).translate
        (va.setWidth 64) = leafAddr p (va.setWidth 64) l.pte l.level :=
    translate_mkTLBEntry hp hl.level_le hal _ x l.pteAddr s'.mcycle l.global
  rw [← hset.satp] at haddr ⊢
  exact ⟨_, _, lookupIn_addedEntry p x _, hgrant' _, hclean, haddr⟩

/-- **A translation leaves an entry that gives the same address again.** -/
theorem hitsClean_of_translateIn (hp : p.Valid)
    (h : (translateIn s p va ac q).run s = .ok (.TR_Address a, s')) : HitsClean s' va ac q a := by
  unfold translateIn at h
  cases hlook : lookupIn s va with
  | some ie =>
      obtain ⟨i, e⟩ := ie
      rw [run_translate_hit hlook] at h
      obtain ⟨rfl, hgrant, -⟩ := (hit_address_iff (p := p) hlook).mp
        ⟨s', by unfold translateIn; rwa [run_translate_hit hlook]⟩
      cases hx : updatePTEBits e.pte ac with
      | none =>
          rw [run_hit_clean hgrant hx] at h
          cases h
          exact ⟨i, e, hlook, hgrant, hx, rfl⟩
      | some x =>
          cases hd : platEnableDirtyUpdate with
          | false =>
              rw [run_hit_fixed hgrant hx hd] at h
              cases h
          | true =>
              rw [run_hit_of_allowed hgrant, hx] at h
              simp only [hd, Bool.not_true, Bool.false_eq_true, if_false] at h
              obtain ⟨u, s₁, htlb, hthen⟩ := Exec.run_bind_ok.mp h
              cases htlb
              obtain ⟨r, s₂, hwrite, hend⟩ := Exec.run_bind_ok.mp hthen
              have hclean : HitsClean (updatedEntry s i e x) va ac q
                  (e.translate (va.setWidth 64)) :=
                ⟨i, _, lookupIn_updatedEntry hlook x, grantsIn_updated hx hgrant,
                  updatePTEBits_updated hx, rfl⟩
              have hafter : HitsClean s₂ va ac q (e.translate (va.setWidth 64)) :=
                hclean.congr ((keeps_writePte _ _ _).rel hwrite)
                  ((keeps_writePte (R := SameSetting) _ _ _).rel hwrite)
              cases r with
              | MemValue b =>
                  cases hend
                  exact hafter
              | MemException err => cases hend
  | none =>
      rw [run_translate_miss hlook] at h
      cases hwalk : walkIn s p va ac q with
      | error err =>
          rw [run_miss_of_error hwalk] at h
          cases h
      | ok w =>
          cases w with
          | PTW_Failure f =>
              rw [run_miss_of_failure hwalk] at h
              cases h
          | PTW_Success o =>
              cases hx : updatePTEBits o.pte ac with
              | none =>
                  rw [run_miss_clean hp hwalk hx] at h
                  cases h
                  exact hitsClean_addedEntry hp hwalk (Std.Refl.refl s) (Or.inl rfl) hx
              | some x =>
                  cases hd : platEnableDirtyUpdate with
                  | false =>
                      rw [run_miss_fixed hwalk hx hd] at h
                      cases h
                  | true =>
                      rw [run_miss_of_success hwalk, hx] at h
                      simp only [hd, Bool.not_true, Bool.false_eq_true, if_false] at h
                      obtain ⟨r, s₁, hwrite, hthen⟩ := Exec.run_bind_ok.mp h
                      cases r with
                      | MemException err => cases hthen
                      | MemValue b =>
                          simp only at hthen
                          rw [Exec.run_bind_of_ok
                            (run_addToTLB hp (level_le_of_ptWalk hwalk) x)] at hthen
                          cases hthen
                          exact hitsClean_addedEntry hp hwalk ((keeps_writePte _ _ _).rel hwrite)
                            (Or.inr hx) (updatePTEBits_updated hx)

end Entry

/-! ## Translating again -/

/-- The translation of `va` gives `pa` and changes nothing. -/
def Settled (s : State) (va : Xlenbits) (ac : AccessType) (pa : Xlenbits) : Prop :=
  (TranslationOff s ac ∧ pa = va)
    ∨ ∃ p q a, Translates s va ac p q ∧ HitsClean s va ac q a ∧ pa = a.setWidth xlen

section Again

variable {s s' t : State} {va va' pa : Xlenbits} {ac : AccessType}

theorem Settled.run (h : Settled s va ac pa) :
    (translateAddr va ac).run s = .ok (.TR_Address pa, s) := by
  rcases h with ⟨hoff, rfl⟩ | ⟨p, q, a, htr, hclean, rfl⟩
  · exact run_translateAddr_of_off hoff _
  · rw [run_translateAddr_of_translates htr, Exec.run_bind_of_ok (hclean.run p)]
    rfl

/-- The mode of translation depends on the setting. -/
theorem SameSetting.translationMode (h : SameSetting s t) (q : Privilege) :
    translationMode t q = translationMode s q := by
  unfold SailRiscv.translationMode
  rw [h.mstatus, h.satp]

theorem Settled.congr (h : Settled s va ac pa) (htlb : SameTlb s t) (hset : SameSetting s t) :
    Settled t va ac pa := by
  rcases h with ⟨hoff, hpa⟩ | ⟨p, q, a, htr, hclean, hpa⟩
  · obtain ⟨q, m, hq, hm, hp⟩ := hoff
    refine Or.inl ⟨⟨q, m, ?_, ?_, hp⟩, hpa⟩
    · rwa [hset.mstatus, hset.curPrivilege]
    · rwa [hset.translationMode]
  · obtain ⟨hq, m, hm, hp, hvalid⟩ := htr
    refine Or.inr ⟨p, q, a, ⟨?_, m, ?_, hp, hvalid⟩, hclean.congr htlb hset, hpa⟩
    · rwa [hset.mstatus, hset.curPrivilege]
    · rwa [hset.translationMode]

/-- **A translation settles the address.** -/
theorem settled_of_translateAddr (h : (translateAddr va ac).run s = .ok (.TR_Address pa, s')) :
    Settled s' va ac pa := by
  have hset : SameSetting s s' := (keeps_translateAddr va ac).rel h
  rcases translateAddr_cases h with ⟨rfl, -, ⟨hoff, ha⟩ | ⟨f, hf⟩⟩ | ⟨p, q, r, htr, hin, hr⟩
  · cases ha
    exact Or.inl ⟨hoff, rfl⟩
  · cases hf
  · cases r with
    | TR_Failure f => cases hr
    | TR_Address a =>
        cases hr
        obtain ⟨hq, m, hm, hp, hvalid⟩ := htr
        refine Or.inr ⟨p, q, a, ⟨?_, m, ?_, hp, hvalid⟩, ?_, rfl⟩
        · rwa [hset.mstatus, hset.curPrivilege]
        · rwa [hset.translationMode]
        · exact hitsClean_of_translateIn (Translates.valid ⟨hq, m, hm, hp, hvalid⟩) hin

/-- **Translating again** gives the same address and changes nothing. -/
theorem translateAddr_again (h : (translateAddr va ac).run s = .ok (.TR_Address pa, s')) :
    (translateAddr va ac).run s' = .ok (.TR_Address pa, s') :=
  (settled_of_translateAddr h).run

/-- What is settled for a store is settled for a load. -/
theorem Settled.read (h : Settled s va .Write pa) (htlb : TlbLegal s.tlb) :
    Settled s va .Read pa := by
  rcases h with ⟨hoff, hpa⟩ | ⟨p, q, a, htr, ⟨i, e, hlook, hgrant, hclean, ha⟩, hpa⟩
  · obtain ⟨q, m, hq, hm, hp⟩ := hoff
    exact Or.inl ⟨⟨q, m, (effectivePrivilege_write _ _).symm.trans hq, hm, hp⟩, hpa⟩
  · obtain ⟨-, hslot, -⟩ := lookupTLB_eq_some.mp hlook
    obtain ⟨hA, hvalid⟩ := htlb _ _ hslot
    exact Or.inr ⟨p, q, a, htr.read, ⟨i, e, hlook, checkPTEPermission_read_of_write hvalid hgrant,
      updatePTEBits_eq_none.mpr ⟨hA, nofun⟩, ha⟩, hpa⟩

/-- What is settled for an address is settled for its page. -/
theorem Settled.samePage (h : Settled s va ac pa) (hpage : SamePage va va') :
    Settled s va' ac (pa + (va' - va)) := by
  have hsettled : ∃ pa', Settled s va' ac pa' := by
    rcases h with ⟨hoff, -⟩ | ⟨p, q, a, htr, ⟨i, e, hlook, hgrant, hclean, -⟩, -⟩
    · exact ⟨va', Or.inl ⟨hoff, rfl⟩⟩
    · refine ⟨_, Or.inr ⟨p, q, _, htr.samePage hpage, ⟨i, e, ?_, hgrant, hclean, rfl⟩, rfl⟩⟩
      exact (lookupTLB_samePage (samePage_setWidth hpage)).trans hlook
  obtain ⟨pa', h'⟩ := hsettled
  have hsame := translateAddr_samePage hpage ⟨s, h.run⟩
  rw [← TranslatesTo.unique ⟨s, h'.run⟩ hsame] at h'
  exact h'

/-- A translation keeps the offset in the page. -/
theorem Settled.offset (h : Settled s va ac pa) : pa.toNat % 2 ^ 12 = va.toNat % 2 ^ 12 := by
  have hx := xlen_ge
  apply Nat.eq_of_testBit_eq
  intro i
  rw [Nat.testBit_mod_two_pow, Nat.testBit_mod_two_pow, BitVec.testBit_toNat, BitVec.testBit_toNat]
  by_cases hi : i < 12
  · congr 1
    rcases h with ⟨-, rfl⟩ | ⟨p, q, a, -, ⟨j, e, -, -, -, rfl⟩, rfl⟩
    · rfl
    · have hself := translate_samePage_entry (samePage_refl (va.setWidth 64)) e
      rw [hself, BitVec.getLsbD_setWidth, getLsbD_withOffset _ _ i (by omega), if_pos hi,
        BitVec.getLsbD_setWidth]
      simp [show i < xlen by omega, show i < 64 by omega]
  · simp [hi]

end Again

/-! ## Main memory -/

section Memory

variable {s s' : State} {pa pa' : Xlenbits} {n m : ℕ} {v : BitVec (8 * n)} {aq rl : Bool}
  {q : Privilege}

/-- What a store of main memory has been allowed to do. -/
theorem memWriteValue_ram (hram : withinMmioWritable pa n = false)
    (h : (memWriteValue pa n v aq rl false).run s = .ok (.MemValue true, s')) :
    ∃ q, effectivePrivilege .Write s.mstatus s.curPrivilege = .ok q
      ∧ physAccessCheck s .Write q pa n = .ok none ∧ withinPhysMem pa n = true
      ∧ s' = { s with mem := Bytes.write s.mem pa.toNat n v } := by
  unfold memWriteValue memWriteValuePrivMeta at h
  obtain ⟨q, s₁, hpriv, hthen⟩ := Exec.run_bind_ok.mp h
  obtain ⟨hq, rfl⟩ := Exec.run_checks_ok.mp hpriv
  split at hthen
  · cases hthen
  unfold checkedMemWrite at hthen
  obtain ⟨c, s₂, hcheck, hstore⟩ := Exec.run_bind_ok.mp hthen
  obtain ⟨hc, rfl⟩ := Exec.run_checks_ok.mp hcheck
  cases c with
  | some e => cases hstore
  | none =>
      simp only [hram, Bool.false_eq_true, if_false] at hstore
      split at hstore
      · rename_i hmem
        obtain ⟨u, s₃, hkind, hwrite⟩ := Exec.run_bind_ok.mp hstore
        obtain ⟨-, rfl⟩ := Exec.run_checks_ok.mp hkind
        cases hwrite
        exact ⟨q, hq, hc, hmem, rfl⟩
      · cases hstore

/-- A load of main memory that is allowed. -/
theorem run_memRead_ram (hq : effectivePrivilege .Read s.mstatus s.curPrivilege = .ok q)
    (hcheck : physAccessCheck s .Read q pa n = .ok none)
    (hram : withinMmioReadable pa n = false) (hmem : withinPhysMem pa n = true) :
    (memRead .Read pa n false false false).run s
      = .ok (.MemValue (Bytes.read s.mem pa.toNat n), s) := by
  refine Exec.run_checks_ok.mpr ⟨?_, rfl⟩
  unfold memReadPriv checkedMemRead
  rw [hq]
  simp only [bind, Except.bind, Bool.or_self, Bool.false_and, Bool.not_false, Bool.and_false,
    Bool.false_eq_true, if_false, hcheck, hram, hmem, if_true]
  rfl

/-- The PMP allows every access inside one that it allows. -/
theorem physAccessCheck_within (hlt : n < 2 ^ xlen) (hm : 0 < m)
    (hsub : accessBytes pa' m ⊆ accessBytes pa n) {t : AccessType}
    (h : physAccessCheck s t q pa n = .ok none) : physAccessCheck s t q pa' m = .ok none := by
  unfold physAccessCheck at h ⊢
  split_ifs at h ⊢ with hcount
  · rfl
  · unfold pmpCheck at h ⊢
    exact pmpCheckFrom_subAccess hlt hm hsub t q h

omit [Platform] in
/-- A segment contains every access inside one that it contains. -/
theorem withinSegment_within {w : ℕ} [Platform] {base size a a' : Xlenbits} {k : ℕ}
    (ha : a.toNat ≤ a'.toNat ∧ a'.toNat + k ≤ a.toNat + w)
    (h : withinSegment base size a w = true) : withinSegment base size a' k = true := by
  unfold withinSegment at h ⊢
  rw [decide_eq_true_iff] at h ⊢
  omega

/-- Main memory contains every access inside one that it contains. -/
theorem withinPhysMem_within (ha : pa.toNat ≤ pa'.toNat ∧ pa'.toNat + m ≤ pa.toNat + n)
    (h : withinPhysMem pa n = true) : withinPhysMem pa' m = true := by
  unfold withinPhysMem at h ⊢
  rw [Bool.or_eq_true] at h ⊢
  exact h.imp (withinSegment_within ha) (withinSegment_within ha)

end Memory

/-! ## The load -/

section Load

variable {s s' s₁ : State} {imm imm' : BitVec 12} {rs1 rs2 rs1' rd : Regidx}
  {width width' : WordWidth} {aq rl isUnsigned : Bool} {pa : Xlenbits} {k : ℕ}

/-- What a store to main memory that retires has done. -/
theorem executeStore_ram
    (h : (executeStore imm rs2 rs1 width aq rl).run s = .ok (.RETIRE_SUCCESS, s'))
    (htr : (translateAddr (s.X rs1 + imm.signExtend xlen) .Write).run s
      = .ok (.TR_Address pa, s₁)) (hram : withinMmioWritable pa (sizeBytes width) = false) :
    sizeBytes width ≤ xlenBytes ∧ withinPhysMem pa (sizeBytes width) = true
      ∧ (∃ q, effectivePrivilege .Write s.mstatus s.curPrivilege = .ok q
        ∧ physAccessCheck s .Write q pa (sizeBytes width) = .ok none)
      ∧ s' = { s₁ with
        cacheTrace := s₁.cacheTrace ++ [.dcWrite pa]
        mem := Bytes.write s₁.mem pa.toNat (sizeBytes width)
          ((s.X rs2).extractLsb' 0 (8 * sizeBytes width)) } := by
  have hset : SameSetting s s₁ := (keeps_translateAddr _ _).rel htr
  have hal : sizeBytes width ≤ xlenBytes
      ∧ checkMisaligned (s.X rs1 + imm.signExtend xlen) width = false := by
    unfold executeStore at h
    obtain ⟨u, s₀, hassert, hthen⟩ := Exec.run_bind_ok.mp h
    obtain ⟨hwidth, rfl⟩ := run_assert_ok.mp hassert
    refine ⟨of_decide_eq_true hwidth, ?_⟩
    rw [Exec.run_bind_of_ok (show (extDataGetAddr rs1 (imm.signExtend xlen)).run s₀
      = .ok (s₀.X rs1 + imm.signExtend xlen, s₀) from rfl)] at hthen
    by_contra hmis
    rw [if_pos (by simpa using hmis)] at hthen
    unfold memFault at hthen
    obtain ⟨u, s₂, -, hend⟩ := Exec.run_bind_ok.mp hthen
    cases hend
  obtain ⟨hwidth, hal⟩ := hal
  rcases executeStore_cases hal h with ⟨-, pa', s₂, htr', hfrom⟩ | ⟨hfail, -⟩
  · rw [htr] at htr'
    cases htr'
    simp only [BaseInst.AccessesFrom] at hfrom
    obtain ⟨u, s₂, hdc, hthen⟩ := Exec.run_bind_ok.mp hfrom
    cases hdc
    rw [Exec.run_bind_of_ok (show (rX rs2).run _ = .ok (_, _) from rfl)] at hthen
    obtain ⟨q, hq, hcheck, hmem, rfl⟩ := memWriteValue_ram hram hthen
    have hX : s₁.X rs2 = s.X rs2 := by
      unfold State.X
      rw [hset.x]
    refine ⟨hwidth, hmem, ⟨q, ?_, ?_⟩, ?_⟩
    · rw [← hset.mstatus, ← hset.curPrivilege]
      exact hq
    · rw [← physAccessCheck_congr hset.pmp]
      exact hcheck
    · rw [← hX]
      rfl
  · cases hfail

/-- **The load of a store.** -/
theorem run_executeLoad_of_store (hlegal : ChecksLegal s)
    (h : (executeStore imm rs2 rs1 width aq rl).run s = .ok (.RETIRE_SUCCESS, s'))
    (htr : (translateAddr (s.X rs1 + imm.signExtend xlen) .Write).run s
      = .ok (.TR_Address pa, s₁)) (hram : withinMmioWritable pa (sizeBytes width) = false)
    (haddr : s'.X rs1' + imm'.signExtend xlen = byteAddr (s.X rs1 + imm.signExtend xlen) k)
    (hpage : (s.X rs1 + imm.signExtend xlen).toNat % 2 ^ 12 + k < 2 ^ 12)
    (hin : k + sizeBytes width' ≤ sizeBytes width)
    (hal : checkMisaligned (s'.X rs1' + imm'.signExtend xlen) width' = false)
    (hram' : withinMmioReadable (byteAddr pa k) (sizeBytes width') = false) :
    (executeLoad imm' rs1' rd isUnsigned width' false false).run s'
      = .ok (.RETIRE_SUCCESS, State.setX { s' with
          cacheTrace := s'.cacheTrace ++ [.dcRead (byteAddr pa k)] } rd
        (extendValue isUnsigned ((s.X rs2).extractLsb' (8 * k) (8 * sizeBytes width')))) := by
  have hx := xlen_ge
  obtain ⟨hpos, -⟩ := sizeBytes_bounds width'
  obtain ⟨-, hle⟩ := sizeBytes_bounds width
  obtain ⟨hwidth, hmem, ⟨q, hq, hcheck⟩, hs'⟩ := executeStore_ram h htr hram
  have hset : SameSetting s s₁ := (keeps_translateAddr _ _).rel htr
  have hset' : SameSetting s₁ s' := by
    rw [hs']
    exact ⟨rfl, rfl, rfl, rfl, rfl, rfl⟩
  have htlb : SameTlb s₁ s' := by
    rw [hs']
    rfl
  -- the address is settled by the translation of the store
  have hlegal₁ : ChecksLegal s₁ := (keeps_translateAddr (R := ChecksStep) _ _).rel htr hlegal
  have hsettled := (settled_of_translateAddr htr).read hlegal₁.tlb
  have hoffset := hsettled.offset
  have hload : Settled s' (byteAddr (s.X rs1 + imm.signExtend xlen) k) .Read (byteAddr pa k) := by
    have hbyte := (hsettled.congr htlb hset').samePage (samePage_byteAddr hpage)
    have hpa : pa + (byteAddr (s.X rs1 + imm.signExtend xlen) k
        - (s.X rs1 + imm.signExtend xlen)) = byteAddr pa k := by
      unfold byteAddr
      ring
    rwa [hpa] at hbyte
  -- the bytes of the load are among those of the store
  have hbyte : (byteAddr pa k).toNat = pa.toNat + k := by
    have hlt := pa.isLt
    obtain ⟨n, hn, -⟩ := exists_pages
    unfold byteAddr
    rw [BitVec.toNat_add, BitVec.toNat_ofNat, Nat.add_mod_mod, Nat.mod_eq_of_lt (by omega)]
  have hbounds : pa.toNat ≤ (byteAddr pa k).toNat
      ∧ (byteAddr pa k).toNat + sizeBytes width' ≤ pa.toNat + sizeBytes width := by omega
  have hpow : 2 ^ 32 ≤ 2 ^ xlen := Nat.pow_le_pow_right (by omega) hx
  have hread : (memRead .Read (byteAddr pa k) (sizeBytes width') false false false).run s'
      = .ok (.MemValue ((s.X rs2).extractLsb' (8 * k) (8 * sizeBytes width')), s') := by
    have hpmp : SamePmp s s' := IsTrans.trans _ _ _ hset.pmp hset'.pmp
    have hallowed : physAccessCheck s' .Read q (byteAddr pa k) (sizeBytes width') = .ok none := by
      rw [physAccessCheck_congr hpmp]
      refine physAccessCheck_within (by omega) (by omega) ?_
        (physAccessCheck_read_of_write hlegal.pmp hlegal.readable (by omega) (by omega) hcheck)
      unfold accessBytes
      exact Set.Ico_subset_Ico hbounds.1 hbounds.2
    have hpriv : effectivePrivilege .Read s'.mstatus s'.curPrivilege = .ok q := by
      rw [hset'.mstatus, hset'.curPrivilege, hset.mstatus, hset.curPrivilege,
        ← effectivePrivilege_write]
      exact hq
    rw [run_memRead_ram hpriv hallowed hram' (withinPhysMem_within hbounds hmem), hbyte, hs',
      Bytes.read_write_within _ _ _ hin]
    congr 2
    apply congrArg MemoryOpResult.MemValue
    apply BitVec.eq_of_getLsbD_eq
    intro i hi
    rw [BitVec.getLsbD_extractLsb', BitVec.getLsbD_extractLsb', BitVec.getLsbD_extractLsb']
    simp [hi, show 8 * k + i < 8 * sizeBytes width by omega]
  unfold executeLoad
  have hassert : (assert (decide (sizeBytes width' ≤ xlenBytes)) "").run s' = .ok ((), s') :=
    run_assert_ok.mpr ⟨decide_eq_true (by omega), rfl⟩
  rw [Exec.run_bind_of_ok hassert, Exec.run_bind_of_ok
    (show (extDataGetAddr rs1' (imm'.signExtend xlen)).run s'
      = .ok (s'.X rs1' + imm'.signExtend xlen, s') from rfl), hal, if_neg (by simp), haddr,
    Exec.run_bind_of_ok hload.run]
  simp only [onAddress]
  rw [Exec.run_bind_of_ok hread]
  rfl

/-- **A load reads what a store has written.**  In every reachable state, where a store to main
memory retires, a load of bytes of the store at their virtual address retires in the resulting
state, puts these bytes into its register and changes nothing else. -/
theorem load_after_store [SoftFloat] {entry : Xlenbits} {s₀ : State}
    {path : List (State × Turn × State)} (hboot : Boots entry s₀) (hrun : Trace Turns s₀ path s)
    (hstore : (BaseInst.STORE imm rs2 rs1 width aq rl).execute.run s = .ok (.RETIRE_SUCCESS, s'))
    (htr : (translateAddr (s.X rs1 + imm.signExtend xlen) .Write).run s
      = .ok (.TR_Address pa, s₁)) (hram : withinMmioWritable pa (sizeBytes width) = false)
    (haddr : s'.X rs1' + imm'.signExtend xlen = byteAddr (s.X rs1 + imm.signExtend xlen) k)
    (hpage : (s.X rs1 + imm.signExtend xlen).toNat % 2 ^ 12 + k < 2 ^ 12)
    (hin : k + sizeBytes width' ≤ sizeBytes width)
    (hal : checkMisaligned (s'.X rs1' + imm'.signExtend xlen) width' = false)
    (hram' : withinMmioReadable (byteAddr pa k) (sizeBytes width') = false) :
    (BaseInst.LOAD imm' rs1' rd isUnsigned width' false false).execute.run s'
      = .ok (.RETIRE_SUCCESS, State.setX { s' with
          cacheTrace := s'.cacheTrace ++ [.dcRead (byteAddr pa k)] } rd
        (extendValue isUnsigned ((s.X rs2).extractLsb' (8 * k) (8 * sizeBytes width')))) :=
  run_executeLoad_of_store (checksLegal_of_trace hboot hrun) hstore htr hram haddr hpage hin hal
    hram'

end Load

/-- The run of `auipc x1, 0` from the start at `0x80000000`. -/
def runAuipc [SoftFloat] : M Bool := do
  initModel
  Exec.update (fun s => { s with pc := 0x80000000#_ })
  step

/-- The memory that holds `auipc x1, 0` at `0x80000000`. -/
def auipcMem : ℕ → BitVec 8 := Bytes.write (fun _ => 0#8) 0x80000000 4 0x00000097#32

omit [Platform] in
/-- After `auipc x1, 0` and `sw x1, 0(x1)` the load `lhu x2, 2(x1)` gives the upper half. -/
theorem load_after_store_auipc :
    letI := rv64Pmp 16 (by decide)
    letI : SoftFloat := default
    ∃ s₀ s s' s'' : State, Boots 0x80000000#_ s₀ ∧ Turns .step s₀ s
      ∧ (BaseInst.STORE 0#12 1#5 1#5 .WORD false false).execute.run s = .ok (.RETIRE_SUCCESS, s')
      ∧ (BaseInst.LOAD 2#12 1#5 2#5 true .HALF false false).execute.run s'
        = .ok (.RETIRE_SUCCESS, s'') ∧ s''.X 2#5 = 0x8000#_ := by
  let := rv64Pmp 16 (by decide)
  let : SoftFloat := default
  let store : BaseInst := .STORE 0#12 1#5 1#5 .WORD false false
  have hbase : runAuipc.passes (State.zero auipcMem) (fun _ s => s.X 1#5 == 0x80000000#_) = true :=
    by decide +kernel
  have htrans : (do let _ ← runAuipc; translateAddr 0x80000000#_ .Write : M _).passes
      (State.zero auipcMem) (fun r _ => r == .TR_Address 0x80000000#_) = true := by decide +kernel
  have hstore : (do let _ ← runAuipc; store.execute : M _).passes (State.zero auipcMem)
      (fun r s => r == .RETIRE_SUCCESS && s.X 1#5 == 0x80000000#_) = true := by decide +kernel
  obtain ⟨b, s, hauipc, hx⟩ := Exec.passes_iff.mp hbase
  replace hx : s.X 1#5 = 0x80000000#_ := beq_iff_eq.mp hx
  -- the translation and the store start in the state after the first step
  obtain ⟨r, s₁, htr, hr⟩ := Exec.passes_iff.mp htrans
  cases beq_iff_eq.mp hr
  rw [Exec.run_bind_of_ok hauipc] at htr
  obtain ⟨ret, s', hst, hret⟩ := Exec.passes_iff.mp hstore
  obtain ⟨hret, hx'⟩ := Bool.and_eq_true_iff.mp hret
  cases beq_iff_eq.mp hret
  replace hx' : s'.X 1#5 = 0x80000000#_ := beq_iff_eq.mp hx'
  rw [Exec.run_bind_of_ok hauipc] at hst
  obtain ⟨u, s₂, hinit, hthen⟩ := Exec.run_bind_ok.mp hauipc
  obtain ⟨u, s₀, hpc, hstep⟩ := Exec.run_bind_ok.mp hthen
  cases hpc
  have hboot : Boots 0x80000000#_ { s₂ with pc := 0x80000000#_ } := ⟨_, s₂, hinit, rfl⟩
  have hturn : Turns .step { s₂ with pc := 0x80000000#_ } s := ⟨b, hstep⟩
  have hva : s.X 1#5 + (0#12).signExtend xlen = 0x80000000#_ := by
    rw [hx]
    decide
  have hload : (BaseInst.LOAD 2#12 1#5 2#5 true .HALF false false).execute.run s'
      = .ok (.RETIRE_SUCCESS, State.setX { s' with
          cacheTrace := s'.cacheTrace ++ [.dcRead (byteAddr 0x80000000#_ 2)] } 2#5
        (extendValue true ((s.X 1#5).extractLsb' (8 * 2) (8 * sizeBytes .HALF)))) :=
    load_after_store hboot (.cons .nil hturn) hst (by rw [hva]; exact htr) (by decide)
      (by rw [hva, hx']; decide) (by rw [hva]; decide) (by decide) (by rw [hx']; decide)
      (by decide)
  refine ⟨_, s, s', _, hboot, hturn, hst, hload, ?_⟩
  rw [State.X_setX, if_pos (by decide), hx]
  decide

end SailRiscv
