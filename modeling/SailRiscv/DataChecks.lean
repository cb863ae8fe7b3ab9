/-
# Loads and stores of the same address

An access to data is checked twice, by the translation of its address and by the PMP.  In a
legal state both checks complete, and both admit a load where they admit a store.

* `DataLegal` : what the checks rely on;
* `translateAddr_ok` : the translation of a load completes;
* `translateAddr_read_of_write` : where a store is translated, a load is, to the same address;
* `physAccessCheck_read_of_write` : where the PMP admits a store, it admits a load.
-/
import SailRiscv.Aliasing

namespace SailRiscv

open Bits Platform

variable [Platform]

/-! ## Legal states -/

/-- What the checks of an access to data rely on: `mstatus` names a privilege and `satp` a mode,
no PMP entry is for writes only, and the look-aside buffer holds valid PTEs with A set. -/
structure DataLegal (s : State) : Prop where
  priv : ∃ q, effectivePrivilege .Read s.mstatus s.curPrivilege = .ok q
  mode : ∀ q, effectivePrivilege .Read s.mstatus s.curPrivilege = .ok q →
    ∃ m, translationMode s q = .ok m
  pmp : PmpLegal s
  readable : ∀ i, Pmpcfg.W.get (s.pmpcfg i) = 1#1 → Pmpcfg.R.get (s.pmpcfg i) = 1#1
  tlb : ∀ i e, s.tlb i = some e →
    e.pte.getLsbD 6 = true ∧ pteIsInvalid (pteFlags e.pte) = false

/-- Loads and stores have the same effective privilege. -/
theorem effectivePrivilege_write (m : Xlenbits) (q : Privilege) :
    effectivePrivilege .Write m q = effectivePrivilege .Read m q := by
  unfold effectivePrivilege
  congr 1
  simp

/-! ## The PMP -/

section Pmp

variable {s : State} {n : ℕ}

/-- The check completes. -/
theorem physAccessCheck_ok (h : PmpLegal s) (hn : 0 < n) (hlt : n < 2 ^ xlen) (t : AccessType)
    (q : Privilege) (a : Xlenbits) :
    physAccessCheck s t q a n = .ok none
      ∨ physAccessCheck s t q a n = .ok (some (accessToFault t)) := by
  unfold physAccessCheck
  split
  · exact Or.inl rfl
  · rw [pmpCheck_eq h a hn hlt]
    unfold pmpRuleBounded pmpVerdict
    split
    · split
      · exact Or.inl rfl
      · exact Or.inr rfl
    · split
      · exact Or.inl rfl
      · exact Or.inr rfl

omit [Platform] in
/-- An entry that permits a store permits a load, unless it is for writes only. -/
theorem Permits.read_of_write {cfg : BitVec 8} {q : Privilege}
    (hcfg : Pmpcfg.W.get cfg = 1#1 → Pmpcfg.R.get cfg = 1#1) (h : Permits cfg .Write q) :
    Permits cfg .Read q := by
  rcases h with h | h
  · exact Or.inl h
  · refine Or.inr ?_
    unfold pmpCheckRWX at h ⊢
    exact beq_iff_eq.mpr (hcfg (beq_iff_eq.mp h))

open Classical in
/-- **Where the PMP admits a store, it admits a load.** -/
theorem physAccessCheck_read_of_write (h : PmpLegal s)
    (hcfg : ∀ i, Pmpcfg.W.get (s.pmpcfg i) = 1#1 → Pmpcfg.R.get (s.pmpcfg i) = 1#1)
    (hn : 0 < n) (hlt : n < 2 ^ xlen) {q : Privilege} {a : Xlenbits}
    (hw : physAccessCheck s .Write q a n = .ok none) :
    physAccessCheck s .Read q a n = .ok none := by
  unfold physAccessCheck at hw ⊢
  split_ifs at hw ⊢ with hcount
  · rfl
  · rw [pmpCheck_eq h a hn hlt] at hw ⊢
    unfold pmpRuleBounded at hw ⊢
    rcases hi : lowestEntry (fun i => Meets s a n i ∧ ¬ WholeSpace s i) with _ | i
    · rw [hi] at hw
      unfold pmpVerdict at hw ⊢
      simp only at hw ⊢
      split_ifs at hw ⊢ with hq
      · rfl
      · cases hw
    · rw [hi, pmpVerdict_some] at hw
      rw [pmpVerdict_some]
      split_ifs at hw with hperm
      · rw [if_pos ⟨hperm.1, hperm.2.read_of_write (hcfg i)⟩]
      · cases hw

end Pmp

/-! ## The walk -/

section Walk

variable {s : State} {p : SVParams} {va base : BitVec 64} {ac : AccessType} {q : Privilege}
  {mxr doSum : Bool} {level : ℕ} {global : Bool} {o : PTWOutput}

omit [Platform] in
/-- A valid page that admits a store admits a load. -/
theorem checkPTEPermission_read_of_write {pte : BitVec 64}
    (hvalid : pteIsInvalid (pteFlags pte) = false)
    (h : checkPTEPermission .Write q mxr doSum (pteFlags pte) = .ok true) :
    checkPTEPermission .Read q mxr doSum (pteFlags pte) = .ok true := by
  have hq : q ≠ .Machine := by
    rintro rfl
    cases h
  obtain ⟨b, hb, hadmits⟩ := checkPTEPermission_eq .Write hq mxr doSum pte
  obtain ⟨b', hb', hadmits'⟩ := checkPTEPermission_eq .Read hq mxr doSum pte
  have hwrite : RefAdmits .Write q mxr doSum pte :=
    hadmits.mp (Except.ok.inj (hb.symm.trans h))
  have hread : RefAdmits .Read q mxr doSum pte := by
    refine ⟨hwrite.user, fun hs hu => ⟨(hwrite.supervisor hs hu).1, by simp⟩, fun _ => Or.inl ?_,
      nofun, nofun⟩
    exact ((pteIsInvalid_iff pte).mp hvalid).2 (hwrite.write trivial)
  rw [hb', hadmits'.mpr hread]

omit [Platform] in
/-- The leaf of a walk completes. -/
theorem ptwLeaf_ok (hq : q ≠ .Machine) (pte pteAddr : BitVec 64) :
    ∃ r, ptwLeaf p va ac q mxr doSum pte pteAddr level global = .ok r := by
  obtain ⟨b, hb, -⟩ := checkPTEPermission_eq ac hq mxr doSum pte
  unfold ptwLeaf
  simp only [hb, bind, Except.bind]
  split_ifs <;> exact ⟨_, rfl⟩

/-- **A walk completes.** -/
theorem ptWalk_ok (h : PmpLegal s) (hp : p.Valid) (hq : q ≠ .Machine)
    (hlsb : pagesizeBits + level * p.vpnSizeBits < xlen) :
    ∃ r, ptWalk s p va ac q mxr doSum base level global = .ok r := by
  induction level generalizing base global with
  | zero =>
      obtain ⟨r, hread⟩ := readPTE_ok h hp (pteSlot p va base 0)
      rcases r with _ | pte
      · exact ⟨_, ptWalk_of_unreadable hlsb hread⟩
      · rcases hinv : pteIsInvalid (pteFlags pte) with _ | _
        · rw [ptWalk_step hlsb hread hinv]
          split
          · exact ⟨_, rfl⟩
          · exact ptwLeaf_ok hq _ _
        · exact ⟨_, ptWalk_of_invalid hlsb hread hinv⟩
  | succ level ih =>
      obtain ⟨r, hread⟩ := readPTE_ok h hp (pteSlot p va base (level + 1))
      rcases r with _ | pte
      · exact ⟨_, ptWalk_of_unreadable hlsb hread⟩
      · rcases hinv : pteIsInvalid (pteFlags pte) with _ | _
        · rw [ptWalk_step hlsb hread hinv]
          split
          · exact ih (by rw [Nat.add_mul] at hlsb; omega)
          · exact ptwLeaf_ok hq _ _
        · exact ⟨_, ptWalk_of_invalid hlsb hread hinv⟩

/-- The leaf of a walk is valid. -/
theorem LeafAt.valid {l : Leaf} (h : LeafAt s p va base level global l) :
    pteIsInvalid (pteFlags l.pte) = false := by
  induction h with
  | leaf _ _ hvalid _ => exact hvalid
  | next _ _ _ _ _ ih => exact ih

/-- Where the walk of a store succeeds, that of a load does, with the same result. -/
theorem ptWalk_read_of_write
    (h : ptWalk s p va .Write q mxr doSum base level global = .ok (.PTW_Success o)) :
    ptWalk s p va .Read q mxr doSum base level global = .ok (.PTW_Success o) := by
  obtain ⟨l, hl, hleaf⟩ := leafAt_of_ptWalk h
  obtain ⟨hperm, halign, rfl⟩ := ptwLeaf_success hleaf
  rw [hl.ptWalk]
  exact ptwLeaf_of_allowed (checkPTEPermission_read_of_write hl.valid hperm) halign

end Walk

/-! ## The write-back -/

section WriteBack

variable {s : State} {p : SVParams}

/-- A store completes in the state `s`, and whether it succeeds does not depend on the value. -/
def Decided {α : Type} (m : α → M (MemoryOpResult Bool)) (s : State) : Prop :=
  (∀ x, ∃ e s', (m x).run s = .ok (.MemException e, s'))
    ∨ ∀ x, ∃ b s', (m x).run s = .ok (.MemValue b, s')

theorem decided_ite {α : Type} {m m' : α → M (MemoryOpResult Bool)} (c : Prop) [Decidable c]
    (h : Decided m s) (h' : Decided m' s) : Decided (fun x => if c then m x else m' x) s := by
  by_cases hc : c
  · simp only [if_pos hc]
    exact h
  · simp only [if_neg hc]
    exact h'

theorem decided_fault {α : Type} (e : ExceptionType) :
    Decided (fun _ : α => (pure (.MemException e) : M (MemoryOpResult Bool))) s :=
  Or.inl (fun _ => ⟨e, s, rfl⟩)

/-- A store to a register of the CLINT. -/
theorem decided_clintStored {α : Type} (f : α → State → State) :
    Decided (fun x => (do
      Exec.update (f x)
      clintDispatch
      pure (.MemValue true) : M (MemoryOpResult Bool))) s :=
  Or.inr (fun _ => ⟨_, _, rfl⟩)

theorem decided_clintStore (a : Xlenbits) (n : ℕ) : Decided (clintStore a n) s := by
  unfold clintStore
  repeat' first
    | exact decided_clintStored _
    | exact decided_fault _
    | refine decided_ite _ ?_ ?_

theorem decided_mmioWrite (a : Xlenbits) (n : ℕ) : Decided (mmioWrite a n) s := by
  unfold mmioWrite
  refine decided_ite _ (decided_clintStore a n) (decided_ite _ ?_ (decided_fault _))
  exact Or.inr (fun _ => ⟨_, _, rfl⟩)

/-- **A write-back completes, and whether it succeeds does not depend on the PTE.** -/
theorem decided_writePte (h : PmpLegal s) (hp : p.Valid) (a : Xlenbits) :
    Decided (writePte p a) s := by
  have hx := xlen_ge
  have hpow : 2 ^ 32 ≤ 2 ^ xlen := Nat.pow_le_pow_right (by omega) hx
  have hsize := hp.pteSize_eq
  have hcheck (c : Option ExceptionType) :
      physAccessCheck s .Write .Supervisor a p.pteSize = .ok c →
      (Exec.checks (fun s : State => physAccessCheck s .Write .Supervisor a p.pteSize)).run s
        = .ok (c, s) := fun hc => Exec.run_checks_ok.mpr ⟨hc, rfl⟩
  have hfault (e : ExceptionType) (x : BitVec 64)
      (hc : physAccessCheck s .Write .Supervisor a p.pteSize = .ok (some e)) :
      (writePte p a x).run s = .ok (.MemException e, s) := by
    unfold writePte memWriteValuePriv memWriteValuePrivMeta checkedMemWrite
    rw [if_neg (by simp)]
    exact Exec.run_bind_of_ok (hcheck _ hc)
  have hpass (x : BitVec 64)
      (hc : physAccessCheck s .Write .Supervisor a p.pteSize = .ok none) :
      (writePte p a x).run s
        = (if withinMmioWritable a p.pteSize then mmioWrite a p.pteSize (x.setWidth _)
            else if withinPhysMem a p.pteSize then do
              Exec.checks (fun _ => writeKindOfFlags false false false)
              physMemWrite a p.pteSize (x.setWidth _)
            else pure (.MemException .E_SAMO_Access_Fault) : M (MemoryOpResult Bool)).run s := by
    unfold writePte memWriteValuePriv memWriteValuePrivMeta checkedMemWrite
    rw [if_neg (by simp)]
    exact Exec.run_bind_of_ok (hcheck _ hc)
  have hstore : Decided (fun x : BitVec 64 =>
      (if withinMmioWritable a p.pteSize then mmioWrite a p.pteSize (x.setWidth _)
        else if withinPhysMem a p.pteSize then do
          Exec.checks (fun _ => writeKindOfFlags false false false)
          physMemWrite a p.pteSize (x.setWidth _)
        else pure (.MemException .E_SAMO_Access_Fault) : M (MemoryOpResult Bool))) s := by
    refine decided_ite _ ?_ (decided_ite _ (Or.inr (fun _ => ⟨_, _, rfl⟩)) (decided_fault _))
    exact (decided_mmioWrite a p.pteSize).imp (fun hm x => hm _) (fun hm x => hm _)
  rcases physAccessCheck_ok h (by omega : 0 < p.pteSize) (by omega) .Write .Supervisor a with
    hc | hc
  · refine hstore.imp (fun hm x => ?_) (fun hm x => ?_)
    · rw [hpass x hc]
      exact hm x
    · rw [hpass x hc]
      exact hm x
  · exact Or.inl (fun x => ⟨_, _, hfault _ x hc⟩)

end WriteBack

/-! ## The translation -/

section Translation

variable {s : State} {p : SVParams} {va : Xlenbits} {q : Privilege}

/-- Machine mode does not translate. -/
theorem Translates.ne_machine {ac : AccessType} (h : Translates s va ac p q) : q ≠ .Machine := by
  rintro rfl
  obtain ⟨m, hmode, hp, -⟩ := h.mode_eq
  cases hmode
  cases hp

/-- The indices of a virtual address lie within the registers. -/
theorem Translates.lsb_lt {ac : AccessType} (h : Translates s va ac p q) :
    pagesizeBits + (p.levels - 1) * p.vpnSizeBits < xlen := by
  have hx := xlen_ge
  obtain ⟨m, hmode, hp, -⟩ := h.mode_eq
  rcases m
  · cases hp
  · cases hp
    exact lt_of_lt_of_le (by decide) hx
  all_goals
    have h64 : xlen = 64 := by
      rcases Platform.xlen_eq with h32 | h64
      · unfold translationMode at hmode
        rw [if_neg h.ne_machine, if_pos h32] at hmode
        unfold satp32Mode at hmode
        split_ifs at hmode
        all_goals cases hmode
      · exact h64
    cases hp
    rw [h64]
    decide

/-- An access translates for a load if it translates for a store. -/
theorem Translates.read (h : Translates s va .Write p q) : Translates s va .Read p q :=
  ⟨(effectivePrivilege_write _ _).symm.trans h.priv_eq, h.mode_eq⟩

/-- The entry that a load hits needs no update. -/
theorem DataLegal.of_lookup (h : DataLegal s) {i : Fin 64} {e : TLBEntry}
    (hlook : lookupIn s va = some (i, e)) :
    updatePTEBits e.pte .Read = none ∧ pteIsInvalid (pteFlags e.pte) = false := by
  unfold lookupIn lookupTLB at hlook
  rcases he : s.tlb (tlbHash (va.setWidth 64)) with _ | e'
  · rw [he] at hlook
    cases hlook
  · rw [he] at hlook
    simp only at hlook
    split_ifs at hlook
    cases hlook
    obtain ⟨ha, hvalid⟩ := h.tlb _ _ he
    exact ⟨updatePTEBits_eq_none.mpr ⟨ha, nofun⟩, hvalid⟩

/-- **The translation of a load completes.** -/
theorem translateIn_ok (h : DataLegal s) (htr : Translates s va .Read p q) :
    ∃ r s', (translateIn s p va .Read q).run s = .ok (r, s') := by
  have hp := htr.valid
  unfold translateIn
  rcases hlook : lookupIn s va with _ | ⟨i, e⟩
  · rw [run_translate_miss hlook]
    obtain ⟨r, hwalk⟩ : ∃ r, walkIn s p va .Read q = .ok r :=
      ptWalk_ok h.pmp hp htr.ne_machine htr.lsb_lt
    rcases r with o | f
    · rcases hx : updatePTEBits o.pte .Read with _ | x
      · exact ⟨_, _, run_miss_clean hp hwalk hx⟩
      · rcases hd : platEnableDirtyUpdate with _ | _
        · exact ⟨_, _, run_miss_fixed hwalk hx hd⟩
        · rw [run_miss_of_success hwalk, hx]
          simp only [hd, Bool.not_true, Bool.false_eq_true, if_false]
          rcases decided_writePte h.pmp hp (o.pteAddr.setWidth xlen) with hw | hw
          · obtain ⟨e, s', hrun⟩ := hw x
            rw [Exec.run_bind_of_ok hrun]
            exact ⟨_, _, rfl⟩
          · obtain ⟨b, s', hrun⟩ := hw x
            rw [Exec.run_bind_of_ok hrun]
            simp only
            rw [Exec.run_bind_of_ok (run_addToTLB hp (level_le_of_ptWalk hwalk) x)]
            exact ⟨_, _, rfl⟩
    · exact ⟨_, _, run_miss_of_failure hwalk⟩
  · obtain ⟨hclean, -⟩ := h.of_lookup hlook
    rw [run_translate_hit hlook]
    obtain ⟨b, hb, -⟩ := checkPTEPermission_eq .Read htr.ne_machine
      (Mstatus.MXR.get s.mstatus == 1#1) (Mstatus.SUM.get s.mstatus == 1#1) e.pte
    rcases b
    · exact ⟨_, _, run_hit_of_denied hb⟩
    · exact ⟨_, _, run_hit_clean hb hclean⟩

/-- A PTE that is up to date for a store is up to date for a load. -/
theorem Updated.read {pte a : BitVec 64} (h : PmpLegal s) (hp : p.Valid)
    (hw : Updated s p .Write pte a) : Updated s p .Read pte a := by
  rcases hx : updatePTEBits pte .Read with _ | x
  · exact Or.inl hx
  · have hnone : updatePTEBits pte .Write ≠ none := by
      intro hno
      have hclean : updatePTEBits pte .Read = none :=
        updatePTEBits_eq_none.mpr ⟨(updatePTEBits_eq_none.mp hno).1, nofun⟩
      rw [hx] at hclean
      cases hclean
    rcases hw with hw | ⟨hd, y, -, b, s', hrun⟩
    · exact absurd hw hnone
    · refine Or.inr ⟨hd, x, hx, ?_⟩
      rcases decided_writePte h hp (a.setWidth xlen) with hno | hyes
      · obtain ⟨e, s'', hrun'⟩ := hno y
        rw [hrun] at hrun'
        cases hrun'
      · exact hyes x

/-- Where a store is translated, a load is, to the same address. -/
theorem translateIn_read_of_write {a : BitVec 64} (h : DataLegal s)
    (htr : Translates s va .Write p q)
    (hw : ∃ s', (translateIn s p va .Write q).run s = .ok (.TR_Address a, s')) :
    ∃ s', (translateIn s p va .Read q).run s = .ok (.TR_Address a, s') := by
  have hp := htr.valid
  rcases hlook : lookupIn s va with _ | ⟨i, e⟩
  · obtain ⟨r, hwalk⟩ : ∃ r, walkIn s p va .Write q = .ok r :=
      ptWalk_ok h.pmp hp htr.ne_machine htr.lsb_lt
    rcases r with o | f
    · obtain ⟨rfl, hup⟩ := (miss_address_iff hp hwalk hlook).mp hw
      exact (miss_address_iff hp (ptWalk_read_of_write hwalk) hlook).mpr ⟨rfl, hup.read h.pmp hp⟩
    · obtain ⟨s', hrun⟩ := hw
      unfold translateIn at hrun
      rw [run_translate_miss hlook, run_miss_of_failure hwalk] at hrun
      cases hrun
  · obtain ⟨hclean, hvalid⟩ := h.of_lookup hlook
    obtain ⟨rfl, hgrant, -⟩ := (hit_address_iff hlook).mp hw
    exact (hit_address_iff hlook).mpr
      ⟨rfl, checkPTEPermission_read_of_write hvalid hgrant, Or.inl hclean⟩

/-- **The translation of the address of a load completes.** -/
theorem translateAddr_ok (h : DataLegal s) (va : Xlenbits) :
    ∃ r s', (translateAddr va .Read).run s = .ok (r, s') := by
  obtain ⟨q, hq⟩ := h.priv
  obtain ⟨m, hm⟩ := h.mode q hq
  rcases hp : svParams m with _ | p
  · exact ⟨_, _, run_translateAddr_of_off ⟨q, m, hq, hm, hp⟩ va⟩
  · rcases hvalid : (m == .Sv32 || isValidVAddr p (va.setWidth 64)) with _ | _
    · unfold translateAddr
      have h₁ : (Exec.checks (fun s : State => effectivePrivilege .Read s.mstatus
          s.curPrivilege)).run s = .ok (q, s) := Exec.run_checks_ok.mpr ⟨hq, rfl⟩
      have h₂ : (Exec.checks (fun s : State => translationMode s q)).run s = .ok (m, s) :=
        Exec.run_checks_ok.mpr ⟨hm, rfl⟩
      rw [Exec.run_bind_of_ok h₁, Exec.run_bind_of_ok h₂]
      simp only [hp, hvalid]
      exact ⟨_, _, rfl⟩
    · have htr : Translates s va .Read p q := ⟨hq, m, hm, hp, hvalid⟩
      obtain ⟨r, s', hrun⟩ := translateIn_ok h htr
      rw [run_translateAddr_of_translates htr, Exec.run_bind_of_ok hrun]
      exact ⟨_, _, rfl⟩

/-- **Where a store is translated, a load is, to the same address.** -/
theorem translateAddr_read_of_write {pa : Xlenbits} (h : DataLegal s)
    (hw : ∃ s', (translateAddr va .Write).run s = .ok (.TR_Address pa, s')) :
    ∃ s', (translateAddr va .Read).run s = .ok (.TR_Address pa, s') := by
  obtain ⟨s', hrun⟩ := hw
  rcases translateAddr_cases hrun with ⟨-, -, ⟨hoff, ha⟩ | ⟨f, hf⟩⟩ | ⟨p, q, r, htr, hin, hr⟩
  · cases ha
    obtain ⟨q, m, hq, hm, hp⟩ := hoff
    exact ⟨_, run_translateAddr_of_off
      ⟨q, m, (effectivePrivilege_write _ _).symm.trans hq, hm, hp⟩ va⟩
  · cases hf
  · rcases r with a | f
    · cases hr
      obtain ⟨s'', hread⟩ := translateIn_read_of_write h htr ⟨s', hin⟩
      refine ⟨s'', ?_⟩
      rw [run_translateAddr_of_translates htr.read, Exec.run_bind_of_ok hread]
      rfl
    · cases hr

/-- **The translation of a load loses no update of a PTE.** -/
theorem noLostUpdate_of_read {s' : State} {r : TRResult Xlenbits ExceptionType}
    (h : DataLegal s) (hrun : (translateAddr va .Read).run s = .ok (r, s')) :
    NoLostUpdate s s' va .Read := by
  refine noLostUpdate_of_fresh hrun ?_
  rintro ⟨p, q, i, e, x, htr, hlook, hw, -⟩
  have hclean := (h.of_lookup hlook).1
  rw [hw.update] at hclean
  cases hclean

end Translation

end SailRiscv
