/-
# Transparency of the look-aside buffer

In a coherent state a translation gives the same result, and leaves the same memory, with and
without the buffer, and the state stays coherent (`translate_transparent`).  A hit and a walk
part only when the model is built without the update of A and D: then an entry whose D bit is
still clear makes a write fault that the PTE in memory would let pass.
-/
import SailRiscv.VmemTlb

namespace SailRiscv

open Bits Platform

variable [Platform]

/-! ## The address of a hit -/

section Address

variable {p : SVParams} {va va' pte : BitVec 64} {level : ℕ}

omit [Platform] in
/-- The address that an entry gives is that of its leaf. -/
theorem translate_mkTLBEntry (hp : p.Valid) (hlevel : level ≤ p.levels - 1)
    (hal : SuperpageAligned p pte level) (asid : BitVec 16) (x a age : BitVec 64)
    (global : Bool) :
    (mkTLBEntry asid va (leafAddr p va pte level) x a (pagesizeBits + level * p.vpnSizeBits)
      (Nat.le_add_right _ _) global age).translate va' = leafAddr p va' pte level := by
  apply BitVec.eq_of_getLsbD_eq
  intro i hi
  unfold TLBEntry.translate mkTLBEntry
  simp only
  rw [BitVec.getLsbD_or, BitVec.getLsbD_and, BitVec.getLsbD_and, BitVec.getLsbD_not,
    getLsbD_lowOnes, getLsbD_leafAddr hp hlevel hal hi, getLsbD_leafAddr hp hlevel hal hi]
  by_cases hlt : i < pagesizeBits + level * p.vpnSizeBits
  · simp [hi, hlt]
  · simp [hi, hlt]

omit [Platform] in
/-- An address that an entry matches agrees with that of the entry above the page. -/
theorem agree_of_match {asid asid' : BitVec 16} {pa x a age : BitVec 64} {shift : ℕ}
    {hshift : pagesizeBits ≤ shift} {global : Bool}
    (h : matchTLBEntry (mkTLBEntry asid va pa x a shift hshift global age) asid' va' = true) {i : ℕ}
    (hi : shift ≤ i) : va'.getLsbD i = va.getLsbD i := by
  unfold matchTLBEntry mkTLBEntry at h
  simp only [Bool.and_eq_true, beq_iff_eq] at h
  by_cases h64 : i < 64
  · have hbit := congrArg (fun v => v.getLsbD i) h.2
    simp only [BitVec.getLsbD_and, BitVec.getLsbD_not, getLsbD_lowOnes] at hbit
    simpa [h64, show ¬ i < shift by omega] using hbit.symm
  · rw [BitVec.getLsbD_of_ge va' i (by omega), BitVec.getLsbD_of_ge va i (by omega)]

end Address

/-! ## A hit and the walk -/

section Hit

variable {s s' : State} {p : SVParams} {asid : BitVec 16} {ptb va : BitVec 64} {e : TLBEntry}
  {i : Fin 64}

/-- What a successful look-up says. -/
theorem lookupTLB_eq_some :
    lookupTLB s asid va = some (i, e)
      ↔ i = tlbHash va ∧ s.tlb i = some e ∧ matchTLBEntry e asid va = true := by
  unfold lookupTLB
  cases hslot : s.tlb (tlbHash va) with
  | none =>
      simp only
      constructor
      · intro h
        cases h
      · rintro ⟨rfl, htlb, -⟩
        rw [hslot] at htlb
        cases htlb
  | some ent =>
      simp only
      by_cases hm : matchTLBEntry ent asid va = true
      · rw [if_pos hm]
        constructor
        · intro h
          cases h
          exact ⟨rfl, hslot, hm⟩
        · rintro ⟨rfl, htlb, -⟩
          rw [hslot] at htlb
          cases htlb
          rfl
      · rw [if_neg hm]
        constructor
        · intro h
          cases h
        · rintro ⟨rfl, htlb, hm'⟩
          rw [hslot] at htlb
          cases htlb
          exact absurd hm' hm

/-- **What a hit stands for**: the walk of the address arrives at the PTE of the entry, up to
the D bit, and the entry gives the same address as this PTE. -/
theorem EntryOk.hit (hp : p.Valid) (h : EntryOk s p ptb e) (hm : matchTLBEntry e asid va = true) :
    ∃ l, LeafAt s p va ptb (p.levels - 1) false l ∧ SuperpageAligned p l.pte l.level
      ∧ UpToD e.pte l.pte ∧ e.pteAddr = l.pteAddr ∧ e.translate va = leafAddr p va l.pte l.level
      := by
  obtain ⟨va₀, ac, priv, mxr, doSum, o, hwalk, hpte, he⟩ := h
  obtain ⟨l, hl, hleaf⟩ := leafAt_of_ptWalk hwalk
  obtain ⟨-, hal, rfl⟩ := ptwLeaf_success hleaf
  have hpteAddr : e.pteAddr = l.pteAddr := by rw [he]; rfl
  refine ⟨l, hl.congr_va ?_, hal, hpte, hpteAddr, ?_⟩
  · intro i hi
    rw [he] at hm
    exact agree_of_match hm hi
  · rw [he]
    exact translate_mkTLBEntry hp hl.level_le hal _ _ _ _ _

omit [Platform] in
/-- An entry that lacks nothing but D is equal to a PTE that lacks a bit. -/
theorem UpToD.eq_of_lacking {x m : BitVec 64} {ac : AccessType} (h : UpToD x m)
    (hm : updatePTEBits m ac ≠ none) : x = m := by
  refine h.same.eq (h.setA.trans h.setA'.symm) ?_
  rw [Ne, updatePTEBits_eq_none] at hm
  have hm7 : m.getLsbD 7 = false := by
    by_contra h7
    exact hm ⟨h.setA', fun _ => by simpa using h7⟩
  rw [hm7]
  by_contra h7
  have := h.setD (by simpa using h7)
  rw [hm7] at this
  cases this

omit [Platform] in
/-- The update of an entry whose PTE in memory needs none gives the PTE in memory. -/
theorem UpToD.update_eq {x x' m : BitVec 64} {ac : AccessType} (h : UpToD x m)
    (hx : updatePTEBits x ac = some x') (hm : updatePTEBits m ac = none) : x' = m := by
  rw [updatePTEBits_eq_none] at hm
  have hne : updatePTEBits x ac ≠ none := by simp [hx]
  rw [Ne, updatePTEBits_eq_none] at hne
  have hd : dirties ac = true := by
    by_contra hd
    exact hne ⟨h.setA, fun hd' => absurd hd' hd⟩
  refine ((sameExceptAD_updatePTEBits hx).symm.trans h.same).eq ?_ ?_
  · rw [getLsbD_updatePTEBits hx, if_pos rfl, h.setA']
  · rw [getLsbD_updatePTEBits hx, if_neg (by decide), if_pos rfl, hd, hm.2 hd, Bool.or_true]

omit [Platform] in
/-- A PTE with A set agrees with itself. -/
theorem UpToD.refl {x : BitVec 64} (h : x.getLsbD 6 = true) : UpToD x x :=
  ⟨.refl x, h, h, id⟩

omit [Platform] in
/-- An update only sets bits. -/
theorem advanced_updatePTEBits {x x' : BitVec 64} {ac : AccessType}
    (h : updatePTEBits x ac = some x') : Advanced x x' where
  same := sameExceptAD_updatePTEBits h
  setA _ := by rw [getLsbD_updatePTEBits h, if_pos rfl]
  setD hD := by rw [getLsbD_updatePTEBits h, if_neg (by decide), if_pos rfl, hD, Bool.true_or]

/-- Writing back the PTE that is there does not change the memory. -/
theorem mem_storePTE_of_read {a m : BitVec 64} (hp : p.Valid)
    (hw : PteWritable s p (a.setWidth xlen)) (hread : readPTE s p a = .ok (some m)) :
    (storePTE s p (a.setWidth xlen) m).mem = s.mem := by
  have hmem := readPTE_of_writable hp hw hread (SameBus.refl s)
  rw [hread] at hmem
  simp only [Except.ok.injEq, Option.some.injEq] at hmem
  have hsize : 8 * p.pteSize ≤ 64 := by
    rcases hp.pteSize_eq with h | h <;> omega
  have hm : m.setWidth (8 * p.pteSize)
      = Bytes.read s.mem (a.setWidth xlen).toNat p.pteSize := by
    rw [hmem, BitVec.setWidth_setWidth_of_le _ hsize, BitVec.setWidth_eq]
  unfold storePTE
  simp only [hm, Bytes.write_read]

end Hit

/-! ## Transparency -/

section Transparency

variable {s s' : State} {p : SVParams} {asid : BitVec 16} {ptb va : BitVec 64} {ac : AccessType}
  {priv : Privilege} {mxr doSum : Bool} {i : Fin 64} {e : TLBEntry} {x m : BitVec 64}
  {o : PTWOutput}

/-- An entry is added for a walk, in a state whose PTEs have advanced. -/
theorem Coherent.added (hp : p.Valid) (hptb : 2 ^ 12 ∣ ptb.toNat) (hcoh : Coherent s p asid ptb)
    (hwalk : ptWalk s p va ac priv mxr doSum ptb (p.levels - 1) false = .ok (.PTW_Success o))
    (htlb : s'.tlb = s.tlb) (hadv : PTEsAdvanced s (addedEntry s' p asid va x o) p)
    (hread : readPTE (addedEntry s' p asid va x o) p o.pteAddr = .ok (some x))
    (hA : x.getLsbD 6 = true) : Coherent (addedEntry s' p asid va x o) p asid ptb := by
  refine hcoh.entry_advanced hp hptb hadv (fun _ => ?_) (congrArg
    (fun t => Function.update t (tlbHash va) _) htlb)
  exact entryOk_of_walk hp hptb hadv hwalk hread (UpToD.refl hA) asid o.global

/-- **A miss keeps a state coherent.** -/
theorem Coherent.miss (hp : p.Valid) (hptb : 2 ^ 12 ∣ ptb.toNat) (hcoh : Coherent s p asid ptb)
    (hwb : ∀ a, NeedsWriteback s p asid ptb va ac priv mxr doSum a →
      PteWritable s p (a.setWidth xlen))
    {r : TRResult (BitVec 64) PTWError}
    (hrun : (translateTLBMiss p asid ptb va ac priv mxr doSum).run s = .ok (r, s')) :
    Coherent s' p asid ptb := by
  cases hwalk : ptWalk s p va ac priv mxr doSum ptb (p.levels - 1) false with
  | error err =>
      rw [run_miss_of_error hwalk] at hrun
      cases hrun
  | ok w =>
      cases w with
      | PTW_Failure f =>
          rw [run_miss_of_failure hwalk] at hrun
          cases hrun
          exact hcoh
      | PTW_Success o =>
          have hread := read_of_ptWalk hwalk
          have hal := slotAligned_of_ptWalk hp hptb hwalk
          cases hx : updatePTEBits o.pte ac with
          | none =>
              rw [run_miss_clean hp hwalk hx] at hrun
              cases hrun
              have hbus : SameBus s (addedEntry s p asid va o.pte o) :=
                ⟨⟨rfl, rfl⟩, rfl, rfl, rfl, rfl⟩
              refine hcoh.added hp hptb hwalk rfl (ptesAdvanced_of_sameMem hbus rfl) ?_
                (updatePTEBits_eq_none.mp hx).1
              rw [readPTE_congr hbus rfl, hread]
          | some x =>
              cases hd : platEnableDirtyUpdate with
              | false =>
                  rw [run_miss_fixed hwalk hx hd] at hrun
                  cases hrun
                  exact hcoh
              | true =>
                  have hw := hwb o.pteAddr ⟨hd, Or.inr ⟨o, hwalk, by simp [hx], rfl⟩⟩
                  rw [run_miss_updated hp hwalk hx hd hw] at hrun
                  cases hrun
                  obtain ⟨hadv, hread'⟩ := ptesAdvanced_store hp
                    (show SameBus s (addedEntry (storePTE s p (o.pteAddr.setWidth xlen) x) p asid
                      va x o) from ⟨⟨rfl, rfl⟩, rfl, rfl, rfl, rfl⟩)
                    hal hw hread (advanced_updatePTEBits hx) rfl
                  refine hcoh.added hp hptb hwalk rfl hadv hread' ?_
                  rw [getLsbD_updatePTEBits hx, if_pos rfl]

/-- **A hit that is updated keeps a state coherent.** -/
theorem Coherent.hit_updated (hp : p.Valid) (hptb : 2 ^ 12 ∣ ptb.toNat)
    (hcoh : Coherent s p asid ptb) (hok : EntryOk s p ptb e)
    (hw : PteWritable s p (e.pteAddr.setWidth xlen))
    (hread : readPTE s p e.pteAddr = .ok (some m)) (hadv : Advanced m x)
    (hA : x.getLsbD 6 = true) :
    Coherent (storePTE (updatedEntry s i e x) p (e.pteAddr.setWidth xlen) x) p asid ptb := by
  obtain ⟨hal, -⟩ := hok.read hp hptb
  obtain ⟨hadv', hread'⟩ := ptesAdvanced_store hp
    (show SameBus s (storePTE (updatedEntry s i e x) p (e.pteAddr.setWidth xlen) x) from
      ⟨⟨rfl, rfl⟩, rfl, rfl, rfl, rfl⟩) hal hw hread hadv rfl
  exact hcoh.entry_advanced hp hptb hadv'
    (fun _ => hok.updated hp hptb hadv' hread' (UpToD.refl hA)) rfl

/-- A hit on an entry whose D bit is still clear, by a write, in a build that does not update
PTEs, while the PTE in memory has D set. -/
def HitsStaleD (s : State) (p : SVParams) (asid : BitVec 16) (ptb va : BitVec 64)
    (ac : AccessType) (priv : Privilege) (mxr doSum : Bool) : Prop :=
  platEnableDirtyUpdate = false ∧ dirties ac = true
    ∧ ∃ i e o, lookupTLB s asid va = some (i, e)
      ∧ ptWalk s p va ac priv mxr doSum ptb (p.levels - 1) false = .ok (.PTW_Success o)
      ∧ e.pte ≠ o.pte

/-- **Transparency of the look-aside buffer.**  In a coherent state the translation does what
the walk does: it aborts if the walk aborts, and otherwise it returns the same result with the
same memory, in a state that is coherent again. -/
theorem translate_transparent (hp : p.Valid) (hptb : 2 ^ 12 ∣ ptb.toNat)
    (hpriv : priv ≠ .Machine) (hcoh : Coherent s p asid ptb)
    (hwb : ∀ a, NeedsWriteback s p asid ptb va ac priv mxr doSum a →
      PteWritable s p (a.setWidth xlen))
    (hstale : ¬ HitsStaleD s p asid ptb va ac priv mxr doSum) :
    (∀ err, (translateTLBMiss p asid ptb va ac priv mxr doSum).run s = .error err →
        (translate p asid ptb va ac priv mxr doSum).run s = .error err)
      ∧ ∀ r s₂, (translateTLBMiss p asid ptb va ac priv mxr doSum).run s = .ok (r, s₂) →
          ∃ s₁, (translate p asid ptb va ac priv mxr doSum).run s = .ok (r, s₁)
            ∧ s₁.mem = s₂.mem ∧ Coherent s₁ p asid ptb := by
  cases hlook : lookupTLB s asid va with
  | none =>
      rw [run_translate_miss hlook]
      exact ⟨fun _ h => h, fun r s₂ h => ⟨s₂, h, rfl, hcoh.miss hp hptb hwb h⟩⟩
  | some ie =>
      obtain ⟨i, e⟩ := ie
      obtain ⟨-, hslot, hm⟩ := lookupTLB_eq_some.mp hlook
      have hok : EntryOk s p ptb e := by
        refine hcoh i e hslot ?_
        unfold matchTLBEntry at hm
        simp only [Bool.and_eq_true, Bool.or_eq_true, beq_iff_eq] at hm
        exact hm.1
      obtain ⟨l, hl, hal, hpte, hpteAddr, haddr⟩ := hok.hit hp hm
      rw [run_translate_hit hlook]
      -- it is enough to give both runs
      have hboth {r : TRResult (BitVec 64) PTWError} {s₁ s₂ : State}
          (hmiss : (translateTLBMiss p asid ptb va ac priv mxr doSum).run s = .ok (r, s₂))
          (hhit : (translateTLBHit p va ac priv mxr doSum i e).run s = .ok (r, s₁))
          (hmem : s₁.mem = s₂.mem) (hcoh₁ : Coherent s₁ p asid ptb) :
          (∀ err, (translateTLBMiss p asid ptb va ac priv mxr doSum).run s = .error err →
              (translateTLBHit p va ac priv mxr doSum i e).run s = .error err)
            ∧ ∀ r s₂, (translateTLBMiss p asid ptb va ac priv mxr doSum).run s = .ok (r, s₂) →
                ∃ s₁, (translateTLBHit p va ac priv mxr doSum i e).run s = .ok (r, s₁)
                  ∧ s₁.mem = s₂.mem ∧ Coherent s₁ p asid ptb := by
        rw [hmiss, hhit]
        refine ⟨fun err h => ?_, fun r' s₂' h => ?_⟩
        · cases h
        · cases h
          exact ⟨s₁, rfl, hmem, hcoh₁⟩
      have hpermEq := hpte.same.checkPTEPermission ac priv mxr doSum
      cases hperm : checkPTEPermission ac priv mxr doSum (pteFlags l.pte) with
      | error err =>
          exfalso
          unfold checkPTEPermission at hperm
          cases priv <;> cases ac <;> first | exact hpriv rfl | cases hperm
      | ok b =>
          have hpermHit := hpermEq.trans hperm
          have hwalk := hl.ptWalk ac priv mxr doSum
          cases b with
          | false =>
              rw [ptwLeaf_of_denied hperm] at hwalk
              exact hboth (run_miss_of_failure hwalk) (run_hit_of_denied hpermHit) rfl hcoh
          | true =>
              rw [ptwLeaf_of_allowed hperm hal] at hwalk
              cases hx : updatePTEBits l.pte ac with
              | none =>
                  have hmiss : (translateTLBMiss p asid ptb va ac priv mxr doSum).run s = _ :=
                    run_miss_clean hp hwalk hx
                  cases hy : updatePTEBits e.pte ac with
                  | none =>
                      have hhit : (translateTLBHit p va ac priv mxr doSum i e).run s = _ :=
                        run_hit_clean hpermHit hy
                      rw [haddr] at hhit
                      exact hboth hmiss hhit rfl hcoh
                  | some y =>
                      -- the entry has D clear, and its update is the PTE in memory
                      have hyl : y = l.pte := hpte.update_eq hy hx
                      have hd : platEnableDirtyUpdate = true := by
                        by_contra hd
                        refine hstale ⟨by simpa using hd, ?_, i, e, _, hlook, hwalk, ?_⟩
                        · by_contra hac
                          have hnone : updatePTEBits e.pte ac = none :=
                            updatePTEBits_eq_none.mpr ⟨hpte.setA, fun h => absurd h hac⟩
                          rw [hnone] at hy
                          cases hy
                        · intro heq
                          simp only at heq
                          rw [heq, hx] at hy
                          cases hy
                      have hw := hwb e.pteAddr
                        ⟨hd, Or.inl ⟨i, e, hlook, by simp [hy], rfl⟩⟩
                      have hread : readPTE s p e.pteAddr = .ok (some l.pte) := by
                        rw [hpteAddr]
                        exact hl.read
                      have hhit : (translateTLBHit p va ac priv mxr doSum i e).run s = _ :=
                        run_hit_updated hpermHit hy hd hw
                      rw [haddr] at hhit
                      refine hboth hmiss hhit ?_ ?_
                      · rw [hyl]
                        exact mem_storePTE_of_read (s := s) hp hw hread
                      · rw [hyl]
                        exact hcoh.hit_updated hp hptb hok hw hread (Advanced.refl _) hpte.setA'
              | some x =>
                  -- the entry is the PTE in memory
                  have hlack : updatePTEBits l.pte ac ≠ none := by simp [hx]
                  have hel : e.pte = l.pte := hpte.eq_of_lacking hlack
                  have hy : updatePTEBits e.pte ac = some x := by rw [hel]; exact hx
                  cases hd : platEnableDirtyUpdate with
                  | false =>
                      exact hboth (run_miss_fixed hwalk hx hd) (run_hit_fixed hpermHit hy hd) rfl
                        hcoh
                  | true =>
                      have hw := hwb e.pteAddr
                        ⟨hd, Or.inl ⟨i, e, hlook, by simp [hy], rfl⟩⟩
                      have hw' : PteWritable s p (l.pteAddr.setWidth xlen) := by
                        rw [← hpteAddr]
                        exact hw
                      have hread : readPTE s p e.pteAddr = .ok (some l.pte) := by
                        rw [hpteAddr]
                        exact hl.read
                      have hmiss : (translateTLBMiss p asid ptb va ac priv mxr doSum).run s = _ :=
                        run_miss_updated hp hwalk hx hd hw'
                      have hhit : (translateTLBHit p va ac priv mxr doSum i e).run s = _ :=
                        run_hit_updated hpermHit hy hd hw
                      rw [haddr] at hhit
                      refine hboth hmiss hhit ?_ ?_
                      · rw [hpteAddr]
                        rfl
                      · refine hcoh.hit_updated hp hptb hok hw hread
                          (advanced_updatePTEBits hx) ?_
                        rw [getLsbD_updatePTEBits hx, if_pos rfl]

end Transparency

/-! ## A stale D bit -/

/-- A superpage at `0x80000000` is mapped to itself with D set, and cached with D clear. -/
def staleD : State :=
  { State.zero (Bytes.write (fun _ => 0#8) 0x80000000 4 0x200000C7#32) with
    tlb := Function.update (fun _ => none) 0
      (some (mkTLBEntry 0#16 0#64 0x80000000#64 0x20000047#64 0x80000000#64 22
        pagesizeBits_le_superpage false 0#64)) }

omit [Platform] in
/-- The walk that made the entry. -/
theorem ptWalk_staleD (b : Bool) :
    letI := rv32DirtyUpdate b
    ptWalk staleD sv32Params 0#64 .Write .Supervisor false false 0x80000000#64 1 false
      = .ok (.PTW_Success ⟨0x80000000#64, 0x200000C7#64, 0x80000000#64, 1, false⟩) := by
  cases b <;> decide +kernel

omit [Platform] in
theorem coherent_staleD (b : Bool) :
    letI := rv32DirtyUpdate b
    Coherent staleD sv32Params 0#16 0x80000000#64 := by
  let := rv32DirtyUpdate b
  intro i e hi _
  by_cases h0 : i = 0
  · subst h0
    cases hi
    refine ⟨0#64, .Write, .Supervisor, false, false, _, ptWalk_staleD b, ⟨?_, ?_, ?_, ?_⟩, ?_⟩
    · intro i h6 h7
      by_cases hlt : i < 64
      · interval_cases i <;> first | rfl | contradiction
      · rw [BitVec.getLsbD_of_ge _ _ (by omega), BitVec.getLsbD_of_ge _ _ (by omega)]
    · rfl
    · rfl
    · decide
    · rfl
  · unfold staleD at hi
    simp only at hi
    rw [Function.update_of_ne h0] at hi
    cases hi

omit [Platform] in
theorem writable_staleD (b : Bool) {a : BitVec 64} :
    letI := rv32DirtyUpdate b
    NeedsWriteback staleD sv32Params 0#16 0x80000000#64 0#64 .Write .Supervisor false false a →
      PteWritable staleD sv32Params (a.setWidth xlen) := by
  let := rv32DirtyUpdate b
  rintro ⟨-, ⟨i, e, hlook, -, rfl⟩ | ⟨o, hwalk, hne, rfl⟩⟩
  · obtain ⟨rfl, hslot, -⟩ := lookupTLB_eq_some.mp hlook
    cases hslot
    exact ⟨rfl, by cases b <;> decide, by cases b <;> decide⟩
  · have h := (ptWalk_staleD b).symm.trans hwalk
    cases h
    exact absurd (by decide) hne

omit [Platform] in
/-- With the update of PTEs, a write through the stale entry does what the walk does. -/
theorem translate_transparent_staleD :
    letI := rv32DirtyUpdate true
    Coherent staleD sv32Params 0#16 0x80000000#64
      ∧ ∀ r s₂, (translateTLBMiss sv32Params 0#16 0x80000000#64 0#64 .Write .Supervisor false
          false).run staleD = .ok (r, s₂) →
        ∃ s₁, (translate sv32Params 0#16 0x80000000#64 0#64 .Write .Supervisor false false).run
            staleD = .ok (r, s₁)
          ∧ s₁.mem = s₂.mem ∧ Coherent s₁ sv32Params 0#16 0x80000000#64 := by
  let := rv32DirtyUpdate true
  refine ⟨coherent_staleD true, ?_⟩
  refine (translate_transparent (Or.inl rfl) (by decide) (by decide) (coherent_staleD true)
    (fun a => writable_staleD true) ?_).2
  rintro ⟨hd, -⟩
  cases hd

omit [Platform] in
/-- Without the update of PTEs, a write through the stale entry faults, and the walk does
not. -/
theorem translate_staleD_faults :
    ¬ ∀ [Platform] (s : State) (p : SVParams) (asid : BitVec 16) (ptb va : BitVec 64)
      (ac : AccessType) (priv : Privilege) (mxr doSum : Bool), p.Valid → 2 ^ 12 ∣ ptb.toNat →
      priv ≠ .Machine → Coherent s p asid ptb →
      (∀ a, NeedsWriteback s p asid ptb va ac priv mxr doSum a →
        PteWritable s p (a.setWidth xlen)) →
      ∀ r s₂, (translateTLBMiss p asid ptb va ac priv mxr doSum).run s = .ok (r, s₂) →
        ∃ s₁, (translate p asid ptb va ac priv mxr doSum).run s = .ok (r, s₁)
          ∧ s₁.mem = s₂.mem ∧ Coherent s₁ p asid ptb := by
  intro h
  let := rv32DirtyUpdate false
  obtain ⟨s₁, hrun, -⟩ := h staleD sv32Params 0#16 0x80000000#64 0#64 .Write .Supervisor false
    false (Or.inl rfl) (by decide) (by decide) (coherent_staleD false)
    (fun a => writable_staleD false) _ _
    (run_miss_clean (Or.inl rfl) (ptWalk_staleD false) (by decide))
  have hlook : lookupTLB staleD 0#16 0#64 = some (0, mkTLBEntry 0#16 0#64 0x80000000#64
      0x20000047#64 0x80000000#64 22 (by decide) false 0#64) := rfl
  rw [run_translate_hit hlook,
    run_hit_fixed (x := 0x200000C7#64) (by decide) (by decide) rfl] at hrun
  cases hrun

end SailRiscv
