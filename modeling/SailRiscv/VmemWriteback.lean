/-
# The write-back of PTEs

A translation writes to memory only to set the A and D bits of a PTE.  A miss writes back the
PTE that it has just read, a hit the copy in the look-aside buffer, so a PTE that software has
rewritten since the entry was made is lost (`noLostUpdate_iff`).
-/
import SailRiscv.VmemTlb

namespace SailRiscv

open Bits Platform

variable [Platform]

/-! ## What a hit and a miss write -/

/-- A hit on the entry `e` writes the PTE `x` back to memory. -/
structure HitWrites (s : State) (p : SVParams) (ac : AccessType) (priv : Privilege)
    (mxr doSum : Bool) (e : TLBEntry) (x : BitVec 64) : Prop where
  enabled : platEnableDirtyUpdate = true
  allowed : checkPTEPermission ac priv mxr doSum (pteFlags e.pte) = .ok true
  update : updatePTEBits e.pte ac = some x
  writable : PteWritable s p (e.pteAddr.setWidth xlen)

section Writes

variable {s s' : State} {p : SVParams} {asid : BitVec 16} {ptb va : BitVec 64} {ac : AccessType}
  {priv : Privilege} {mxr doSum : Bool} {i : Fin 64} {e : TLBEntry}
  {r : TRResult (BitVec 64) PTWError}

/-- The memory after a hit. -/
theorem mem_of_hit (h : (translateTLBHit p va ac priv mxr doSum i e).run s = .ok (r, s')) :
    (∃ x, HitWrites s p ac priv mxr doSum e x
        ∧ s'.mem = (storePTE s p (e.pteAddr.setWidth xlen) x).mem)
      ∨ ((∀ x, ¬ HitWrites s p ac priv mxr doSum e x) ∧ s'.mem = s.mem) := by
  by_cases hw : ∃ x, HitWrites s p ac priv mxr doSum e x
  · obtain ⟨x, hw⟩ := hw
    rw [run_hit_updated hw.allowed hw.update hw.enabled hw.writable] at h
    cases h
    exact Or.inl ⟨x, hw, rfl⟩
  · refine Or.inr ⟨fun x hx => hw ⟨x, hx⟩, ?_⟩
    unfold translateTLBHit at h
    obtain ⟨b, s₁, hcheck, h⟩ := Exec.run_bind_ok.mp h
    obtain ⟨hperm, rfl⟩ := Exec.run_checks_ok.mp hcheck
    cases b with
    | false => cases h; rfl
    | true =>
        simp only [Bool.not_true, Bool.false_eq_true, if_false] at h
        cases hx : updatePTEBits e.pte ac with
        | none => rw [hx] at h; cases h; rfl
        | some x =>
            rw [hx] at h
            simp only at h
            cases hd : platEnableDirtyUpdate with
            | false => rw [hd] at h; cases h; rfl
            | true =>
                simp only [hd, Bool.not_true, Bool.false_eq_true, if_false] at h
                obtain ⟨u, s₂, htlb, h⟩ := Exec.run_bind_ok.mp h
                cases htlb
                obtain ⟨r', s₃, hwrite, h⟩ := Exec.run_bind_ok.mp h
                have hs : s' = s₃ := by
                  cases r' with
                  | MemValue b => cases h; rfl
                  | MemException err => cases h
                subst hs
                rcases writePte_cases hwrite with ⟨hpw, -, -⟩ | ⟨-, hmem⟩
                · exact absurd ⟨x, hd, hperm, hx, hpw.congr ⟨rfl, rfl⟩⟩ hw
                · exact hmem

/-- The memory after a miss. -/
theorem mem_of_miss
    (h : (translateTLBMiss p asid ptb va ac priv mxr doSum).run s = .ok (r, s')) :
    s'.mem = s.mem
      ∨ platEnableDirtyUpdate = true
        ∧ ∃ o x, ptWalk s p va ac priv mxr doSum ptb (p.levels - 1) false = .ok (.PTW_Success o)
        ∧ updatePTEBits o.pte ac = some x ∧ PteWritable s p (o.pteAddr.setWidth xlen)
        ∧ s'.mem = (storePTE s p (o.pteAddr.setWidth xlen) x).mem := by
  have hadd {s s' : State} {pa x a : BitVec 64} {level : ℕ} {global : Bool} {u : Unit}
      (h : (addToTLB asid va pa x a level global p.vpnSizeBits).run s = .ok (u, s')) :
      s'.mem = s.mem := by
    unfold addToTLB assert at h
    obtain ⟨u, s₁, hassert, h⟩ := Exec.run_bind_ok.mp h
    split at hassert
    · cases hassert
      cases h
      rfl
    · cases hassert
  cases hwalk : ptWalk s p va ac priv mxr doSum ptb (p.levels - 1) false with
  | error err => rw [run_miss_of_error hwalk] at h; cases h
  | ok w =>
      cases w with
      | PTW_Failure f =>
          rw [run_miss_of_failure hwalk] at h
          cases h
          exact Or.inl rfl
      | PTW_Success o =>
          rw [run_miss_of_success hwalk] at h
          cases hx : updatePTEBits o.pte ac with
          | none =>
              rw [hx] at h
              obtain ⟨u, s₁, htlb, h⟩ := Exec.run_bind_ok.mp h
              cases h
              exact Or.inl (hadd htlb)
          | some x =>
              rw [hx] at h
              simp only at h
              cases hd : platEnableDirtyUpdate with
              | false => rw [hd] at h; cases h; exact Or.inl rfl
              | true =>
                  simp only [hd, Bool.not_true, Bool.false_eq_true, if_false] at h
                  obtain ⟨r', s₁, hwrite, h⟩ := Exec.run_bind_ok.mp h
                  have hmem : s'.mem = s₁.mem := by
                    cases r' with
                    | MemValue b =>
                        obtain ⟨u, s₂, htlb, h⟩ := Exec.run_bind_ok.mp h
                        cases h
                        exact hadd htlb
                    | MemException err => cases h; rfl
                  rcases writePte_cases hwrite with ⟨hpw, -, rfl⟩ | ⟨-, hsame⟩
                  · exact Or.inr ⟨rfl, o, x, rfl, hx, hpw, hmem⟩
                  · exact Or.inl (hmem.trans hsame)

end Writes

/-! ## Lost updates -/

/-- The walk of an access under the current `satp` and `mstatus`. -/
def walkIn (s : State) (p : SVParams) (va : Xlenbits) (ac : AccessType) (priv : Privilege) :
    Except ModelError PTWResult :=
  ptWalk s p (va.setWidth 64) ac priv (Mstatus.MXR.get s.mstatus == 1#1)
    (Mstatus.SUM.get s.mstatus == 1#1) (satpToPTBase s.satp) (p.levels - 1) false

/-- The look-up of an access under the current `satp`. -/
def lookupIn (s : State) (va : Xlenbits) : Option (Fin 64 × TLBEntry) :=
  lookupTLB s (satpToAsid s.satp) (va.setWidth 64)

/-- The translation of an access uses the PTE at `a`, from the entry that it hits or from its
walk. -/
def UsesPTE (s : State) (va : Xlenbits) (ac : AccessType) (a : Xlenbits) : Prop :=
  ∃ p priv, Translates s va ac p priv
    ∧ ((∃ i e, lookupIn s va = some (i, e) ∧ a = e.pteAddr.setWidth xlen)
      ∨ (lookupIn s va = none ∧ ∃ o, walkIn s p va ac priv = .ok (.PTW_Success o)
          ∧ a = o.pteAddr.setWidth xlen))

/-- The translation of an access reads PTEs of the format `p` and uses the copy `pte` of the one at
`a`: that of the entry that it hits, or what its walk has read. -/
def UsesCopy (s : State) (va : Xlenbits) (ac : AccessType) (p : SVParams) (pte : BitVec 64)
    (a : Xlenbits) : Prop :=
  ∃ priv, Translates s va ac p priv
    ∧ ((∃ i e, lookupIn s va = some (i, e) ∧ pte = e.pte ∧ a = e.pteAddr.setWidth xlen)
      ∨ (lookupIn s va = none ∧ ∃ o, walkIn s p va ac priv = .ok (.PTW_Success o)
          ∧ pte = o.pte ∧ a = o.pteAddr.setWidth xlen))

/-- Memory has changed at most in the bits A and D of the PTE that the translation uses. -/
def NoLostUpdate (s s' : State) (va : Xlenbits) (ac : AccessType) : Prop :=
  ∀ b i, (s'.mem b).getLsbD i ≠ (s.mem b).getLsbD i →
    (∃ a, UsesPTE s va ac a ∧ b = a.toNat) ∧ (i = 6 ∨ i = 7)

/-- The access hits an entry whose PTE is to be written back, and which differs outside A and
D from the PTE in memory. -/
def WritesStale (s : State) (va : Xlenbits) (ac : AccessType) : Prop :=
  ∃ p priv i e x, Translates s va ac p priv ∧ lookupIn s va = some (i, e)
    ∧ HitWrites s p ac priv (Mstatus.MXR.get s.mstatus == 1#1) (Mstatus.SUM.get s.mstatus == 1#1)
        e x
    ∧ ∃ j < 8 * p.pteSize, j ≠ 6 ∧ j ≠ 7 ∧ e.pte.getLsbD j
        ≠ (Bytes.read s.mem (e.pteAddr.setWidth xlen).toNat p.pteSize).getLsbD j

/-- What a translation does to the memory.  The memory is the same, or the platform updates PTEs
and the copy of the PTE that the translation uses is stored over it, with A and, for a write, D
set.  Unless the copy is that of a stale entry, this sets at most A and D of the PTE. -/
structure WritesBack (s s' : State) (va : Xlenbits) (ac : AccessType) : Prop where
  stores : s'.mem = s.mem
    ∨ platEnableDirtyUpdate = true ∧ ∃ p pte a x, UsesCopy s va ac p pte a
      ∧ updatePTEBits pte ac = some x ∧ s'.mem = (storePTE s p a x).mem
  noLost : ¬ WritesStale s va ac → NoLostUpdate s s' va ac

section Lost

variable {s s' : State} {va : Xlenbits} {ac : AccessType} {p : SVParams} {priv : Privilege}
  {i : Fin 64} {e : TLBEntry} {o : PTWOutput}

/-- The PTE that a hit uses is that of the entry. -/
theorem UsesPTE.of_hit {a : Xlenbits} (h : UsesPTE s va ac a) (hlook : lookupIn s va = some (i, e)) :
    a = e.pteAddr.setWidth xlen := by
  obtain ⟨p, priv, -, ⟨i', e', hlook', ha⟩ | ⟨hnone, -⟩⟩ := h
  · rw [hlook] at hlook'
    cases hlook'
    exact ha
  · rw [hlook] at hnone
    cases hnone

/-- Memory that has not changed has lost nothing. -/
theorem noLostUpdate_of_mem_eq (h : s'.mem = s.mem) : NoLostUpdate s s' va ac := by
  intro b i hne
  rw [h] at hne
  exact absurd rfl hne

/-- Nothing is written back. -/
theorem WritesBack.of_mem_eq (h : s'.mem = s.mem) : WritesBack s s' va ac :=
  ⟨Or.inl h, fun _ => noLostUpdate_of_mem_eq h⟩

/-- What is lost is a matter of the memory. -/
theorem NoLostUpdate.congr {s₁ : State} (h : NoLostUpdate s s₁ va ac) (hmem : s'.mem = s₁.mem) :
    NoLostUpdate s s' va ac := by
  intro b i hne
  rw [hmem] at hne
  exact h b i hne

/-- What is written back is a matter of the memory. -/
theorem WritesBack.congr {s₁ : State} (h : WritesBack s s₁ va ac) (hmem : s'.mem = s₁.mem) :
    WritesBack s s' va ac :=
  ⟨by rw [hmem]; exact h.stores, fun hstale => (h.noLost hstale).congr hmem⟩

/-- A PTE stored where the PTE that is used lies. -/
theorem noLostUpdate_of_store {a : Xlenbits} {x : BitVec 64} (ha : UsesPTE s va ac a)
    (hmem : s'.mem = (storePTE s p a x).mem)
    (h : ∀ j < 8 * p.pteSize, ¬ (j = 6 ∨ j = 7) →
      (x.setWidth (8 * p.pteSize)).getLsbD j = (Bytes.read s.mem a.toNat p.pteSize).getLsbD j) :
    NoLostUpdate s s' va ac := by
  intro b i hne
  rw [hmem] at hne
  obtain ⟨hb, hi⟩ := (Bytes.write_changes_iff s.mem a.toNat p.pteSize
    (x.setWidth (8 * p.pteSize)) (P := fun j => j = 6 ∨ j = 7) (by omega)).mpr h b i hne
  exact ⟨⟨a, ha, hb⟩, hi⟩

/-- **A miss loses nothing**: it writes back the PTE that it has read. -/
theorem noLostUpdate_of_miss {r : TRResult (BitVec 64) PTWError} (htr : Translates s va ac p priv)
    (hlook : lookupIn s va = none)
    (hrun : (translateIn s p va ac priv).run s = .ok (r, s')) : NoLostUpdate s s' va ac := by
  unfold translateIn at hrun
  rw [run_translate_miss hlook] at hrun
  rcases mem_of_miss hrun with hmem | ⟨-, o, x, hwalk, hx, hw, hmem⟩
  · exact noLostUpdate_of_mem_eq hmem
  · refine noLostUpdate_of_store (p := p) ⟨p, priv, htr, Or.inr ⟨hlook, o, hwalk, rfl⟩⟩ hmem ?_
    intro j hj hAD
    have hread := read_of_ptWalk hwalk
    have hread' := readPTE_of_writable htr.valid hw hread (SameBus.refl s)
    rw [hread] at hread'
    simp only [Except.ok.injEq, Option.some.injEq] at hread'
    have hsize : 8 * p.pteSize ≤ 64 := by
      rcases htr.valid.pteSize_eq with h | h <;> omega
    have hbit := sameExceptAD_updatePTEBits hx j (by omega) (by omega)
    rw [BitVec.getLsbD_setWidth, ← hbit, hread', BitVec.getLsbD_setWidth]
    simp [hj, show j < 64 by omega]

/-- **A hit loses nothing exactly when the entry agrees with memory.** -/
theorem noLostUpdate_of_hit_iff {x : BitVec 64} (htr : Translates s va ac p priv)
    (hlook : lookupIn s va = some (i, e)) (hx : updatePTEBits e.pte ac = some x)
    (hmem : s'.mem = (storePTE s p (e.pteAddr.setWidth xlen) x).mem) :
    NoLostUpdate s s' va ac
      ↔ ∀ j < 8 * p.pteSize, ¬ (j = 6 ∨ j = 7) → e.pte.getLsbD j
        = (Bytes.read s.mem (e.pteAddr.setWidth xlen).toNat p.pteSize).getLsbD j := by
  have hbits (j : ℕ) (hj : j < 8 * p.pteSize) (hAD : ¬ (j = 6 ∨ j = 7)) :
      (x.setWidth (8 * p.pteSize)).getLsbD j = e.pte.getLsbD j := by
    rw [BitVec.getLsbD_setWidth, sameExceptAD_updatePTEBits hx j (by omega) (by omega)]
    simp [hj]
  constructor
  · intro h j hj hAD
    rw [← hbits j hj hAD]
    refine (Bytes.write_changes_iff s.mem _ p.pteSize (x.setWidth (8 * p.pteSize))
      (P := fun j => j = 6 ∨ j = 7) (by omega)).mp ?_ j hj hAD
    intro b k hne
    have hne' : (s'.mem b).getLsbD k ≠ (s.mem b).getLsbD k := by
      rw [hmem]
      exact hne
    obtain ⟨⟨a, ha, hb⟩, hk⟩ := h b k hne'
    rw [ha.of_hit hlook] at hb
    exact ⟨hb, hk⟩
  · intro h
    refine noLostUpdate_of_store (p := p) ⟨p, priv, htr, Or.inl ⟨i, e, hlook, rfl⟩⟩ hmem ?_
    intro j hj hAD
    rw [hbits j hj hAD]
    exact h j hj hAD

/-- A translation that writes no stale entry back loses nothing. -/
theorem noLostUpdate_of_fresh {r : TRResult Xlenbits ExceptionType}
    (hrun : (translateAddr va ac).run s = .ok (r, s')) (hfresh : ¬ WritesStale s va ac) :
    NoLostUpdate s s' va ac := by
  rcases translateAddr_cases hrun with ⟨rfl, -, -⟩ | ⟨p, priv, r', htr, hrun', -⟩
  · exact noLostUpdate_of_mem_eq rfl
  · rcases hlook : lookupIn s va with _ | ⟨i, e⟩
    · exact noLostUpdate_of_miss htr hlook hrun'
    · unfold translateIn at hrun'
      rw [run_translate_hit hlook] at hrun'
      rcases mem_of_hit hrun' with ⟨x, hw, hmem⟩ | ⟨-, hmem⟩
      · refine (noLostUpdate_of_hit_iff htr hlook hw.update hmem).mpr (fun j hj hAD => ?_)
        by_contra hne
        exact hfresh ⟨p, priv, i, e, x, htr, hlook, hw, j, hj, by omega, by omega, hne⟩
      · exact noLostUpdate_of_mem_eq hmem

/-- A translation that writes a stale entry back loses an update. -/
theorem loses_of_writesStale {r : TRResult Xlenbits ExceptionType}
    (hrun : (translateAddr va ac).run s = .ok (r, s')) (hstale : WritesStale s va ac) :
    ¬ NoLostUpdate s s' va ac := by
  intro h
  obtain ⟨p, priv, i, e, x, htr, hlook, hw, j, hj, h6, h7, hne⟩ := hstale
  rcases translateAddr_cases hrun with ⟨-, hno, -⟩ | ⟨p', priv', r', htr', hrun', -⟩
  · exact hno p priv htr
  · obtain ⟨rfl, rfl⟩ := htr.unique htr'
    unfold translateIn at hrun'
    rw [run_translate_hit hlook] at hrun'
    rcases mem_of_hit hrun' with ⟨x', hw', hmem⟩ | ⟨hno, -⟩
    · exact hne ((noLostUpdate_of_hit_iff htr hlook hw'.update hmem).mp h j hj (by omega))
    · exact hno x hw

/-- **No lost update.**  A translation changes at most the bits A and D of the PTE that it
uses, unless it hits an entry that is to be written back and is stale. -/
theorem noLostUpdate_iff {r : TRResult Xlenbits ExceptionType}
    (hrun : (translateAddr va ac).run s = .ok (r, s')) :
    NoLostUpdate s s' va ac ↔ ¬ WritesStale s va ac :=
  ⟨fun h hstale => loses_of_writesStale hrun hstale h, noLostUpdate_of_fresh hrun⟩

/-- **A translation stores at most its copy of the PTE that it uses.** -/
theorem translateAddr_writesBack {r : TRResult Xlenbits ExceptionType}
    (hrun : (translateAddr va ac).run s = .ok (r, s')) : WritesBack s s' va ac := by
  refine ⟨?_, noLostUpdate_of_fresh hrun⟩
  rcases translateAddr_cases hrun with ⟨rfl, -, -⟩ | ⟨p, priv, r', htr, hrun', -⟩
  · exact Or.inl rfl
  · unfold translateIn at hrun'
    rcases hlook : lookupIn s va with _ | ⟨i, e⟩
    · rw [run_translate_miss hlook] at hrun'
      rcases mem_of_miss hrun' with hmem | ⟨hd, o, x, hwalk, hx, -, hmem⟩
      · exact Or.inl hmem
      · exact Or.inr ⟨hd, p, o.pte, _, x,
          ⟨priv, htr, Or.inr ⟨hlook, o, hwalk, rfl, rfl⟩⟩, hx, hmem⟩
    · rw [run_translate_hit hlook] at hrun'
      rcases mem_of_hit hrun' with ⟨x, hw, hmem⟩ | ⟨-, hmem⟩
      · exact Or.inr ⟨hw.enabled, p, e.pte, _, x,
          ⟨priv, htr, Or.inl ⟨i, e, hlook, rfl, rfl⟩⟩, hw.update, hmem⟩
      · exact Or.inl hmem

end Lost

/-- A superpage at `0x80000000` is cached with D clear, and its PTE in memory has been cleared
since. -/
def unmapped : State :=
  { State.zero (fun _ => 0#8) with
    curPrivilege := .Supervisor
    satp := 0x80080000#_
    tlb := Function.update (fun _ => none) 0
      (some (mkTLBEntry 0#16 0#64 0x80000000#64 0x20000047#64 0x80000000#64 22
        pagesizeBits_le_superpage false 0#64)) }

omit [Platform] in
/-- A write through the stale entry stores its PTE. -/
theorem run_translateAddr_unmapped :
    letI := rv32DirtyUpdate true
    ∃ s', (translateAddr 0#_ .Write).run unmapped = .ok (.TR_Address 0x80000000#_, s')
      ∧ s'.mem = (storePTE unmapped sv32Params 0x80000000#_ 0x200000C7#64).mem := by
  let := rv32DirtyUpdate true
  have htr : Translates unmapped 0#_ .Write sv32Params .Supervisor :=
    ⟨by decide, .Sv32, by decide, rfl, rfl⟩
  have hlook : lookupIn unmapped 0#_ = some (0, mkTLBEntry 0#16 0#64 0x80000000#64
      0x20000047#64 0x80000000#64 22 (by decide) false 0#64) := by decide
  have hhit : (translateIn unmapped sv32Params 0#_ .Write .Supervisor).run unmapped = _ :=
    run_translate_hit hlook
  rw [run_hit_updated (x := 0x200000C7#64) (by decide) (by decide) rfl
    ⟨rfl, by decide, by decide⟩] at hhit
  rw [run_translateAddr_of_translates htr, Exec.run_bind_of_ok hhit]
  have haddr : trResult .Write (.TR_Address ((mkTLBEntry 0#16 0#64 0x80000000#64 0x20000047#64
      0x80000000#64 22 (by decide) false 0#64).translate 0#64)) = .TR_Address 0x80000000#_ := by
    decide
  refine ⟨_, congrArg (fun r => Except.ok (r, _)) haddr, ?_⟩
  rfl

omit [Platform] in
/-- The law at the write through the stale entry, which loses the update. -/
theorem noLostUpdate_iff_unmapped :
    letI := rv32DirtyUpdate true
    ∃ s', (translateAddr 0#_ .Write).run unmapped = .ok (.TR_Address 0x80000000#_, s')
      ∧ (NoLostUpdate unmapped s' 0#_ .Write ↔ ¬ WritesStale unmapped 0#_ .Write) := by
  let := rv32DirtyUpdate true
  obtain ⟨s', hrun, -⟩ := run_translateAddr_unmapped
  exact ⟨s', hrun, noLostUpdate_iff hrun⟩

omit [Platform] in
/-- The write through the stale entry brings back the PTE that software has cleared. -/
theorem unmapped_is_mapped_again :
    ¬ ∀ [Platform] (s s' : State) (va : Xlenbits) (ac : AccessType)
      (r : TRResult Xlenbits ExceptionType), (translateAddr va ac).run s = .ok (r, s') →
      NoLostUpdate s s' va ac := by
  intro h
  let := rv32DirtyUpdate true
  obtain ⟨s', hrun, hmem⟩ := run_translateAddr_unmapped
  have hV : (s'.mem 0x80000000).getLsbD 0 ≠ (unmapped.mem 0x80000000).getLsbD 0 := by
    rw [hmem]
    decide
  obtain ⟨-, h6 | h7⟩ := h unmapped s' 0#_ .Write _ hrun 0x80000000 0 hV
  · cases h6
  · cases h7

end SailRiscv
