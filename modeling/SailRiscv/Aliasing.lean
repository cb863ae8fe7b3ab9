/-
# Physical addresses of a translation

The physical addresses of Sv32 have 34 bits, but on RV32 the memory is given 32 bits, both of the
addresses of PTEs and of the translated address.  `noAliasing_iff` says when a translation goes
to the address that the page table gives: exactly if the addresses fit.
-/
import SailRiscv.Lib.Plain
import SailRiscv.VmemTransparent
import SailRiscv.VmemWriteback
import SailRiscv.WalkSpec

namespace SailRiscv

open Bits Platform

variable [Platform]

/-! ## Writing a PTE back -/

/-- The state with another look-aside buffer. -/
def State.withTlb (t : Fin 64 → Option TLBEntry) (s : State) : State :=
  { s with
    tlb := t }

/-- A store to the CLINT does not depend on the look-aside buffer. -/
theorem commutes_clintStore (t : Fin 64 → Option TLBEntry) (a : Xlenbits) (n : ℕ)
    (data : BitVec (8 * n)) : Exec.Commutes (State.withTlb t) (clintStore a n data) := by
  have hstored (f : State → State) (hf : ∀ s, f (s.withTlb t) = (f s).withTlb t) :
      Exec.Commutes (State.withTlb t) (do
        Exec.update f
        clintDispatch
        pure (.MemValue true) : M (MemoryOpResult Bool)) :=
    Exec.commutes_bind (Exec.commutes_update hf) (fun _ =>
      Exec.commutes_bind (Exec.commutes_update (fun _ => rfl)) (fun _ => Exec.commutes_pure _))
  unfold clintStore
  dsimp only
  split_ifs
  all_goals first
    | exact hstored _ (fun _ => rfl)
    | exact Exec.commutes_pure _

/-- A store to the host interface does not depend on the look-aside buffer. -/
theorem commutes_htifStore (t : Fin 64 → Option TLBEntry) (a : Xlenbits) (n : ℕ)
    (data : BitVec (8 * n)) : Exec.Commutes (State.withTlb t) (htifStore a n data) := by
  have hport (s : State) : htifWritePort a n data (s.withTlb t)
      = (htifWritePort a n data s).withTlb t := by
    unfold htifWritePort
    by_cases h8 : n = 8
    · rw [if_pos h8, if_pos h8]
      rfl
    rw [if_neg h8, if_neg h8]
    by_cases hlo : n = 4 ∧ a = platHtifTohost
    · rw [if_pos hlo, if_pos hlo]
      rfl
    rw [if_neg hlo, if_neg hlo]
    by_cases hhi : n = 4 ∧ a = platHtifTohost + 4#_
    · rw [if_pos hhi, if_pos hhi]
      rfl
    · rw [if_neg hhi, if_neg hhi]
      rfl
  have hexec (s : State) : htifExecute (s.withTlb t) = (htifExecute s).withTlb t := by
    unfold htifExecute
    dsimp only
    have hcmd : (s.withTlb t).htifTohost = s.htifTohost := rfl
    rw [hcmd]
    split_ifs <;> rfl
  have hready (s : State) : (if htifReady (s.withTlb t) then htifExecute (s.withTlb t)
      else s.withTlb t) = (if htifReady s then htifExecute s else s).withTlb t := by
    have hr : htifReady (s.withTlb t) = htifReady s := rfl
    rw [hr, hexec]
    split_ifs <;> rfl
  exact Exec.commutes_bind (Exec.commutes_update hport) (fun _ =>
    Exec.commutes_bind (Exec.commutes_update hready) (fun _ => Exec.commutes_pure _))

/-- The write-back of a PTE does not depend on the look-aside buffer. -/
theorem commutes_writePte (t : Fin 64 → Option TLBEntry) (p : SVParams) (a : Xlenbits)
    (x : BitVec 64) : Exec.Commutes (State.withTlb t) (writePte p a x) := by
  have hcheck : Exec.Commutes (State.withTlb t)
      (Exec.checks (fun s => physAccessCheck s .Write .Supervisor a p.pteSize)) :=
    Exec.commutes_checks (fun s => physAccessCheck_congr ⟨rfl, rfl⟩ _ _ _ _)
  unfold writePte memWriteValuePriv memWriteValuePrivMeta checkedMemWrite
  rw [if_neg (by simp)]
  refine Exec.commutes_bind hcheck (fun c => ?_)
  cases c with
  | some e => exact Exec.commutes_pure _
  | none =>
      dsimp only
      split_ifs
      · unfold mmioWrite
        split_ifs
        · exact commutes_clintStore t a _ _
        · exact commutes_htifStore t a _ _
        · exact Exec.commutes_pure _
      · refine Exec.commutes_bind (Exec.commutes_checks (fun _ => rfl)) (fun _ => ?_)
        exact Exec.commutes_bind (Exec.commutes_update (fun _ => rfl)) (fun _ =>
          Exec.commutes_pure _)
      · exact Exec.commutes_pure _

/-- The PTE can be written back. -/
def PteStored (s : State) (p : SVParams) (a : Xlenbits) (x : BitVec 64) : Prop :=
  ∃ b s', (writePte p a x).run s = .ok (.MemValue b, s')

/-- Whether it can does not depend on the look-aside buffer. -/
theorem pteStored_withTlb {s : State} {p : SVParams} {a : Xlenbits} {x : BitVec 64}
    (t : Fin 64 → Option TLBEntry) : PteStored (s.withTlb t) p a x ↔ PteStored s p a x := by
  have hcomm := commutes_writePte t p a x
  unfold PteStored
  rw [hcomm.run_comm]
  constructor
  · rintro ⟨b, s', h⟩
    cases hrun : (writePte p a x).run s with
    | error e => rw [hrun] at h; cases h
    | ok r =>
        rcases r with ⟨r₁, s₁⟩
        rw [hrun] at h
        cases h
        exact ⟨b, s₁, rfl⟩
  · rintro ⟨b, s', h⟩
    rw [h]
    exact ⟨b, _, rfl⟩

/-- The PTE needs no update for the access, or is updated. -/
def Updated (s : State) (p : SVParams) (ac : AccessType) (pte a : BitVec 64) : Prop :=
  updatePTEBits pte ac = none
    ∨ (platEnableDirtyUpdate = true
      ∧ ∃ x, updatePTEBits pte ac = some x ∧ PteStored s p (a.setWidth xlen) x)

/-! ## The address of a translation -/

section Address

variable {s s' : State} {p : SVParams} {va : Xlenbits} {ac : AccessType} {priv : Privilege}
  {i : Fin 64} {e : TLBEntry} {o : PTWOutput} {a : BitVec 64}

/-- The permission check of an entry, under the current `mstatus`. -/
def grantsIn (s : State) (ac : AccessType) (priv : Privilege) (pte : BitVec 64) :
    Except ModelError Bool :=
  checkPTEPermission ac priv (Mstatus.MXR.get s.mstatus == 1#1) (Mstatus.SUM.get s.mstatus == 1#1)
    (pteFlags pte)

/-- A miss whose walk succeeds gives the address of the walk, once the PTE is up to date. -/
theorem miss_address_iff (hp : p.Valid) (hwalk : walkIn s p va ac priv = .ok (.PTW_Success o))
    (hlook : lookupIn s va = none) :
    (∃ s', (translateIn s p va ac priv).run s = .ok (.TR_Address a, s'))
      ↔ a = o.pAddr ∧ Updated s p ac o.pte o.pteAddr := by
  unfold translateIn
  rw [run_translate_miss hlook]
  unfold Updated
  cases hx : updatePTEBits o.pte ac with
  | none =>
      rw [run_miss_clean hp hwalk hx]
      constructor
      · rintro ⟨s', h⟩
        cases h
        exact ⟨rfl, Or.inl rfl⟩
      · rintro ⟨rfl, -⟩
        exact ⟨_, rfl⟩
  | some x =>
      cases hd : platEnableDirtyUpdate with
      | false =>
          rw [run_miss_fixed hwalk hx hd]
          constructor
          · rintro ⟨s', h⟩
            cases h
          · rintro ⟨-, h | ⟨h, -⟩⟩ <;> cases h
      | true =>
          rw [run_miss_of_success hwalk, hx]
          simp only [hd, Bool.not_true, Bool.false_eq_true, if_false]
          constructor
          · rintro ⟨s', h⟩
            obtain ⟨r, s₁, hwrite, h⟩ := Exec.run_bind_ok.mp h
            cases r with
            | MemException f => cases h
            | MemValue b =>
                obtain ⟨u, s₂, -, h⟩ := Exec.run_bind_ok.mp h
                cases h
                exact ⟨rfl, Or.inr ⟨trivial, x, rfl, b, s₁, hwrite⟩⟩
          · rintro ⟨rfl, h | ⟨-, x', hx', b, s₁, hwrite⟩⟩
            · cases h
            cases hx'
            rw [Exec.run_bind_of_ok hwrite]
            simp only
            rw [Exec.run_bind_of_ok (run_addToTLB hp (level_le_of_ptWalk hwalk) x)]
            exact ⟨_, rfl⟩

/-- A hit gives the address of the entry, once its PTE grants the access and is up to date. -/
theorem hit_address_iff (hlook : lookupIn s va = some (i, e)) :
    (∃ s', (translateIn s p va ac priv).run s = .ok (.TR_Address a, s'))
      ↔ a = e.translate (va.setWidth 64) ∧ grantsIn s ac priv e.pte = .ok true
        ∧ Updated s p ac e.pte e.pteAddr := by
  unfold translateIn
  rw [run_translate_hit hlook]
  unfold Updated
  cases hgrant : grantsIn s ac priv e.pte with
  | error f =>
      constructor
      · rintro ⟨s', h⟩
        unfold translateTLBHit at h
        obtain ⟨b, s₁, hb, -⟩ := Exec.run_bind_ok.mp h
        obtain ⟨hok, -⟩ := Exec.run_checks_ok.mp hb
        exact absurd (hok.symm.trans hgrant) (by simp)
      · rintro ⟨-, h, -⟩
        cases h
  | ok granted =>
      cases granted with
      | false =>
          rw [run_hit_of_denied hgrant]
          constructor
          · rintro ⟨s', h⟩
            cases h
          · rintro ⟨-, h, -⟩
            cases h
      | true =>
          cases hx : updatePTEBits e.pte ac with
          | none =>
              rw [run_hit_clean hgrant hx]
              constructor
              · rintro ⟨s', h⟩
                cases h
                exact ⟨rfl, rfl, Or.inl rfl⟩
              · rintro ⟨rfl, -, -⟩
                exact ⟨_, rfl⟩
          | some x =>
              cases hd : platEnableDirtyUpdate with
              | false =>
                  rw [run_hit_fixed hgrant hx hd]
                  constructor
                  · rintro ⟨s', h⟩
                    cases h
                  · rintro ⟨-, -, h | ⟨h, -⟩⟩ <;> cases h
              | true =>
                  rw [run_hit_of_allowed hgrant, hx]
                  simp only [hd, Bool.not_true, Bool.false_eq_true, if_false]
                  have htlb : (writeTLB i { e with pte := x }).run s
                      = .ok ((), s.withTlb (Function.update s.tlb i (some { e with pte := x }))) :=
                    rfl
                  rw [Exec.run_bind_of_ok htlb]
                  constructor
                  · rintro ⟨s', h⟩
                    obtain ⟨r, s₁, hwrite, h⟩ := Exec.run_bind_ok.mp h
                    cases r with
                    | MemException f => cases h
                    | MemValue b =>
                        cases h
                        exact ⟨rfl, trivial, Or.inr
                          ⟨trivial, x, rfl, (pteStored_withTlb _).mp ⟨b, _, hwrite⟩⟩⟩
                  · rintro ⟨rfl, -, h | ⟨-, x', hx', hstored⟩⟩
                    · cases h
                    cases hx'
                    obtain ⟨b, s₁, hwrite⟩ := (pteStored_withTlb _).mpr hstored
                    rw [Exec.run_bind_of_ok hwrite]
                    exact ⟨_, rfl⟩

/-- The access goes to the physical address `pa`, or fails. -/
def GoesTo (s : State) (va : Xlenbits) (ac : AccessType) (pa : ℕ) : Prop :=
  ∀ r s', (translateAddr va ac).run s = .ok (r, s') →
    (∃ a, r = .TR_Address a ∧ a.toNat = pa) ∨ ∃ e, r = .TR_Failure e

/-- The address of an access is that of the translation, in `xlen` bits. -/
theorem goesTo_iff {pa : ℕ} (htr : Translates s va ac p priv) :
    GoesTo s va ac pa ↔ ∀ a, (∃ s', (translateIn s p va ac priv).run s = .ok (.TR_Address a, s')) →
      a.toNat % 2 ^ xlen = pa := by
  unfold GoesTo
  rw [run_translateAddr_of_translates htr]
  constructor
  · rintro h a ⟨s', hrun⟩
    rcases h (trResult ac (.TR_Address a)) s' (by rw [Exec.run_bind_of_ok hrun]; rfl)
      with ⟨a', ha, hpa⟩ | ⟨f, hf⟩
    · cases ha
      rwa [BitVec.toNat_setWidth] at hpa
    · cases hf
  · intro h r s' hrun
    obtain ⟨r', s₁, htrans, hr⟩ := Exec.run_bind_ok.mp hrun
    cases hr
    cases r' with
    | TR_Failure f => exact Or.inr ⟨_, rfl⟩
    | TR_Address a =>
        refine Or.inl ⟨_, rfl, ?_⟩
        rw [BitVec.toNat_setWidth]
        exact h a ⟨s', htrans⟩

end Address

/-! ## Aliasing -/

section NoAliasing

variable {s : State} {p : SVParams} {va : Xlenbits} {ac : AccessType} {priv : Privilege}
  {o : PTWOutput}

/-- The tables that the walk of an access visits. -/
def tablesIn (s : State) (p : SVParams) (va : Xlenbits) : List (BitVec 64 × ℕ) :=
  walkTables s p (va.setWidth 64) (p.levels - 1) (satpToPTBase s.satp)

/-- If the walk of an access finds a leaf, then the access goes to the physical address that the
leaf gives or fails, and the walk reads each PTE at its full address. -/
def NoAliasing (s : State) (va : Xlenbits) (ac : AccessType) : Prop :=
  ∀ p priv o, Translates s va ac p priv → walkIn s p va ac priv = .ok (.PTW_Success o) →
    GoesTo s va ac (refPa p va.toNat o.pte o.level)
      ∧ ∀ t ∈ tablesIn s p va,
        (usedSlot p (va.setWidth 64) t).toNat = refSlot p va.toNat t.1.toNat t.2

/-- The addresses of the walk fit into `xlen` bits: those of the PTEs, and that of the leaf if
the access is granted it; and an entry that is hit and grants the access gives the same address. -/
structure AddressesFit (s : State) (p : SVParams) (va : Xlenbits) (ac : AccessType)
    (priv : Privilege) (o : PTWOutput) : Prop where
  tables : ∀ t ∈ tablesIn s p va, refSlot p va.toNat t.1.toNat t.2 < 2 ^ xlen
  miss : lookupIn s va = none → Updated s p ac o.pte o.pteAddr →
    refPa p va.toNat o.pte o.level < 2 ^ xlen
  hit : ∀ i e, lookupIn s va = some (i, e) → grantsIn s ac priv e.pte = .ok true →
    Updated s p ac e.pte e.pteAddr →
    (e.translate (va.setWidth 64)).toNat % 2 ^ xlen = refPa p va.toNat o.pte o.level

/-- A virtual address in 64 bits is the same number. -/
theorem toNat_extended (va : Xlenbits) : (va.setWidth 64).toNat = va.toNat := by
  rw [BitVec.toNat_setWidth]
  exact Nat.mod_eq_of_lt (va.isLt.trans_le (Nat.pow_le_pow_right (by omega) xlen_le))

omit [Platform] in
/-- The address that a leaf gives fits into 64 bits. -/
theorem refPa_lt (hp : p.Valid) (va : ℕ) (pte : BitVec 64) {j : ℕ} (hj : j ≤ p.levels - 1) :
    refPa p va pte j < 2 ^ 64 := by
  have hk : j * p.vpnSizeBits ≤ 27 := by
    rcases hp with rfl | rfl | rfl <;> simp only [sv32Params, sv39Params, sv48Params] at hj ⊢ <;>
      omega
  have hpow : 2 ^ (j * p.vpnSizeBits) ≤ 2 ^ 27 := Nat.pow_le_pow_right (by omega) hk
  have hppn := refPPN_lt hp pte
  have hdiv := Nat.div_mul_le_self (refPPN p pte) (2 ^ (j * p.vpnSizeBits))
  have hlow := Nat.mod_lt (va / 2 ^ pagesizeBits) (Nat.two_pow_pos (j * p.vpnSizeBits))
  unfold refPa
  dsimp only
  unfold pagesizeBits at hlow ⊢
  omega

/-- The address of a walk that succeeds. -/
theorem toNat_pAddr (hp : p.Valid) (hwalk : walkIn s p va ac priv = .ok (.PTW_Success o)) :
    o.pAddr.toNat = refPa p va.toNat o.pte o.level := by
  have hlevel := level_le_of_ptWalk hwalk
  obtain ⟨l, -, hleaf⟩ := leafAt_of_ptWalk hwalk
  obtain ⟨-, halign, rfl⟩ := ptwLeaf_success hleaf
  have hlt := refPa_lt hp va.toNat l.pte hlevel
  rw [leafAddr_eq hp _ _ hlevel ((superpageAligned_iff hp _ _).mp halign), toNat_extended,
    BitVec.toNat_ofNat]
  exact Nat.mod_eq_of_lt hlt

/-- The slots that a walk reads are those of the page table where these fit into `xlen` bits. -/
theorem usedSlot_eq_refSlot_iff (hp : p.Valid) (va : Xlenbits) (t : BitVec 64 × ℕ) :
    (usedSlot p (va.setWidth 64) t).toNat = refSlot p va.toNat t.1.toNat t.2
      ↔ refSlot p va.toNat t.1.toNat t.2 < 2 ^ xlen := by
  have h := usedSlot_eq_iff hp (va.setWidth 64) t
  unfold SlotInRange at h
  rwa [toNat_extended] at h

/-- Addresses that fit are those of the page table. -/
theorem noAliasing_of_fit (h : ∀ p priv o, Translates s va ac p priv →
      walkIn s p va ac priv = .ok (.PTW_Success o) → AddressesFit s p va ac priv o) :
    NoAliasing s va ac := by
  intro p priv o htr hwalk
  have hfit := h p priv o htr hwalk
  refine ⟨(goesTo_iff htr).mpr (fun a ha => ?_),
    fun t ht => (usedSlot_eq_refSlot_iff htr.valid va t).mpr (hfit.tables t ht)⟩
  cases hlook : lookupIn s va with
  | none =>
      obtain ⟨rfl, hup⟩ := (miss_address_iff htr.valid hwalk hlook).mp ha
      rw [toNat_pAddr htr.valid hwalk]
      exact Nat.mod_eq_of_lt (hfit.miss hlook hup)
  | some r =>
      obtain ⟨rfl, hgrant, hup⟩ := (hit_address_iff hlook).mp ha
      exact hfit.hit r.1 r.2 hlook hgrant hup

/-- **A translation goes to the address that the page table gives exactly if the addresses fit
into `xlen` bits.** -/
theorem noAliasing_iff (s : State) (va : Xlenbits) (ac : AccessType) :
    NoAliasing s va ac ↔ ∀ p priv o, Translates s va ac p priv →
      walkIn s p va ac priv = .ok (.PTW_Success o) → AddressesFit s p va ac priv o := by
  refine ⟨?_, noAliasing_of_fit⟩
  intro h p priv o htr hwalk
  obtain ⟨hgoes, hslots⟩ := h p priv o htr hwalk
  rw [goesTo_iff htr] at hgoes
  refine ⟨fun t ht => (usedSlot_eq_refSlot_iff htr.valid va t).mp (hslots t ht), fun hlook hup => ?_,
    fun i e hlook hgrant hup => ?_⟩
  · have hpa := hgoes _ ((miss_address_iff htr.valid hwalk hlook).mpr ⟨rfl, hup⟩)
    rw [toNat_pAddr htr.valid hwalk] at hpa
    rw [← hpa]
    exact Nat.mod_lt _ (Nat.two_pow_pos _)
  · exact hgoes _ ((hit_address_iff hlook).mpr ⟨rfl, hgrant, hup⟩)

/-- A look-aside buffer that agrees with the table gives the address of the table. -/
theorem translate_of_coherent (hp : p.Valid)
    (hcoh : Coherent s p (satpToAsid s.satp) (satpToPTBase s.satp)) {i : Fin 64} {e : TLBEntry}
    (hlook : lookupIn s va = some (i, e)) (hwalk : walkIn s p va ac priv = .ok (.PTW_Success o)) :
    (e.translate (va.setWidth 64)).toNat = refPa p va.toNat o.pte o.level := by
  obtain ⟨-, htlb, hmatch⟩ := lookupTLB_eq_some.mp hlook
  have hasid : e.global = true ∨ e.asid = satpToAsid s.satp := by
    unfold matchTLBEntry at hmatch
    simp only [Bool.and_eq_true, Bool.or_eq_true, beq_iff_eq] at hmatch
    exact hmatch.1
  obtain ⟨l, hl, -, -, -, haddr⟩ := (hcoh i e htlb hasid).hit hp hmatch
  have hleaf := (hl.ptWalk ac priv (Mstatus.MXR.get s.mstatus == 1#1)
    (Mstatus.SUM.get s.mstatus == 1#1)).symm.trans hwalk
  obtain ⟨-, -, rfl⟩ := ptwLeaf_success hleaf
  rw [haddr]
  exact toNat_pAddr hp hwalk

/-- On RV64 there is no aliasing as long as the look-aside buffer agrees with the table. -/
theorem noAliasing_of_rv64 (hx : xlen = 64) (hcoh : ∀ p priv, Translates s va ac p priv →
      Coherent s p (satpToAsid s.satp) (satpToPTBase s.satp)) : NoAliasing s va ac := by
  refine noAliasing_of_fit (fun p priv o htr hwalk => ?_)
  have hp := htr.valid
  have hpow : 2 ^ xlen = 2 ^ 64 := by rw [hx]
  have hpa : refPa p va.toNat o.pte o.level < 2 ^ xlen := by
    rw [hpow]
    exact refPa_lt hp _ _ (level_le_of_ptWalk hwalk)
  have hbase : (satpToPTBase s.satp).toNat < 2 ^ 56 := by
    unfold satpToPTBase pagesizeBits
    rw [BitVec.toNat_shiftLeft, Nat.shiftLeft_eq]
    split
    · have h : (Satp32.PPN.get s.satp).toNat < 2 ^ 22 := (Satp32.PPN.get s.satp).isLt
      rw [BitVec.toNat_setWidth]
      omega
    · have h : (Satp64.PPN.get s.satp).toNat < 2 ^ 44 := (Satp64.PPN.get s.satp).isLt
      rw [BitVec.toNat_setWidth]
      omega
  refine ⟨fun t ht => ?_, fun _ _ => hpa, fun i e hlook _ _ => ?_⟩
  · have hin := inRange_of_rv64 hp hx hbase t ht
    unfold SlotInRange at hin
    rwa [toNat_extended] at hin
  · rw [translate_of_coherent hp (hcoh p priv htr) hlook hwalk]
    exact Nat.mod_eq_of_lt hpa

end NoAliasing

/-! ## A page above 4 GiB -/

/-- The PTE of a superpage at `0x180000000`, in the root table at `0x80000000`. -/
def highPage : State :=
  { State.zero (Bytes.write (fun _ => 0#8) 0x80000000 4 0x600000CF#32) with
    curPrivilege := .Supervisor
    satp := 0x80080000#_ }

omit [Platform] in
/-- The page table gives address 0 the physical address `0x180000000`, and the access goes to
`0x80000000`. -/
theorem translateAddr_goes_elsewhere :
    ¬ ∀ [Platform] (s : State) (va : Xlenbits) (ac : AccessType), NoAliasing s va ac := by
  intro h
  let := rv32DirtyUpdate true
  have htr : Translates highPage 0#_ .Read sv32Params .Supervisor :=
    ⟨by decide, .Sv32, by decide, by decide, by decide⟩
  have hwalk : walkIn highPage sv32Params 0#_ .Read .Supervisor
      = .ok (.PTW_Success ⟨0x180000000#64, 0x600000CF#64, 0x80000000#64, 1, false⟩) := by
    decide +kernel
  obtain ⟨hgoes, -⟩ := h highPage 0#_ .Read _ _ _ htr hwalk
  have hrun := (miss_address_iff (p := sv32Params) (Or.inl rfl) hwalk (by decide)).mpr
    ⟨rfl, Or.inl (by decide)⟩
  exact absurd ((goesTo_iff htr).mp hgoes _ hrun) (by decide)

end SailRiscv
