/-
# The runs of a translation

What a translation does in each of its cases: a hit or a miss, an access that is granted or
not, a PTE that needs an update or not.  Each case is an equation for the run.
`translateAddr_cases` says what the translation of an address comes down to.
-/
import SailRiscv.VmemWalk

namespace SailRiscv

open Bits Platform

variable [Platform]

/-! ## Permissions and levels -/

/-- The permission check of a physical access depends on the PMP registers only. -/
theorem physAccessCheck_congr {s s' : State} (h : SamePmp s s') (t : AccessType)
    (priv : Privilege) (a : Xlenbits) (n : ℕ) :
    physAccessCheck s' t priv a n = physAccessCheck s t priv a n := by
  unfold physAccessCheck
  rw [pmpCheck_congr h]

/-- The permission for a write-back depends on the PMP registers only. -/
theorem PteWritable.congr {s s' : State} {p : SVParams} {a : Xlenbits} (h : SamePmp s s') (hw : PteWritable s p a) :
    PteWritable s' p a := by
  unfold PteWritable at hw ⊢
  rw [physAccessCheck_congr h]
  exact hw

omit [Platform] in
/-- The pages of the levels lie within the virtual address. -/
theorem pageBits_le {p : SVParams} {level : ℕ} (hp : p.Valid) (hlevel : level ≤ p.levels - 1) :
    pagesizeBits + level * p.vpnSizeBits ≤ p.vaSizeBits
      ∧ pagesizeBits + level * p.vpnSizeBits ≤ 64 := by
  rcases hp with rfl | rfl | rfl <;>
    simp only [sv32Params, sv39Params, sv48Params, pagesizeBits] at hlevel ⊢ <;> omega

omit [Platform] in
/-- The address of a leaf has the offset in its page from the virtual address and the rest
from the PTE. -/
theorem getLsbD_leafAddr {p : SVParams} {va pte : BitVec 64} {level : ℕ} (hp : p.Valid)
    (hlevel : level ≤ p.levels - 1) (hal : SuperpageAligned p pte level) {i : ℕ} (hi : i < 64) :
    (leafAddr p va pte level).getLsbD i
      = if i < pagesizeBits + level * p.vpnSizeBits then va.getLsbD i
        else (ppnsOfPTE p pte).getLsbD (i - pagesizeBits) := by
  obtain ⟨hva, -⟩ := pageBits_le hp hlevel
  unfold SuperpageAligned at hal
  rw [hp.ptePPNj_eq] at hal
  unfold leafAddr offsetOfVa
  simp only [hp.ptePPNj_eq]
  unfold pagesizeBits at hva ⊢
  rw [BitVec.getLsbD_or, BitVec.getLsbD_shiftLeft, BitVec.getLsbD_setWidth,
    BitVec.getLsbD_extractLsb']
  by_cases h12 : i < 12
  · simp [hi, h12, show i < 12 + level * p.vpnSizeBits by omega]
  · by_cases hpos : 0 < level
    · have hlow (hlt : i - 12 < level * p.vpnSizeBits) :
          (ppnsOfPTE p pte).getLsbD (i - 12) = false := by
        rw [hal hpos, BitVec.getLsbD_shiftLeft]
        simp [hlt]
      simp only [hpos, if_true]
      rw [BitVec.getLsbD_or, BitVec.getLsbD_and, BitVec.getLsbD_not, BitVec.getLsbD_shiftLeft,
        BitVec.getLsbD_allOnes]
      unfold vpnsOfVa pagesizeBits
      rw [BitVec.getLsbD_ushiftRight, BitVec.getLsbD_and, getLsbD_lowOnes,
        show 12 + (i - 12) = i by omega]
      by_cases hlt : i < 12 + level * p.vpnSizeBits
      · rw [if_pos hlt, hlow (by omega)]
        simp [hi, h12, show i < p.vaSizeBits by omega, show i - 12 < level * p.vpnSizeBits by omega,
          show i - 12 < 64 by omega]
      · rw [if_neg hlt]
        simp [hi, h12, show ¬ i - 12 < level * p.vpnSizeBits by omega, show i - 12 < 64 by omega,
          show i - 12 - level * p.vpnSizeBits < 64 by omega]
    · have h0 : level = 0 := by omega
      subst h0
      simp [hi, h12]

/-! ## The runs of a translation -/

omit [Platform] in
/-- A page has at least the smallest size. -/
theorem pagesizeBits_le (o : PTWOutput) (p : SVParams) :
    pagesizeBits ≤ pagesizeBits + o.level * p.vpnSizeBits := Nat.le_add_right _ _

/-- The state after an entry is added for a walk of `va`. -/
def addedEntry (s : State) (p : SVParams) (asid : BitVec 16) (va x : BitVec 64) (o : PTWOutput) :
    State :=
  { s with
    tlb := Function.update s.tlb (tlbHash va)
      (some (mkTLBEntry asid va o.pAddr x o.pteAddr (pagesizeBits + o.level * p.vpnSizeBits)
        (pagesizeBits_le o p) o.global s.mcycle)) }

/-- The state after the PTE of an entry is replaced. -/
def updatedEntry (s : State) (i : Fin 64) (e : TLBEntry) (x : BitVec 64) : State :=
  { s with
    tlb := Function.update s.tlb i (some { e with pte := x }) }

section Runs

variable {s : State} {p : SVParams} {asid : BitVec 16} {ptb va : BitVec 64} {ac : AccessType}
  {priv : Privilege} {mxr doSum : Bool} {i : Fin 64} {e : TLBEntry} {x : BitVec 64}
  {o : PTWOutput}

theorem run_addToTLB (hp : p.Valid) (hlevel : o.level ≤ p.levels - 1) (x : BitVec 64) :
    (addToTLB asid va o.pAddr x o.pteAddr o.level o.global p.vpnSizeBits).run s
      = .ok ((), addedEntry s p asid va x o) := by
  have hle : decide (pagesizeBits + o.level * p.vpnSizeBits ≤ 64) = true :=
    decide_eq_true (pageBits_le hp hlevel).2
  unfold addToTLB
  simp only [hle]
  rfl

/-- A hit whose entry grants the access. -/
theorem run_hit_of_allowed
    (h : checkPTEPermission ac priv mxr doSum (pteFlags e.pte) = .ok true) :
    (translateTLBHit p va ac priv mxr doSum i e).run s
      = (match updatePTEBits e.pte ac with
        | none => pure (.TR_Address (e.translate va))
        | some pte' =>
            if !platEnableDirtyUpdate then pure (.TR_Failure .PTW_PTE_Update)
            else do
              writeTLB i { e with pte := pte' }
              match ← writePte p (e.pteAddr.setWidth xlen) pte' with
              | .MemValue _ => pure (.TR_Address (e.translate va))
              | .MemException _ => internalError "invalid physical address in TLB"
          : M (TRResult (BitVec 64) PTWError)).run s := by
  unfold translateTLBHit
  have hcheck : (Exec.checks (fun _ : State => checkPTEPermission ac priv mxr doSum
      (pteFlags e.pte))).run s = .ok (true, s) := Exec.run_checks_ok.mpr ⟨h, rfl⟩
  rw [Exec.run_bind_of_ok hcheck]
  rfl

/-- A hit whose entry denies the access. -/
theorem run_hit_of_denied
    (h : checkPTEPermission ac priv mxr doSum (pteFlags e.pte) = .ok false) :
    (translateTLBHit p va ac priv mxr doSum i e).run s
      = .ok (.TR_Failure .PTW_No_Permission, s) := by
  unfold translateTLBHit
  have hcheck : (Exec.checks (fun _ : State => checkPTEPermission ac priv mxr doSum
      (pteFlags e.pte))).run s = .ok (false, s) := Exec.run_checks_ok.mpr ⟨h, rfl⟩
  rw [Exec.run_bind_of_ok hcheck]
  rfl

/-- A hit that needs no update. -/
theorem run_hit_clean (h : checkPTEPermission ac priv mxr doSum (pteFlags e.pte) = .ok true)
    (hx : updatePTEBits e.pte ac = none) :
    (translateTLBHit p va ac priv mxr doSum i e).run s = .ok (.TR_Address (e.translate va), s) := by
  rw [run_hit_of_allowed h, hx]
  rfl

/-- A hit that needs an update in a build without it. -/
theorem run_hit_fixed (h : checkPTEPermission ac priv mxr doSum (pteFlags e.pte) = .ok true)
    (hx : updatePTEBits e.pte ac = some x) (hd : platEnableDirtyUpdate = false) :
    (translateTLBHit p va ac priv mxr doSum i e).run s
      = .ok (.TR_Failure .PTW_PTE_Update, s) := by
  rw [run_hit_of_allowed h, hx]
  simp only [hd]
  rfl

/-- A hit that is updated. -/
theorem run_hit_updated (h : checkPTEPermission ac priv mxr doSum (pteFlags e.pte) = .ok true)
    (hx : updatePTEBits e.pte ac = some x) (hd : platEnableDirtyUpdate = true)
    (hw : PteWritable s p (e.pteAddr.setWidth xlen)) :
    (translateTLBHit p va ac priv mxr doSum i e).run s
      = .ok (.TR_Address (e.translate va),
          storePTE (updatedEntry s i e x) p (e.pteAddr.setWidth xlen) x) := by
  have hw' : PteWritable (updatedEntry s i e x) p (e.pteAddr.setWidth xlen) :=
    hw.congr ⟨rfl, rfl⟩
  rw [run_hit_of_allowed h, hx]
  simp only [hd, Bool.not_true, Bool.false_eq_true, if_false]
  have hwrite : (writeTLB i { e with pte := x }).run s = .ok ((), updatedEntry s i e x) := rfl
  rw [Exec.run_bind_of_ok hwrite, Exec.run_bind_of_ok (run_writePte hw' x)]
  rfl

/-- A miss whose walk fails. -/
theorem run_miss_of_failure {f : PTWError}
    (h : ptWalk s p va ac priv mxr doSum ptb (p.levels - 1) false = .ok (.PTW_Failure f)) :
    (translateTLBMiss p asid ptb va ac priv mxr doSum).run s = .ok (.TR_Failure f, s) := by
  unfold translateTLBMiss
  have hwalk : (Exec.checks (fun s : State => ptWalk s p va ac priv mxr doSum ptb (p.levels - 1)
      false)).run s = .ok (.PTW_Failure f, s) := Exec.run_checks_ok.mpr ⟨h, rfl⟩
  rw [Exec.run_bind_of_ok hwalk]
  rfl

/-- A miss whose walk aborts. -/
theorem run_miss_of_error {err : ModelError}
    (h : ptWalk s p va ac priv mxr doSum ptb (p.levels - 1) false = .error err) :
    (translateTLBMiss p asid ptb va ac priv mxr doSum).run s = .error err := by
  unfold translateTLBMiss
  apply Exec.run_bind_of_error
  rw [Exec.run_checks, h]
  rfl

/-- A miss whose walk succeeds. -/
theorem run_miss_of_success
    (h : ptWalk s p va ac priv mxr doSum ptb (p.levels - 1) false = .ok (.PTW_Success o)) :
    (translateTLBMiss p asid ptb va ac priv mxr doSum).run s
      = (match updatePTEBits o.pte ac with
        | none => do
            addToTLB asid va o.pAddr o.pte o.pteAddr o.level o.global p.vpnSizeBits
            pure (.TR_Address o.pAddr)
        | some pte' =>
            if !platEnableDirtyUpdate then pure (.TR_Failure .PTW_PTE_Update)
            else do
              match ← writePte p (o.pteAddr.setWidth xlen) pte' with
              | .MemValue _ =>
                  addToTLB asid va o.pAddr pte' o.pteAddr o.level o.global p.vpnSizeBits
                  pure (.TR_Address o.pAddr)
              | .MemException _ => pure (.TR_Failure .PTW_Access)
          : M (TRResult (BitVec 64) PTWError)).run s := by
  unfold translateTLBMiss
  have hwalk : (Exec.checks (fun s : State => ptWalk s p va ac priv mxr doSum ptb (p.levels - 1)
      false)).run s = .ok (.PTW_Success o, s) := Exec.run_checks_ok.mpr ⟨h, rfl⟩
  exact (Exec.run_bind_of_ok hwalk).trans rfl

/-- The level of a walk. -/
theorem level_le_of_ptWalk
    (h : ptWalk s p va ac priv mxr doSum ptb (p.levels - 1) false = .ok (.PTW_Success o)) :
    o.level ≤ p.levels - 1 := by
  obtain ⟨l, hl, hleaf⟩ := leafAt_of_ptWalk h
  obtain ⟨-, -, rfl⟩ := ptwLeaf_success hleaf
  exact hl.level_le

/-- The PTE of a walk is in memory. -/
theorem read_of_ptWalk
    (h : ptWalk s p va ac priv mxr doSum ptb (p.levels - 1) false = .ok (.PTW_Success o)) :
    readPTE s p o.pteAddr = .ok (some o.pte) := by
  obtain ⟨l, hl, hleaf⟩ := leafAt_of_ptWalk h
  obtain ⟨-, -, rfl⟩ := ptwLeaf_success hleaf
  exact hl.read

/-- The PTE of a walk lies in an aligned slot. -/
theorem slotAligned_of_ptWalk (hp : p.Valid) (hptb : 2 ^ 12 ∣ ptb.toNat)
    (h : ptWalk s p va ac priv mxr doSum ptb (p.levels - 1) false = .ok (.PTW_Success o)) :
    SlotAligned p o.pteAddr := by
  obtain ⟨l, hl, hleaf⟩ := leafAt_of_ptWalk h
  obtain ⟨-, -, rfl⟩ := ptwLeaf_success hleaf
  exact hl.slotAligned hp hptb

/-- A miss that needs no update. -/
theorem run_miss_clean (hp : p.Valid)
    (h : ptWalk s p va ac priv mxr doSum ptb (p.levels - 1) false = .ok (.PTW_Success o))
    (hx : updatePTEBits o.pte ac = none) :
    (translateTLBMiss p asid ptb va ac priv mxr doSum).run s
      = .ok (.TR_Address o.pAddr, addedEntry s p asid va o.pte o) := by
  rw [run_miss_of_success h, hx]
  simp only
  rw [Exec.run_bind_of_ok (run_addToTLB hp (level_le_of_ptWalk h) o.pte)]
  rfl

/-- A miss that needs an update in a build without it. -/
theorem run_miss_fixed
    (h : ptWalk s p va ac priv mxr doSum ptb (p.levels - 1) false = .ok (.PTW_Success o))
    (hx : updatePTEBits o.pte ac = some x) (hd : platEnableDirtyUpdate = false) :
    (translateTLBMiss p asid ptb va ac priv mxr doSum).run s
      = .ok (.TR_Failure .PTW_PTE_Update, s) := by
  rw [run_miss_of_success h, hx]
  simp only [hd]
  rfl

/-- A miss that is updated. -/
theorem run_miss_updated (hp : p.Valid)
    (h : ptWalk s p va ac priv mxr doSum ptb (p.levels - 1) false = .ok (.PTW_Success o))
    (hx : updatePTEBits o.pte ac = some x) (hd : platEnableDirtyUpdate = true)
    (hw : PteWritable s p (o.pteAddr.setWidth xlen)) :
    (translateTLBMiss p asid ptb va ac priv mxr doSum).run s
      = .ok (.TR_Address o.pAddr,
          addedEntry (storePTE s p (o.pteAddr.setWidth xlen) x) p asid va x o) := by
  rw [run_miss_of_success h, hx]
  simp only [hd, Bool.not_true, Bool.false_eq_true, if_false]
  rw [Exec.run_bind_of_ok (run_writePte hw x)]
  simp only
  rw [Exec.run_bind_of_ok (run_addToTLB hp (level_le_of_ptWalk h) x)]
  rfl

/-- A translation that misses. -/
theorem run_translate_miss (h : lookupTLB s asid va = none) :
    (translate p asid ptb va ac priv mxr doSum).run s
      = (translateTLBMiss p asid ptb va ac priv mxr doSum).run s := by
  unfold translate
  have hlook : (Exec.reads (fun s => lookupTLB s asid va) : M _).run s = .ok (none, s) := by
    rw [Exec.run_reads, h]
  rw [Exec.run_bind_of_ok hlook]

/-- A translation that hits. -/
theorem run_translate_hit (h : lookupTLB s asid va = some (i, e)) :
    (translate p asid ptb va ac priv mxr doSum).run s
      = (translateTLBHit p va ac priv mxr doSum i e).run s := by
  unfold translate
  have hlook : (Exec.reads (fun s => lookupTLB s asid va) : M _).run s = .ok (some (i, e), s) := by
    rw [Exec.run_reads, h]
  rw [Exec.run_bind_of_ok hlook]

end Runs

/-! ## The translation of an access -/

/-- Translation is on for an access, with these parameters and this effective privilege, and
the address is valid. -/
structure Translates (s : State) (va : Xlenbits) (ac : AccessType) (p : SVParams)
    (priv : Privilege) : Prop where
  priv_eq : effectivePrivilege ac s.mstatus s.curPrivilege = .ok priv
  mode_eq : ∃ mode, translationMode s priv = .ok mode ∧ svParams mode = some p
    ∧ (mode == .Sv32 || isValidVAddr p (va.setWidth 64)) = true

/-- Translation is off for an access. -/
structure TranslationOff (s : State) (ac : AccessType) : Prop where
  mode_eq : ∃ priv mode, effectivePrivilege ac s.mstatus s.curPrivilege = .ok priv
    ∧ translationMode s priv = .ok mode ∧ svParams mode = none

/-- The translation of an address under the current `satp` and `mstatus`. -/
def translateIn (s : State) (p : SVParams) (va : Xlenbits) (ac : AccessType) (priv : Privilege) :
    M (TRResult (BitVec 64) PTWError) :=
  translate p (satpToAsid s.satp) (satpToPTBase s.satp) (va.setWidth 64) ac priv
    (Mstatus.MXR.get s.mstatus == 1#1) (Mstatus.SUM.get s.mstatus == 1#1)

/-- The result of a translation, as the instructions see it. -/
def trResult (ac : AccessType) : TRResult (BitVec 64) PTWError → TRResult Xlenbits ExceptionType
  | .TR_Address pa => .TR_Address (pa.setWidth xlen)
  | .TR_Failure f => .TR_Failure (translationException ac f)

section TranslateAddr

variable {s s' : State} {va : Xlenbits} {ac : AccessType} {p p' : SVParams}
  {priv priv' : Privilege} {r : TRResult Xlenbits ExceptionType}

omit [Platform] in
/-- The modes that translate have the parameters of the model. -/
theorem valid_of_svParams {mode : SATPMode} (h : svParams mode = some p) : p.Valid := by
  cases mode with
  | Sbare => cases h
  | Sv32 => cases h; exact Or.inl rfl
  | Sv39 => cases h; exact Or.inr (Or.inl rfl)
  | Sv48 => cases h; exact Or.inr (Or.inr rfl)

theorem Translates.valid (h : Translates s va ac p priv) : p.Valid := by
  obtain ⟨mode, -, hp, -⟩ := h.mode_eq
  exact valid_of_svParams hp

/-- The parameters and the privilege of an access are determined. -/
theorem Translates.unique (h : Translates s va ac p priv) (h' : Translates s va ac p' priv') :
    p' = p ∧ priv' = priv := by
  have hpriv : priv' = priv := by
    have := h.priv_eq.symm.trans h'.priv_eq
    cases this
    rfl
  subst hpriv
  obtain ⟨mode, hmode, hp, -⟩ := h.mode_eq
  obtain ⟨mode', hmode', hp', -⟩ := h'.mode_eq
  rw [hmode] at hmode'
  cases hmode'
  rw [hp] at hp'
  cases hp'
  exact ⟨rfl, rfl⟩

/-- An access that translates. -/
theorem run_translateAddr_of_translates (h : Translates s va ac p priv) :
    (translateAddr va ac).run s
      = (translateIn s p va ac priv >>= fun r => pure (trResult ac r)).run s := by
  obtain ⟨hpriv, mode, hmode, hp, hvalid⟩ := h
  unfold translateAddr
  have h₁ : (Exec.checks (fun s : State => effectivePrivilege ac s.mstatus s.curPrivilege)).run s
      = .ok (priv, s) := Exec.run_checks_ok.mpr ⟨hpriv, rfl⟩
  have h₂ : (Exec.checks (fun s : State => translationMode s priv)).run s = .ok (mode, s) :=
    Exec.run_checks_ok.mpr ⟨hmode, rfl⟩
  rw [Exec.run_bind_of_ok h₁, Exec.run_bind_of_ok h₂]
  simp only [hp, hvalid, Bool.not_true, Bool.false_eq_true, if_false]
  have hget : (get : M State).run s = .ok (s, s) := rfl
  rw [Exec.run_bind_of_ok hget]
  unfold translateIn
  congr 1
  congr 1
  funext r
  cases r <;> rfl

/-- An access that does not translate goes to the address itself. -/
theorem run_translateAddr_of_off (h : TranslationOff s ac) (va : Xlenbits) :
    (translateAddr va ac).run s = .ok (.TR_Address va, s) := by
  obtain ⟨priv, mode, hpriv, hmode, hp⟩ := h
  unfold translateAddr
  have h₁ : (Exec.checks (fun s : State => effectivePrivilege ac s.mstatus s.curPrivilege)).run s
      = .ok (priv, s) := Exec.run_checks_ok.mpr ⟨hpriv, rfl⟩
  have h₂ : (Exec.checks (fun s : State => translationMode s priv)).run s = .ok (mode, s) :=
    Exec.run_checks_ok.mpr ⟨hmode, rfl⟩
  rw [Exec.run_bind_of_ok h₁, Exec.run_bind_of_ok h₂]
  simp only [hp]
  rfl

/-- **What an access to a virtual address does**: nothing but report the address or a failure
when translation is off or the address is invalid, and otherwise a translation. -/
theorem translateAddr_cases (h : (translateAddr va ac).run s = .ok (r, s')) :
    (s' = s ∧ (∀ p priv, ¬ Translates s va ac p priv)
        ∧ ((TranslationOff s ac ∧ r = .TR_Address va)
          ∨ ∃ f, r = .TR_Failure (translationException ac f)))
      ∨ ∃ p priv r', Translates s va ac p priv
        ∧ (translateIn s p va ac priv).run s = .ok (r', s') ∧ r = trResult ac r' := by
  by_cases htr : ∃ p priv, Translates s va ac p priv
  · obtain ⟨p, priv, htr⟩ := htr
    rw [run_translateAddr_of_translates htr] at h
    obtain ⟨r', s₁, hrun, hr⟩ := Exec.run_bind_ok.mp h
    cases hr
    exact Or.inr ⟨p, priv, r', htr, hrun, rfl⟩
  · left
    unfold translateAddr at h
    obtain ⟨priv, s₁, h₁, hrun⟩ := Exec.run_bind_ok.mp h
    obtain ⟨hpriv, rfl⟩ := Exec.run_checks_ok.mp h₁
    obtain ⟨mode, s₂, h₂, hrest⟩ := Exec.run_bind_ok.mp hrun
    obtain ⟨hmode, rfl⟩ := Exec.run_checks_ok.mp h₂
    cases hp : svParams mode with
    | none =>
        rw [hp] at hrest
        cases hrest
        exact ⟨rfl, fun p priv h => htr ⟨p, priv, h⟩,
          Or.inl ⟨⟨priv, mode, hpriv, hmode, hp⟩, rfl⟩⟩
    | some p =>
        rw [hp] at hrest
        simp only at hrest
        cases hvalid : (mode == .Sv32 || isValidVAddr p (va.setWidth 64)) with
        | true => exact absurd ⟨p, priv, hpriv, mode, hmode, hp, hvalid⟩ htr
        | false =>
            rw [hvalid] at hrest
            cases hrest
            exact ⟨rfl, fun p priv h => htr ⟨p, priv, h⟩, Or.inr ⟨_, rfl⟩⟩

end TranslateAddr

end SailRiscv
