/-
# Translation within a page

The translation of an address depends on its page only: two addresses of one page are
translated to the same page, each with its own offset (`translateAddr_samePage`).
-/
import SailRiscv.VmemRuns

namespace SailRiscv

open Bits Platform

/-! ## Pages and offsets -/

/-- Two addresses lie in one page. -/
def SamePage {w : ℕ} (a b : BitVec w) : Prop := a.toNat / 2 ^ 12 = b.toNat / 2 ^ 12

/-- Addresses of one page agree in all bits but the offset. -/
theorem SamePage.getLsbD {w : ℕ} {a b : BitVec w} (h : SamePage a b) {i : ℕ} (hi : 12 ≤ i) :
    a.getLsbD i = b.getLsbD i := by
  have hbit := congrArg (fun n => n.testBit (i - 12)) h
  simp only [Nat.testBit_div_two_pow] at hbit
  rwa [show i - 12 + 12 = i by omega, BitVec.testBit_toNat, BitVec.testBit_toNat] at hbit

theorem samePage_refl {w : ℕ} (a : BitVec w) : SamePage a a := rfl

theorem SamePage.symm {w : ℕ} {a b : BitVec w} (h : SamePage a b) : SamePage b a := Eq.symm h

/-- The address `a` with the offset of `va` in its page. -/
def withOffset (a va : BitVec 64) : BitVec 64 := setRange a 0 (offsetOfVa va)

theorem getLsbD_withOffset (a va : BitVec 64) (i : ℕ) (hi : i < 64) :
    (withOffset a va).getLsbD i = if i < 12 then va.getLsbD i else a.getLsbD i := by
  unfold withOffset offsetOfVa
  rw [getLsbD_setRange, BitVec.getLsbD_extractLsb']
  by_cases h : i < 12
  · simp [h, hi]
  · simp [h]

/-- Taking another offset moves the address by as much. -/
theorem withOffset_add {a va va' : BitVec 64} (h : SamePage va va') (ha : withOffset a va = a) :
    withOffset a va' + va = a + va' := by
  have hlow (b v : BitVec 64) : (withOffset b v).toNat = b.toNat / 2 ^ 12 * 2 ^ 12 + v.toNat % 2 ^ 12 := by
    have hlt : v.toNat % 2 ^ 12 < 2 ^ 12 := Nat.mod_lt _ (by decide)
    apply Nat.eq_of_testBit_eq
    intro i
    rw [BitVec.testBit_toNat, Nat.mul_comm, Nat.testBit_two_pow_mul_add _ hlt]
    by_cases hi : i < 64
    · rw [getLsbD_withOffset b v i hi]
      by_cases h12 : i < 12
      · rw [if_pos h12, if_pos h12, Nat.testBit_mod_two_pow, BitVec.testBit_toNat]
        simp [h12]
      · rw [if_neg h12, if_neg h12, Nat.testBit_div_two_pow, show i - 12 + 12 = i by omega,
          BitVec.testBit_toNat]
    · rw [BitVec.getLsbD_of_ge _ i (by omega), if_neg (by omega), Nat.testBit_div_two_pow,
        show i - 12 + 12 = i by omega, BitVec.testBit_toNat, BitVec.getLsbD_of_ge _ i (by omega)]
  have h1 := hlow a va
  rw [ha] at h1
  have h2 := hlow a va'
  unfold SamePage at h
  apply BitVec.eq_of_toNat_eq
  rw [BitVec.toNat_add, BitVec.toNat_add]
  congr 1
  omega

variable [Platform]

/-! ## The walk -/

/-- The result of a walk with another offset. -/
def PTWResult.withOffset (r : PTWResult) (va : BitVec 64) : PTWResult :=
  match r with
  | .PTW_Success o => .PTW_Success { o with pAddr := SailRiscv.withOffset o.pAddr va }
  | .PTW_Failure f => .PTW_Failure f

/-- The result of a translation with another offset. -/
def TRResult.withOffset (r : TRResult (BitVec 64) PTWError) (va : BitVec 64) :
    TRResult (BitVec 64) PTWError :=
  match r with
  | .TR_Address a => .TR_Address (SailRiscv.withOffset a va)
  | .TR_Failure f => .TR_Failure f

section Walk

variable {s : State} {p : SVParams} {va va' : BitVec 64} {ac : AccessType} {priv : Privilege}
  {mxr doSum : Bool}

omit [Platform] in
/-- The address of a leaf has the offset of the virtual address. -/
theorem withOffset_leafAddr (h : SamePage va va') (pte : BitVec 64) (level : ℕ) :
    leafAddr p va' pte level = withOffset (leafAddr p va pte level) va' := by
  have hvpns : vpnsOfVa p va' = vpnsOfVa p va := by
    unfold vpnsOfVa pagesizeBits
    apply BitVec.eq_of_getLsbD_eq
    intro i _
    rw [BitVec.getLsbD_ushiftRight, BitVec.getLsbD_ushiftRight, BitVec.getLsbD_and,
      BitVec.getLsbD_and, h.getLsbD (by omega)]
  unfold leafAddr
  rw [hvpns]
  apply BitVec.eq_of_getLsbD_eq
  intro i hi
  rw [getLsbD_withOffset _ _ i hi]
  unfold offsetOfVa pagesizeBits
  simp only [BitVec.getLsbD_or, BitVec.getLsbD_shiftLeft, BitVec.getLsbD_setWidth,
    BitVec.getLsbD_extractLsb']
  by_cases h12 : i < 12
  · simp [h12, hi]
  · simp [h12]

omit [Platform] in
theorem ptwLeaf_samePage (h : SamePage va va') (pte pteAddr : BitVec 64) (level : ℕ)
    (global : Bool) :
    ptwLeaf p va' ac priv mxr doSum pte pteAddr level global
      = (ptwLeaf p va ac priv mxr doSum pte pteAddr level global).map (·.withOffset va') := by
  have haddr := withOffset_leafAddr (p := p) h pte level
  unfold leafAddr at haddr
  unfold ptwLeaf
  cases checkPTEPermission ac priv mxr doSum (pteFlags pte) with
  | error e => rfl
  | ok b =>
      cases b with
      | false => rfl
      | true =>
          simp only [bind, Except.bind, Bool.not_true, Bool.false_eq_true, if_false]
          by_cases hl : 0 < level
          · simp only [hl, if_true] at haddr ⊢
            split
            · rfl
            · rw [haddr]
              rfl
          · simp only [hl, if_false] at haddr ⊢
            rw [haddr]
            rfl

/-- **The walk of two addresses of one page** differs in the offset only. -/
theorem ptWalk_samePage (h : SamePage va va') (base : BitVec 64) (level : ℕ) (global : Bool) :
    ptWalk s p va' ac priv mxr doSum base level global
      = (ptWalk s p va ac priv mxr doSum base level global).map (·.withOffset va') := by
  have hvpn (level : ℕ) : vpnJOfVa p va' level = vpnJOfVa p va level := by
    have hindex : (va' >>> (12 + level * p.vpnSizeBits)) &&& lowOnes 64 p.vpnSizeBits
        = (va >>> (12 + level * p.vpnSizeBits)) &&& lowOnes 64 p.vpnSizeBits := by
      apply BitVec.eq_of_getLsbD_eq
      intro i _
      rw [BitVec.getLsbD_and, BitVec.getLsbD_and, BitVec.getLsbD_ushiftRight,
        BitVec.getLsbD_ushiftRight, h.getLsbD (by omega)]
    unfold vpnJOfVa pagesizeBits
    simp only [hindex]
  induction level generalizing base global with
  | zero =>
      rw [ptWalk.eq_def, ptWalk.eq_def s p va, hvpn]
      cases vpnJOfVa p va 0 with
      | error e => rfl
      | ok v =>
          simp only [bind, Except.bind]
          cases readPTE s p (base + (v <<< p.logPteSizeBytes)) with
          | error e => rfl
          | ok r =>
              cases r with
              | none => rfl
              | some pte =>
                  simp only
                  split
                  · rfl
                  · split
                    · rfl
                    · exact ptwLeaf_samePage h _ _ _ _
  | succ level ih =>
      rw [ptWalk.eq_def, ptWalk.eq_def s p va, hvpn]
      cases vpnJOfVa p va (level + 1) with
      | error e => rfl
      | ok v =>
          simp only [bind, Except.bind]
          cases readPTE s p (base + (v <<< p.logPteSizeBytes)) with
          | error e => rfl
          | ok r =>
              cases r with
              | none => rfl
              | some pte =>
                  simp only
                  split
                  · rfl
                  · split
                    · exact ih _ _
                    · exact ptwLeaf_samePage h _ _ _ _

end Walk

/-! ## The translation -/

section Translation

variable {s s' : State} {p : SVParams} {asid : BitVec 16} {ptb va va' : BitVec 64}
  {ac : AccessType} {priv : Privilege} {mxr doSum : Bool}

/-- The outcome of a translation with another offset. -/
def outcomeWithOffset (va : BitVec 64)
    (r : Except ModelError (TRResult (BitVec 64) PTWError × State)) :
    Except ModelError (TRResult (BitVec 64) PTWError × State) :=
  r.map (fun x => (x.1.withOffset va, x.2))

omit [Platform] in
theorem tlbHash_samePage (h : SamePage va va') : tlbHash va' = tlbHash va := by
  unfold tlbHash
  congr 1
  apply BitVec.eq_of_getLsbD_eq
  intro i _
  rw [BitVec.getLsbD_extractLsb', BitVec.getLsbD_extractLsb', h.getLsbD (by omega)]

omit [Platform] in
theorem matchTLBEntry_samePage (h : SamePage va va') (e : TLBEntry) :
    matchTLBEntry e asid va' = matchTLBEntry e asid va := by
  obtain ⟨shift, hshift, -, hmask, -⟩ := e.pages
  unfold pagesizeBits at hshift
  have hand : e.vMatchMask &&& va' = e.vMatchMask &&& va := by
    rw [hmask]
    apply BitVec.eq_of_getLsbD_eq
    intro i _
    rw [BitVec.getLsbD_and, BitVec.getLsbD_and, BitVec.getLsbD_not, getLsbD_lowOnes]
    by_cases hi : i < 12
    · simp [show i < shift by omega]
    · rw [h.getLsbD (by omega)]
  unfold matchTLBEntry
  rw [hand]

omit [Platform] in
/-- The address that an entry gives has the offset of the virtual address. -/
theorem translate_samePage_entry (h : SamePage va va') (e : TLBEntry) :
    e.translate va' = withOffset (e.translate va) va' := by
  obtain ⟨shift, hshift, hmask, -, hpAddr⟩ := e.pages
  unfold pagesizeBits at hshift
  unfold TLBEntry.translate
  rw [hmask]
  apply BitVec.eq_of_getLsbD_eq
  intro i hi
  rw [getLsbD_withOffset _ _ i hi, BitVec.getLsbD_or, BitVec.getLsbD_or, BitVec.getLsbD_and,
    BitVec.getLsbD_and, getLsbD_lowOnes]
  by_cases h12 : i < 12
  · have hbit := congrArg (fun v => v.getLsbD i) hpAddr
    simp only [BitVec.getLsbD_and, getLsbD_lowOnes] at hbit
    have hlow : e.pAddr.getLsbD i = false := by
      simpa [hi, show i < shift by omega] using hbit
    rw [if_pos h12, hlow]
    simp [hi, show i < shift by omega]
  · rw [if_neg h12, h.getLsbD (by omega)]

theorem lookupTLB_samePage (h : SamePage va va') : lookupTLB s asid va' = lookupTLB s asid va := by
  unfold lookupTLB
  rw [tlbHash_samePage h]
  cases s.tlb (tlbHash va) with
  | none => rfl
  | some e => simp only [matchTLBEntry_samePage h]

omit [Platform] in
/-- The entry of a page does not depend on the offset. -/
theorem mkTLBEntry_samePage (h : SamePage va va') (a pte pteAddr age : BitVec 64) {shift : ℕ}
    (hshift : pagesizeBits ≤ shift) (global : Bool) :
    mkTLBEntry asid va' (withOffset a va') pte pteAddr shift hshift global age
      = mkTLBEntry asid va a pte pteAddr shift hshift global age := by
  have hle : 12 ≤ shift := hshift
  have hmask {x y : BitVec 64} (hxy : ∀ i < 64, 12 ≤ i → x.getLsbD i = y.getLsbD i) :
      x &&& ~~~lowOnes 64 shift = y &&& ~~~lowOnes 64 shift := by
    apply BitVec.eq_of_getLsbD_eq
    intro i hi
    rw [BitVec.getLsbD_and, BitVec.getLsbD_and, BitVec.getLsbD_not, getLsbD_lowOnes]
    by_cases h12 : i < 12
    · simp [show i < shift by omega]
    · rw [hxy i hi (by omega)]
  unfold mkTLBEntry
  congr 1
  · exact hmask (fun i _ h12 => (h.getLsbD h12).symm)
  · refine hmask (fun i hi h12 => ?_)
    rw [getLsbD_withOffset _ _ i hi, if_neg (by omega)]

theorem run_hit_samePage (h : SamePage va va') (i : Fin 64) (e : TLBEntry) :
    (translateTLBHit p va' ac priv mxr doSum i e).run s
      = outcomeWithOffset va' ((translateTLBHit p va ac priv mxr doSum i e).run s) := by
  have haddr := translate_samePage_entry h e
  cases hperm : checkPTEPermission ac priv mxr doSum (pteFlags e.pte) with
  | error err =>
      have herr (va : BitVec 64) :
          (translateTLBHit p va ac priv mxr doSum i e).run s = .error err := by
        unfold translateTLBHit
        apply Exec.run_bind_of_error
        rw [Exec.run_checks, hperm]
        rfl
      rw [herr, herr]
      rfl
  | ok b =>
      cases b with
      | false =>
          rw [run_hit_of_denied hperm, run_hit_of_denied hperm]
          rfl
      | true =>
          rw [run_hit_of_allowed hperm, run_hit_of_allowed hperm, haddr]
          cases updatePTEBits e.pte ac with
          | none => rfl
          | some x =>
              cases platEnableDirtyUpdate with
              | false => rfl
              | true =>
                  simp only [Bool.not_true, Bool.false_eq_true, if_false]
                  have hwrite : (writeTLB i { e with pte := x }).run s
                      = .ok ((), updatedEntry s i e x) := rfl
                  rw [Exec.run_bind_of_ok hwrite, Exec.run_bind_of_ok hwrite]
                  cases hpte : (writePte p (e.pteAddr.setWidth xlen) x).run
                      (updatedEntry s i e x) with
                  | error err =>
                      rw [Exec.run_bind_of_error hpte, Exec.run_bind_of_error hpte]
                      rfl
                  | ok r =>
                      rw [Exec.run_bind_of_ok hpte, Exec.run_bind_of_ok hpte]
                      cases r.1 <;> rfl

theorem run_miss_samePage (h : SamePage va va') :
    (translateTLBMiss p asid ptb va' ac priv mxr doSum).run s
      = outcomeWithOffset va' ((translateTLBMiss p asid ptb va ac priv mxr doSum).run s) := by
  have hwalk' : ptWalk s p va' ac priv mxr doSum ptb (p.levels - 1) false = _ :=
    ptWalk_samePage h ptb (p.levels - 1) false
  have hadd (o : PTWOutput) (x : BitVec 64) (s : State) :
      (addToTLB asid va' (withOffset o.pAddr va') x o.pteAddr o.level o.global p.vpnSizeBits).run s
        = (addToTLB asid va o.pAddr x o.pteAddr o.level o.global p.vpnSizeBits).run s := by
    unfold addToTLB
    simp only [mkTLBEntry_samePage h, tlbHash_samePage h]
  cases hwalk : ptWalk s p va ac priv mxr doSum ptb (p.levels - 1) false with
  | error err =>
      rw [hwalk] at hwalk'
      rw [run_miss_of_error hwalk, run_miss_of_error hwalk']
      rfl
  | ok w =>
      rw [hwalk] at hwalk'
      cases w with
      | PTW_Failure f =>
          rw [run_miss_of_failure hwalk, run_miss_of_failure hwalk']
          rfl
      | PTW_Success o =>
          rw [run_miss_of_success hwalk, run_miss_of_success hwalk']
          simp only
          cases updatePTEBits o.pte ac with
          | none =>
              simp only
              cases hrun : (addToTLB asid va o.pAddr o.pte o.pteAddr o.level o.global
                  p.vpnSizeBits).run s with
              | error err =>
                  rw [Exec.run_bind_of_error hrun, Exec.run_bind_of_error ((hadd o _ s).trans hrun)]
                  rfl
              | ok r =>
                  rw [Exec.run_bind_of_ok hrun, Exec.run_bind_of_ok ((hadd o _ s).trans hrun)]
                  rfl
          | some x =>
              cases platEnableDirtyUpdate with
              | false => rfl
              | true =>
                  simp only [Bool.not_true, Bool.false_eq_true, if_false]
                  cases hpte : (writePte p (o.pteAddr.setWidth xlen) x).run s with
                  | error err =>
                      rw [Exec.run_bind_of_error hpte, Exec.run_bind_of_error hpte]
                      rfl
                  | ok r =>
                      rw [Exec.run_bind_of_ok hpte, Exec.run_bind_of_ok hpte]
                      obtain ⟨r, s₁⟩ := r
                      cases r with
                      | MemException err => rfl
                      | MemValue b =>
                          simp only
                          cases hrun : (addToTLB asid va o.pAddr x o.pteAddr o.level o.global
                              p.vpnSizeBits).run s₁ with
                          | error err =>
                              rw [Exec.run_bind_of_error hrun,
                                Exec.run_bind_of_error ((hadd o _ s₁).trans hrun)]
                              rfl
                          | ok r =>
                              rw [Exec.run_bind_of_ok hrun,
                                Exec.run_bind_of_ok ((hadd o _ s₁).trans hrun)]
                              rfl

/-- **The translations of two addresses of one page** differ in the offset only. -/
theorem run_translate_samePage (h : SamePage va va') :
    (translate p asid ptb va' ac priv mxr doSum).run s
      = outcomeWithOffset va' ((translate p asid ptb va ac priv mxr doSum).run s) := by
  cases hlook : lookupTLB s asid va with
  | none =>
      rw [run_translate_miss hlook, run_translate_miss ((lookupTLB_samePage h).trans hlook)]
      exact run_miss_samePage h
  | some ie =>
      rw [run_translate_hit hlook, run_translate_hit ((lookupTLB_samePage h).trans hlook)]
      exact run_hit_samePage h ie.1 ie.2

end Translation

section TranslateAddr

variable {s : State} {va va' pa : Xlenbits} {ac : AccessType} {p : SVParams} {priv : Privilege}

/-- The translation of `va` in the state `s` gives `pa`. -/
def TranslatesTo (s : State) (va : Xlenbits) (ac : AccessType) (pa : Xlenbits) : Prop :=
  ∃ s', (translateAddr va ac).run s = .ok (.TR_Address pa, s')

theorem samePage_setWidth (h : SamePage va va') :
    SamePage (va.setWidth 64) (va'.setWidth 64) := by
  have hx := xlen_le
  have hlt {v : Xlenbits} : v.toNat < 2 ^ 64 :=
    lt_of_lt_of_le v.isLt (Nat.pow_le_pow_right (by decide) hx)
  unfold SamePage at h ⊢
  rwa [BitVec.toNat_setWidth, BitVec.toNat_setWidth, Nat.mod_eq_of_lt hlt, Nat.mod_eq_of_lt hlt]

omit [Platform] in
/-- Addresses of one page are valid together. -/
theorem isValidVAddr_samePage (hp : p.Valid) {v v' : BitVec 64} (h : SamePage v v') :
    isValidVAddr p v' = isValidVAddr p v := by
  have hsize : 13 ≤ p.vaSizeBits ∧ p.vaSizeBits ≤ 64 := by
    rcases hp with rfl | rfl | rfl <;> decide
  have hiff (x : BitVec 64) : isValidVAddr p x = true
      ↔ ∀ i < 64, p.vaSizeBits ≤ i → x.getLsbD i = x.getLsbD (p.vaSizeBits - 1) := by
    unfold isValidVAddr
    rw [beq_iff_eq]
    have hbit (i : ℕ) (hi : i < 64) : ((x.setWidth p.vaSizeBits).signExtend 64).getLsbD i
        = if i < p.vaSizeBits then x.getLsbD i else x.getLsbD (p.vaSizeBits - 1) := by
      rw [BitVec.getLsbD_signExtend, BitVec.msb_setWidth, BitVec.getLsbD_setWidth]
      by_cases hlt : i < p.vaSizeBits
      · simp [hi, hlt]
      · simp [hi, hlt, show 0 < p.vaSizeBits by omega]
    constructor
    · intro heq i hi hle
      have := congrArg (fun v => v.getLsbD i) heq
      simp only [hbit i hi] at this
      rwa [if_neg (by omega)] at this
    · intro hbits
      apply BitVec.eq_of_getLsbD_eq
      intro i hi
      rw [hbit i hi]
      by_cases hlt : i < p.vaSizeBits
      · rw [if_pos hlt]
      · rw [if_neg hlt]
        exact hbits i hi (by omega)
  rw [Bool.eq_iff_iff, hiff, hiff]
  constructor
  · intro hv i hi hle
    rw [h.getLsbD (by omega), hv i hi hle, h.getLsbD (by omega)]
  · intro hv i hi hle
    rw [← h.getLsbD (by omega), hv i hi hle, h.getLsbD (by omega)]

theorem Translates.samePage (h : SamePage va va') (htr : Translates s va ac p priv) :
    Translates s va' ac p priv := by
  obtain ⟨mode, hmode, hp, hvalid⟩ := htr.mode_eq
  refine ⟨htr.priv_eq, mode, hmode, hp, ?_⟩
  rwa [isValidVAddr_samePage htr.valid (samePage_setWidth h)]

theorem run_translateIn_samePage (h : SamePage va va') :
    (translateIn s p va' ac priv).run s
      = outcomeWithOffset (va'.setWidth 64) ((translateIn s p va ac priv).run s) := by
  unfold translateIn
  exact run_translate_samePage (samePage_setWidth h)

/-- **Translation within a page.**  An address of the page of `va` is translated to the page
of the translation of `va`, at its own offset. -/
theorem translateAddr_samePage (h : SamePage va va') (htr : TranslatesTo s va ac pa) :
    TranslatesTo s va' ac (pa + (va' - va)) := by
  obtain ⟨s', hrun⟩ := htr
  rcases translateAddr_cases hrun with ⟨rfl, -, ⟨hoff, hpa⟩ | ⟨e, he⟩⟩ | ⟨p, priv, r, htr, hr, hpa⟩
  · cases hpa
    refine ⟨s', ?_⟩
    rw [run_translateAddr_of_off hoff, add_sub_cancel]
  · cases he
  · cases r with
    | TR_Failure f => cases hpa
    | TR_Address a =>
        cases hpa
        have ha : withOffset a (va.setWidth 64) = a := by
          have hself := (run_translateIn_samePage (samePage_refl va)).symm.trans hr
          rw [hr] at hself
          unfold outcomeWithOffset at hself
          simpa [Except.map, TRResult.withOffset] using hself
        refine ⟨s', ?_⟩
        rw [run_translateAddr_of_translates (htr.samePage h)]
        have hrun' : (translateIn s p va' ac priv).run s
            = .ok (.TR_Address (withOffset a (va'.setWidth 64)), s') := by
          rw [run_translateIn_samePage h, hr]
          rfl
        rw [Exec.run_bind_of_ok hrun']
        have hadd := congrArg (BitVec.setWidth xlen) (withOffset_add (samePage_setWidth h) ha)
        rw [BitVec.setWidth_add _ _ xlen_le, BitVec.setWidth_add _ _ xlen_le,
          BitVec.setWidth_setWidth_of_le _ xlen_le, BitVec.setWidth_setWidth_of_le _ xlen_le,
          BitVec.setWidth_eq, BitVec.setWidth_eq] at hadd
        have hpa : (withOffset a (va'.setWidth 64)).setWidth xlen
            = a.setWidth xlen + (va' - va) := by
          rw [← add_sub_assoc, ← hadd, add_sub_cancel_right]
        simp only [trResult, hpa]
        rfl

end TranslateAddr

end SailRiscv
