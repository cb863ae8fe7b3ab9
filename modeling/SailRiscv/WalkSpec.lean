/-
# The reference walk

What a page-table walk is for, stated over unbounded numbers: from table to table, the PTE at
`base + VPN[j] * PTESIZE` is read, until a leaf is found or a check fails.  `RefWalk` is this
walk as a relation, with the addresses that it reads and its result.  `pt_walk` computes the
same numbers, but hands the memory only `xlen` bits of the address of a PTE.

* `RefWalk` : the reference walk;
* `walkTables` : the tables that `pt_walk` visits;
* `walkMatches_iff` : `pt_walk` is the reference walk exactly if the memory can be given the
  address of every PTE that it reads.
-/
import SailRiscv.PmpRule
import SailRiscv.VmemTlb

namespace SailRiscv

open Bits Platform

variable [Platform]

/-! ## The reference -/

section Reference

variable (s : State) (p : SVParams)

omit [Platform] in
/-- `VPN[j]` of a virtual address. -/
def refVPN (va j : ℕ) : ℕ := va / 2 ^ (pagesizeBits + j * p.vpnSizeBits) % 2 ^ p.vpnSizeBits

omit [Platform] in
/-- The address of the PTE of a virtual address in the table at `base`. -/
def refSlot (va base j : ℕ) : ℕ := base + refVPN p va j * p.pteSize

omit [Platform] in
/-- The physical page number in a PTE. -/
def refPPN (pte : BitVec 64) : ℕ := pte.toNat / 2 ^ 10 % 2 ^ p.ptePPNsSizeBits

/-- What the memory answers to a read of the PTE at the physical address `a`: beyond `xlen` bits
there is no memory. -/
def Answers (a : ℕ) (r : Option (BitVec 64)) : Prop :=
  (a < 2 ^ xlen ∧ readPTE s p (BitVec.ofNat 64 a) = .ok r) ∨ (2 ^ xlen ≤ a ∧ r = none)

omit [Platform] in
/-- A valid PTE: `V` is set, and a writable page is readable. -/
def RefValid (pte : BitVec 64) : Prop :=
  pte.getLsbD 0 = true ∧ (pte.getLsbD 2 = true → pte.getLsbD 1 = true)

omit [Platform] in
/-- A pointer to a table: none of `R`, `W` and `X` is set. -/
def RefPointer (pte : BitVec 64) : Prop :=
  pte.getLsbD 1 = false ∧ pte.getLsbD 2 = false ∧ pte.getLsbD 3 = false

/-- The access reads, writes or executes. -/
def AccessType.Reads : AccessType → Prop
  | .Read | .ReadWrite => True
  | .Write | .Execute => False

/-- The access writes. -/
def AccessType.Writes : AccessType → Prop
  | .Write | .ReadWrite => True
  | .Read | .Execute => False

omit [Platform] in
/-- The bits `R`, `W`, `X` and `U` of a leaf admit the access. -/
structure RefAdmits (ac : AccessType) (priv : Privilege) (mxr doSum : Bool) (pte : BitVec 64) :
    Prop where
  user : priv = .User → pte.getLsbD 4 = true
  supervisor : priv = .Supervisor → pte.getLsbD 4 = true → doSum = true ∧ ac ≠ .Execute
  read : ac.Reads → pte.getLsbD 1 = true ∨ (pte.getLsbD 3 = true ∧ mxr = true)
  write : ac.Writes → pte.getLsbD 2 = true
  execute : ac = .Execute → pte.getLsbD 3 = true

omit [Platform] in
/-- The leaf PPN with its low fields replaced by those of the virtual address, followed by the
offset. -/
def refPa (va : ℕ) (pte : BitVec 64) (level : ℕ) : ℕ :=
  let k := level * p.vpnSizeBits
  (refPPN p pte / 2 ^ k * 2 ^ k + va / 2 ^ pagesizeBits % 2 ^ k) * 2 ^ pagesizeBits
    + va % 2 ^ pagesizeBits

variable (va : BitVec 64) (ac : AccessType) (priv : Privilege) (mxr doSum : Bool)

/-- **The reference walk** from the table at `base`, with the addresses of the PTEs that it
reads and its result, which is that of the first check that fails. -/
inductive RefWalk : ℕ → ℕ → Bool → List ℕ → PTWResult → Prop
  | unreadable {base j : ℕ} {global : Bool}
      (hread : Answers s p (refSlot p va.toNat base j) none) :
      RefWalk base j global [refSlot p va.toNat base j] (.PTW_Failure .PTW_Access)
  | invalid {base j : ℕ} {global : Bool} {pte : BitVec 64}
      (hread : Answers s p (refSlot p va.toNat base j) (some pte)) (hvalid : ¬ RefValid pte) :
      RefWalk base j global [refSlot p va.toNat base j] (.PTW_Failure .PTW_Invalid_PTE)
  | pointer {base j : ℕ} {global : Bool} {pte : BitVec 64} {reads : List ℕ} {r : PTWResult}
      (hread : Answers s p (refSlot p va.toNat base (j + 1)) (some pte)) (hvalid : RefValid pte)
      (hptr : RefPointer pte)
      (hnext : RefWalk (refPPN p pte * 2 ^ pagesizeBits) j (global || pte.getLsbD 5) reads r) :
      RefWalk base (j + 1) global (refSlot p va.toNat base (j + 1) :: reads) r
  | noLeaf {base : ℕ} {global : Bool} {pte : BitVec 64}
      (hread : Answers s p (refSlot p va.toNat base 0) (some pte)) (hvalid : RefValid pte)
      (hptr : RefPointer pte) :
      RefWalk base 0 global [refSlot p va.toNat base 0] (.PTW_Failure .PTW_Invalid_PTE)
  | denied {base j : ℕ} {global : Bool} {pte : BitVec 64}
      (hread : Answers s p (refSlot p va.toNat base j) (some pte)) (hvalid : RefValid pte)
      (hleaf : ¬ RefPointer pte) (hadmits : ¬ RefAdmits ac priv mxr doSum pte) :
      RefWalk base j global [refSlot p va.toNat base j] (.PTW_Failure .PTW_No_Permission)
  | misaligned {base j : ℕ} {global : Bool} {pte : BitVec 64}
      (hread : Answers s p (refSlot p va.toNat base j) (some pte)) (hvalid : RefValid pte)
      (hleaf : ¬ RefPointer pte) (hadmits : RefAdmits ac priv mxr doSum pte)
      (haligned : ¬ 2 ^ (j * p.vpnSizeBits) ∣ refPPN p pte) :
      RefWalk base j global [refSlot p va.toNat base j] (.PTW_Failure .PTW_Misaligned)
  | success {base j : ℕ} {global : Bool} {pte : BitVec 64}
      (hread : Answers s p (refSlot p va.toNat base j) (some pte)) (hvalid : RefValid pte)
      (hleaf : ¬ RefPointer pte) (hadmits : RefAdmits ac priv mxr doSum pte)
      (haligned : 2 ^ (j * p.vpnSizeBits) ∣ refPPN p pte) :
      RefWalk base j global [refSlot p va.toNat base j]
        (.PTW_Success ⟨BitVec.ofNat 64 (refPa p va.toNat pte j), pte,
          BitVec.ofNat 64 (refSlot p va.toNat base j), j, global || pte.getLsbD 5⟩)

end Reference

/-! ## The numbers of the walk -/

section Numbers

variable {p : SVParams}

omit [Platform] in
/-- The index of the walk is the VPN. -/
theorem toNat_vpnAt (hp : p.Valid) (va : BitVec 64) (j : ℕ) :
    (vpnAt p va j).toNat = refVPN p va.toNat j := by
  have hle : p.vpnSizeBits ≤ 64 := by
    rcases hp with rfl | rfl | rfl <;> decide
  unfold vpnAt refVPN
  rw [BitVec.toNat_and, toNat_lowOnes _ _ hle, Nat.and_two_pow_sub_one_eq_mod,
    BitVec.toNat_ushiftRight, Nat.shiftRight_eq_div_pow]

omit [Platform] in
/-- The slot that the walk computes, in 64 bits. -/
theorem pteSlot_eq_ofNat (hp : p.Valid) (va base : BitVec 64) (j : ℕ) :
    pteSlot p va base j = BitVec.ofNat 64 (refSlot p va.toNat base.toNat j) := by
  have hsize : 2 ^ p.logPteSizeBytes = p.pteSize := rfl
  apply BitVec.eq_of_toNat_eq
  unfold pteSlot refSlot
  rw [BitVec.toNat_add, BitVec.toNat_shiftLeft, Nat.shiftLeft_eq, toNat_vpnAt hp, hsize,
    BitVec.toNat_ofNat]
  omega

omit [Platform] in
/-- The PPN that the walk reads off a PTE. -/
theorem toNat_ppnsOfPTE (hp : p.Valid) (pte : BitVec 64) :
    (ppnsOfPTE p pte).toNat = refPPN p pte := by
  have hle : p.ptePPNsSizeBits ≤ 64 := by
    rcases hp with rfl | rfl | rfl <;> decide
  unfold ppnsOfPTE refPPN
  rw [BitVec.toNat_and, toNat_lowOnes _ _ hle, Nat.and_two_pow_sub_one_eq_mod,
    BitVec.toNat_ushiftRight, Nat.shiftRight_eq_div_pow, hp.ptePPNsLsbIndex_eq]

omit [Platform] in
/-- A PPN and its page fit into 56 bits. -/
theorem refPPN_lt (hp : p.Valid) (pte : BitVec 64) : refPPN p pte < 2 ^ 44 := by
  have hmod : refPPN p pte < 2 ^ p.ptePPNsSizeBits := Nat.mod_lt _ (Nat.two_pow_pos _)
  have hle : 2 ^ p.ptePPNsSizeBits ≤ 2 ^ 44 := by
    rcases hp with rfl | rfl | rfl <;> decide
  omega

omit [Platform] in
/-- The table that a pointer names. -/
theorem toNat_nextTable (hp : p.Valid) (pte : BitVec 64) :
    (ppnsOfPTE p pte <<< pagesizeBits).toNat = refPPN p pte * 2 ^ pagesizeBits := by
  have hlt := refPPN_lt hp pte
  rw [BitVec.toNat_shiftLeft, Nat.shiftLeft_eq, toNat_ppnsOfPTE hp]
  unfold pagesizeBits
  omega

omit [Platform] in
theorem pteIsInvalid_iff (pte : BitVec 64) : pteIsInvalid (pteFlags pte) = false ↔ RefValid pte := by
  unfold pteIsInvalid RefValid
  rw [get_pteFlags pte (by decide : 0 < 8), get_pteFlags pte (by decide : 2 < 8),
    get_pteFlags pte (by decide : 1 < 8)]
  cases pte.getLsbD 0 <;> cases pte.getLsbD 1 <;> cases pte.getLsbD 2 <;> decide

omit [Platform] in
theorem pteIsPtr_iff (pte : BitVec 64) : pteIsPtr (pteFlags pte) = true ↔ RefPointer pte := by
  unfold pteIsPtr RefPointer
  rw [get_pteFlags pte (by decide : 3 < 8), get_pteFlags pte (by decide : 2 < 8),
    get_pteFlags pte (by decide : 1 < 8)]
  cases pte.getLsbD 1 <;> cases pte.getLsbD 2 <;> cases pte.getLsbD 3 <;> decide

omit [Platform] in
theorem globalAfter_eq (global : Bool) (pte : BitVec 64) :
    globalAfter global pte = (global || pte.getLsbD 5) := by
  unfold globalAfter
  rw [get_pteFlags pte (by decide : 5 < 8)]
  cases pte.getLsbD 5 <;> rfl

omit [Platform] in
/-- The permission check of the code is that of the reference. -/
theorem checkPTEPermission_eq (ac : AccessType) {priv : Privilege} (hpriv : priv ≠ .Machine)
    (mxr doSum : Bool) (pte : BitVec 64) : ∃ b, checkPTEPermission ac priv mxr doSum (pteFlags pte)
      = .ok b ∧ (b = true ↔ RefAdmits ac priv mxr doSum pte) := by
  have hadmits : RefAdmits ac priv mxr doSum pte
      ↔ (priv = .User → pte.getLsbD 4 = true)
        ∧ (priv = .Supervisor → pte.getLsbD 4 = true → doSum = true ∧ ac ≠ .Execute)
        ∧ (ac.Reads → pte.getLsbD 1 = true ∨ (pte.getLsbD 3 = true ∧ mxr = true))
        ∧ (ac.Writes → pte.getLsbD 2 = true) ∧ (ac = .Execute → pte.getLsbD 3 = true) :=
    ⟨fun h => ⟨h.user, h.supervisor, h.read, h.write, h.execute⟩,
      fun ⟨h₁, h₂, h₃, h₄, h₅⟩ => ⟨h₁, h₂, h₃, h₄, h₅⟩⟩
  have hbit (b : Bool) : (BitVec.ofBool b == 1#1) = b := by
    cases b <;> rfl
  unfold checkPTEPermission
  rw [hadmits, get_pteFlags pte (by decide : 4 < 8), get_pteFlags pte (by decide : 3 < 8),
    get_pteFlags pte (by decide : 2 < 8), get_pteFlags pte (by decide : 1 < 8)]
  simp only [hbit]
  generalize pte.getLsbD 4 = u, pte.getLsbD 3 = x, pte.getLsbD 2 = w, pte.getLsbD 1 = r
  cases priv with
  | Machine => exact absurd rfl hpriv
  | Supervisor =>
      cases ac <;> refine ⟨_, rfl, ?_⟩ <;> simp [AccessType.Reads, AccessType.Writes] <;>
        cases u <;> cases doSum <;> simp [and_comm]
  | User =>
      cases ac <;> refine ⟨_, rfl, ?_⟩ <;> simp [AccessType.Reads, AccessType.Writes]
      tauto

omit [Platform] in
/-- The check of the low PPNs is divisibility. -/
theorem superpageAligned_iff (hp : p.Valid) (pte : BitVec 64) (j : ℕ) :
    SuperpageAligned p pte j ↔ 2 ^ (j * p.vpnSizeBits) ∣ refPPN p pte := by
  have hlt := refPPN_lt hp pte
  unfold SuperpageAligned
  rw [hp.ptePPNj_eq]
  have hnat : ppnsOfPTE p pte = (ppnsOfPTE p pte >>> (j * p.vpnSizeBits)) <<< (j * p.vpnSizeBits)
      ↔ 2 ^ (j * p.vpnSizeBits) ∣ refPPN p pte := by
    rw [← BitVec.toNat_inj, BitVec.toNat_shiftLeft, BitVec.toNat_ushiftRight, Nat.shiftLeft_eq,
      Nat.shiftRight_eq_div_pow, toNat_ppnsOfPTE hp]
    have hle : refPPN p pte / 2 ^ (j * p.vpnSizeBits) * 2 ^ (j * p.vpnSizeBits) ≤ refPPN p pte :=
      Nat.div_mul_le_self _ _
    rw [Nat.mod_eq_of_lt (by omega)]
    constructor
    · intro h
      exact Dvd.intro_left _ h.symm
    · intro h
      exact (Nat.div_mul_cancel h).symm
  rw [hnat]
  constructor
  · intro h
    by_cases hj : 0 < j
    · exact h hj
    · have hj0 : j = 0 := by omega
      subst hj0
      rw [Nat.zero_mul, pow_zero]
      exact one_dvd _
  · exact fun h _ => h

omit [Platform] in
/-- The address that the walk composes. -/
theorem leafAddr_eq (hp : p.Valid) (va pte : BitVec 64) {j : ℕ} (hj : j ≤ p.levels - 1)
    (halign : 2 ^ (j * p.vpnSizeBits) ∣ refPPN p pte) :
    leafAddr p va pte j = BitVec.ofNat 64 (refPa p va.toNat pte j) := by
  have hsplit : refPa p va.toNat pte j
      = 2 ^ (pagesizeBits + j * p.vpnSizeBits) * (refPPN p pte / 2 ^ (j * p.vpnSizeBits))
        + va.toNat % 2 ^ (pagesizeBits + j * p.vpnSizeBits) := by
    unfold refPa
    dsimp only
    rw [Nat.pow_add, Nat.mod_mul]
    ring
  apply BitVec.eq_of_getLsbD_eq
  intro i hi
  rw [getLsbD_leafAddr hp hj ((superpageAligned_iff hp pte j).mpr halign) hi,
    BitVec.getLsbD_ofNat, hsplit, Nat.testBit_two_pow_mul_add _ (Nat.mod_lt _ (Nat.two_pow_pos _)),
    decide_eq_true hi, Bool.true_and]
  by_cases hlt : i < pagesizeBits + j * p.vpnSizeBits
  · rw [if_pos hlt, if_pos hlt, Nat.testBit_mod_two_pow, decide_eq_true hlt, Bool.true_and,
      BitVec.testBit_toNat]
  · rw [if_neg hlt, if_neg hlt, Nat.testBit_div_two_pow, ← toNat_ppnsOfPTE hp,
      BitVec.testBit_toNat]
    congr 1
    omega

end Numbers

/-! ## The walk of the code -/

section Walk

variable {s s' : State} {p : SVParams} {va base : BitVec 64} {ac : AccessType} {priv : Privilege}
  {mxr doSum global : Bool} {level : ℕ}

/-- The table that the PTE at `a` points to. -/
def pointerAt (s : State) (p : SVParams) (a : BitVec 64) : Option (BitVec 64) :=
  match readPTE s p a with
  | .ok (some pte) =>
      if !pteIsInvalid (pteFlags pte) && pteIsPtr (pteFlags pte)
      then some (ppnsOfPTE p pte <<< pagesizeBits) else none
  | _ => none

/-- The tables that `pt_walk` visits, each with its level. -/
def walkTables (s : State) (p : SVParams) (va : BitVec 64) : ℕ → BitVec 64 → List (BitVec 64 × ℕ)
  | 0, base => [(base, 0)]
  | level + 1, base => (base, level + 1) ::
      match pointerAt s p (pteSlot p va base (level + 1)) with
      | some next => walkTables s p va level next
      | none => []

/-- The address at which `pt_walk` reads the PTE of a table: `pte_phys_addr`. -/
def usedSlot (p : SVParams) (va : BitVec 64) (t : BitVec 64 × ℕ) : Xlenbits :=
  (pteSlot p va t.1 t.2).setWidth xlen

/-- The full address of the PTE of a table can be handed to the memory. -/
def SlotInRange (p : SVParams) (va : BitVec 64) (t : BitVec 64 × ℕ) : Prop :=
  refSlot p va.toNat t.1.toNat t.2 < 2 ^ xlen

instance (p : SVParams) (va : BitVec 64) (t : BitVec 64 × ℕ) : Decidable (SlotInRange p va t) :=
  inferInstanceAs (Decidable (_ < _))

/-- The walk visits one table for each level at most. -/
theorem length_walkTables (s : State) (p : SVParams) (va base : BitVec 64) (level : ℕ) :
    (walkTables s p va level base).length ≤ level + 1 := by
  induction level generalizing base with
  | zero => exact le_rfl
  | succ level ih =>
      rw [walkTables, List.length_cons]
      cases pointerAt s p (pteSlot p va base (level + 1)) with
      | none => exact Nat.le_add_left _ _
      | some next => exact Nat.succ_le_succ (ih next)

/-- The PTE is read at its full address exactly if the memory can be given that address. -/
theorem usedSlot_eq_iff (hp : p.Valid) (va : BitVec 64) (t : BitVec 64 × ℕ) :
    (usedSlot p va t).toNat = refSlot p va.toNat t.1.toNat t.2 ↔ SlotInRange p va t := by
  have hle : 2 ^ xlen ∣ 2 ^ 64 := pow_dvd_pow 2 xlen_le
  unfold usedSlot SlotInRange
  rw [pteSlot_eq_ofNat hp, BitVec.toNat_setWidth, BitVec.toNat_ofNat, Nat.mod_mod_of_dvd _ hle]
  constructor
  · intro h
    rw [← h]
    exact Nat.mod_lt _ (Nat.two_pow_pos _)
  · exact Nat.mod_eq_of_lt

/-- Reads of PTEs complete. -/
theorem readPTE_ok (hlegal : PmpLegal s) (hp : p.Valid) (a : BitVec 64) :
    ∃ r, readPTE s p a = .ok r := by
  have hcheck : ∃ c, physAccessCheck s .Read .Supervisor (a.setWidth xlen) p.pteSize = .ok c := by
    unfold physAccessCheck
    split
    · exact ⟨_, rfl⟩
    · have hx := xlen_ge
      have hpow : 2 ^ 32 ≤ 2 ^ xlen := Nat.pow_le_pow_right (by omega) hx
      have hsize := hp.pteSize_eq
      exact ⟨_, pmpCheck_eq hlegal _ (by omega) (by omega) _ _⟩
  obtain ⟨c, hcheck⟩ := hcheck
  rw [readPTE_eq, hcheck]
  exact ⟨_, rfl⟩

/-- A PTE that cannot be read ends the walk. -/
theorem ptWalk_of_unreadable (hlsb : pagesizeBits + level * p.vpnSizeBits < xlen)
    (hread : readPTE s p (pteSlot p va base level) = .ok none) :
    ptWalk s p va ac priv mxr doSum base level global = .ok (.PTW_Failure .PTW_Access) := by
  unfold pteSlot at hread
  rw [ptWalk.eq_def, vpnJOfVa_ok hlsb]
  simp only [bind, Except.bind, hread]
  rfl

/-- An invalid PTE ends the walk. -/
theorem ptWalk_of_invalid {pte : BitVec 64} (hlsb : pagesizeBits + level * p.vpnSizeBits < xlen)
    (hread : readPTE s p (pteSlot p va base level) = .ok (some pte))
    (hinvalid : pteIsInvalid (pteFlags pte) = true) :
    ptWalk s p va ac priv mxr doSum base level global = .ok (.PTW_Failure .PTW_Invalid_PTE) := by
  unfold pteSlot at hread
  rw [ptWalk.eq_def, vpnJOfVa_ok hlsb]
  simp only [bind, Except.bind, hread, hinvalid]
  rfl

/-- The table that a valid pointer names. -/
theorem pointerAt_of_ptr {a pte : BitVec 64} (hread : readPTE s p a = .ok (some pte))
    (hvalid : pteIsInvalid (pteFlags pte) = false) (hptr : pteIsPtr (pteFlags pte) = true) :
    pointerAt s p a = some (ppnsOfPTE p pte <<< pagesizeBits) := by
  unfold pointerAt
  simp only [hread, hvalid, hptr]
  rfl

/-- The walk depends on the PTEs of the tables that it visits only. -/
theorem ptWalk_congr_tables (hlegal : PmpLegal s) (hp : p.Valid)
    (hlsb : pagesizeBits + level * p.vpnSizeBits < xlen)
    (hsame : ∀ t ∈ walkTables s p va level base,
      readPTE s' p (pteSlot p va t.1 t.2) = readPTE s p (pteSlot p va t.1 t.2)) :
    ptWalk s' p va ac priv mxr doSum base level global
      = ptWalk s p va ac priv mxr doSum base level global := by
  induction level generalizing base global with
  | zero =>
      have hhead := hsame (base, 0) (List.mem_cons_self ..)
      obtain ⟨r, hread⟩ := readPTE_ok hlegal hp (pteSlot p va base 0)
      rw [hread] at hhead
      cases r with
      | none => rw [ptWalk_of_unreadable hlsb hread, ptWalk_of_unreadable hlsb hhead]
      | some pte =>
          cases hinv : pteIsInvalid (pteFlags pte) with
          | true => rw [ptWalk_of_invalid hlsb hread hinv, ptWalk_of_invalid hlsb hhead hinv]
          | false => rw [ptWalk_step hlsb hread hinv, ptWalk_step hlsb hhead hinv]
  | succ level ih =>
      have hhead := hsame (base, level + 1) (List.mem_cons_self ..)
      obtain ⟨r, hread⟩ := readPTE_ok hlegal hp (pteSlot p va base (level + 1))
      rw [hread] at hhead
      cases r with
      | none => rw [ptWalk_of_unreadable hlsb hread, ptWalk_of_unreadable hlsb hhead]
      | some pte =>
          cases hinv : pteIsInvalid (pteFlags pte) with
          | true => rw [ptWalk_of_invalid hlsb hread hinv, ptWalk_of_invalid hlsb hhead hinv]
          | false =>
              rw [ptWalk_step hlsb hread hinv, ptWalk_step hlsb hhead hinv]
              cases hptr : pteIsPtr (pteFlags pte) with
              | false => rfl
              | true =>
                  have hnext := pointerAt_of_ptr hread hinv hptr
                  rw [if_pos rfl, if_pos rfl]
                  refine ih (by rw [Nat.add_mul] at hlsb; omega) (fun t ht => ?_)
                  refine hsame t ?_
                  rw [walkTables, hnext]
                  exact List.mem_cons_of_mem _ ht

/-! ## The two walks -/

/-- The memory answers as the code reads it, at an address that it can be given. -/
theorem answers_iff (hp : p.Valid) (hin : SlotInRange p va (base, level))
    (r : Option (BitVec 64)) :
    Answers s p (refSlot p va.toNat base.toNat level) r
      ↔ readPTE s p (pteSlot p va base level) = .ok r := by
  unfold SlotInRange at hin
  unfold Answers
  rw [pteSlot_eq_ofNat hp]
  constructor
  · rintro (⟨-, h⟩ | ⟨hout, -⟩)
    · exact h
    · exact absurd hin (by simp only; omega)
  · exact fun h => Or.inl ⟨hin, h⟩

omit [Platform] in
/-- The check of a superpage whose low PPNs are not clear. -/
theorem ptwLeaf_of_misaligned {pte pteAddr : BitVec 64}
    (h : checkPTEPermission ac priv mxr doSum (pteFlags pte) = .ok true)
    (hal : ¬ SuperpageAligned p pte level) :
    ptwLeaf p va ac priv mxr doSum pte pteAddr level global
      = .ok (.PTW_Failure .PTW_Misaligned) := by
  unfold SuperpageAligned at hal
  rw [Classical.not_imp] at hal
  unfold ptwLeaf
  simp only [bind, Except.bind, h, Bool.not_true, Bool.false_eq_true, if_false]
  rw [if_pos hal.1, if_pos hal.2]
  rfl

/-- The checks of a leaf. -/
theorem refWalk_of_leaf {pte : BitVec 64} (hp : p.Valid) (hpriv : priv ≠ .Machine)
    (hlevel : level ≤ p.levels - 1) (hin : SlotInRange p va (base, level))
    (hread : readPTE s p (pteSlot p va base level) = .ok (some pte))
    (hvalid : RefValid pte) (hleaf : ¬ RefPointer pte) :
    ∃ r, ptwLeaf p va ac priv mxr doSum pte (pteSlot p va base level) level
        (globalAfter global pte) = .ok r
      ∧ RefWalk s p va ac priv mxr doSum base.toNat level global
        [refSlot p va.toNat base.toNat level] r := by
  have hans := (answers_iff hp hin _).mpr hread
  obtain ⟨b, hcheck, hadmits⟩ := checkPTEPermission_eq ac hpriv mxr doSum pte
  cases b with
  | false =>
      have hno : ¬ RefAdmits ac priv mxr doSum pte := fun h => Bool.noConfusion (hadmits.mpr h)
      exact ⟨_, ptwLeaf_of_denied hcheck, .denied hans hvalid hleaf hno⟩
  | true =>
      have hyes := hadmits.mp rfl
      by_cases hal : SuperpageAligned p pte level
      · have hdvd := (superpageAligned_iff hp pte level).mp hal
        refine ⟨_, ptwLeaf_of_allowed hcheck hal, ?_⟩
        rw [leafAddr_eq hp va pte hlevel hdvd, pteSlot_eq_ofNat hp, globalAfter_eq]
        exact .success hans hvalid hleaf hyes hdvd
      · exact ⟨_, ptwLeaf_of_misaligned hcheck hal, .misaligned hans hvalid hleaf hyes
          (fun h => hal ((superpageAligned_iff hp pte level).mpr h))⟩

/-- The full addresses of the PTEs that the walk reads. -/
def walkSlots (s : State) (p : SVParams) (va : BitVec 64) (level : ℕ) (base : BitVec 64) : List ℕ :=
  (walkTables s p va level base).map (fun t => refSlot p va.toNat t.1.toNat t.2)

/-- The visited tables when the first PTE is a valid pointer. -/
theorem walkSlots_of_ptr {pte : BitVec 64}
    (hread : readPTE s p (pteSlot p va base (level + 1)) = .ok (some pte))
    (hvalid : pteIsInvalid (pteFlags pte) = false) (hptr : pteIsPtr (pteFlags pte) = true) :
    walkSlots s p va (level + 1) base = refSlot p va.toNat base.toNat (level + 1)
      :: walkSlots s p va level (ppnsOfPTE p pte <<< pagesizeBits) := by
  unfold walkSlots
  rw [walkTables, pointerAt_of_ptr hread hvalid hptr]
  rfl

/-- The visited tables when the walk ends at once. -/
theorem walkSlots_of_end (h : level = 0 ∨ pointerAt s p (pteSlot p va base level) = none) :
    walkSlots s p va level base = [refSlot p va.toNat base.toNat level] := by
  unfold walkSlots
  cases level with
  | zero => rfl
  | succ level =>
      rw [walkTables, h.resolve_left (Nat.succ_ne_zero level)]
      rfl

/-- The walk visits the table from which it starts. -/
theorem mem_walkTables (s : State) (p : SVParams) (va base : BitVec 64) (level : ℕ) :
    (base, level) ∈ walkTables s p va level base := by
  cases level <;> exact List.mem_cons_self ..

/-- A PTE that is no valid pointer names no table. -/
theorem pointerAt_eq_none {a : BitVec 64} {r : Option (BitVec 64)} (hread : readPTE s p a = .ok r)
    (h : ∀ pte, r = some pte → RefValid pte → ¬ RefPointer pte) : pointerAt s p a = none := by
  unfold pointerAt
  rw [hread]
  cases r with
  | none => rfl
  | some pte =>
      dsimp only
      rw [if_neg]
      simp only [Bool.and_eq_true, Bool.not_eq_true', pteIsInvalid_iff, pteIsPtr_iff]
      rintro ⟨hv, hptr⟩
      exact h pte rfl hv hptr

/-- **In range, the walk of the code is a reference walk.** -/
theorem refWalk_of_inRange (hlegal : PmpLegal s) (hp : p.Valid) (hpriv : priv ≠ .Machine)
    (hlevel : level ≤ p.levels - 1) (hlsb : pagesizeBits + level * p.vpnSizeBits < xlen)
    (hin : ∀ t ∈ walkTables s p va level base, SlotInRange p va t) :
    ∃ r, ptWalk s p va ac priv mxr doSum base level global = .ok r
      ∧ RefWalk s p va ac priv mxr doSum base.toNat level global (walkSlots s p va level base) r := by
  induction level generalizing base global with
  | zero =>
      have hhead := hin (base, 0) (List.mem_cons_self ..)
      obtain ⟨r, hread⟩ := readPTE_ok hlegal hp (pteSlot p va base 0)
      have hans := (answers_iff hp hhead _).mpr hread
      rw [walkSlots_of_end (Or.inl rfl)]
      cases r with
      | none => exact ⟨_, ptWalk_of_unreadable hlsb hread, .unreadable hans⟩
      | some pte =>
          by_cases hvalid : RefValid pte
          swap
          · have hinv : pteIsInvalid (pteFlags pte) = true := by
              rw [← pteIsInvalid_iff] at hvalid
              simpa using hvalid
            exact ⟨_, ptWalk_of_invalid hlsb hread hinv, .invalid hans hvalid⟩
          have hinv := (pteIsInvalid_iff pte).mpr hvalid
          rw [ptWalk_step hlsb hread hinv]
          by_cases hptr : RefPointer pte
          · rw [(pteIsPtr_iff pte).mpr hptr]
            exact ⟨_, rfl, .noLeaf hans hvalid hptr⟩
          · rw [if_neg (fun h => hptr ((pteIsPtr_iff pte).mp h))]
            exact refWalk_of_leaf hp hpriv hlevel hhead hread hvalid hptr
  | succ level ih =>
      have hhead := hin (base, level + 1) (List.mem_cons_self ..)
      obtain ⟨r, hread⟩ := readPTE_ok hlegal hp (pteSlot p va base (level + 1))
      have hans := (answers_iff hp hhead _).mpr hread
      have hend (h : ∀ pte, r = some pte → RefValid pte → ¬ RefPointer pte) :=
        walkSlots_of_end (Or.inr (pointerAt_eq_none hread h))
      cases r with
      | none =>
          rw [hend (fun _ h => by cases h)]
          exact ⟨_, ptWalk_of_unreadable hlsb hread, .unreadable hans⟩
      | some pte =>
          by_cases hvalid : RefValid pte
          swap
          · have hinv : pteIsInvalid (pteFlags pte) = true := by
              rw [← pteIsInvalid_iff] at hvalid
              simpa using hvalid
            rw [hend (fun _ h hv => by cases h; exact absurd hv hvalid)]
            exact ⟨_, ptWalk_of_invalid hlsb hread hinv, .invalid hans hvalid⟩
          have hinv := (pteIsInvalid_iff pte).mpr hvalid
          rw [ptWalk_step hlsb hread hinv]
          by_cases hptr : RefPointer pte
          · have hcode := (pteIsPtr_iff pte).mpr hptr
            have htables : ∀ t ∈ walkTables s p va level (ppnsOfPTE p pte <<< pagesizeBits),
                SlotInRange p va t := by
              intro t ht
              refine hin t ?_
              rw [walkTables, pointerAt_of_ptr hread hinv hcode]
              exact List.mem_cons_of_mem _ ht
            obtain ⟨r, hwalk, href⟩ := ih (by omega) (by rw [Nat.add_mul] at hlsb; omega) htables
            rw [hcode, if_pos rfl, walkSlots_of_ptr hread hinv hcode]
            refine ⟨r, hwalk, .pointer hans hvalid hptr ?_⟩
            rw [toNat_nextTable hp, globalAfter_eq] at href
            exact href
          · rw [if_neg (fun h => hptr ((pteIsPtr_iff pte).mp h)),
              hend (fun _ h _ => by cases h; exact hptr)]
            exact refWalk_of_leaf hp hpriv hlevel hhead hread hvalid hptr

/-- **In range, every reference walk is the walk of the code.** -/
theorem ptWalk_of_refWalk {b : ℕ} {reads : List ℕ} {r : PTWResult} (hp : p.Valid)
    (hpriv : priv ≠ .Machine) (hlevel : level ≤ p.levels - 1)
    (hlsb : pagesizeBits + level * p.vpnSizeBits < xlen)
    (h : RefWalk s p va ac priv mxr doSum b level global reads r) (hb : b = base.toNat)
    (hin : ∀ t ∈ walkTables s p va level base, SlotInRange p va t) :
    ptWalk s p va ac priv mxr doSum base level global = .ok r
      ∧ reads = walkSlots s p va level base := by
  have hanswer {base : BitVec 64} {j : ℕ} {r : Option (BitVec 64)}
      (hin : ∀ t ∈ walkTables s p va j base, SlotInRange p va t)
      (hread : Answers s p (refSlot p va.toNat base.toNat j) r) :
      readPTE s p (pteSlot p va base j) = .ok r :=
    (answers_iff hp (hin _ (mem_walkTables s p va base j)) r).mp hread
  induction h generalizing base with
  | unreadable hread =>
      subst hb
      have hr := hanswer hin hread
      refine ⟨ptWalk_of_unreadable hlsb hr, (walkSlots_of_end (Or.inr ?_)).symm⟩
      exact pointerAt_eq_none hr (fun _ h => by cases h)
  | @invalid _ _ _ pte hread hvalid =>
      subst hb
      have hr := hanswer hin hread
      have hinv : pteIsInvalid (pteFlags pte) = true := by
        rw [← pteIsInvalid_iff] at hvalid
        simpa using hvalid
      refine ⟨ptWalk_of_invalid hlsb hr hinv, (walkSlots_of_end (Or.inr ?_)).symm⟩
      exact pointerAt_eq_none hr (fun _ h hv => by cases h; exact absurd hv hvalid)
  | @pointer _ j _ pte _ _ hread hvalid hptr hnext ih =>
      subst hb
      have hr := hanswer hin hread
      have hinv := (pteIsInvalid_iff pte).mpr hvalid
      have hcode := (pteIsPtr_iff pte).mpr hptr
      have htables : ∀ t ∈ walkTables s p va j (ppnsOfPTE p pte <<< pagesizeBits),
          SlotInRange p va t := by
        intro t ht
        refine hin t ?_
        rw [walkTables, pointerAt_of_ptr hr hinv hcode]
        exact List.mem_cons_of_mem _ ht
      obtain ⟨hwalk, hreads⟩ := ih (by omega) (by rw [Nat.add_mul] at hlsb; omega)
        (toNat_nextTable hp pte).symm htables
      rw [ptWalk_step hlsb hr hinv, hcode, if_pos rfl, globalAfter_eq,
        walkSlots_of_ptr hr hinv hcode, hreads]
      exact ⟨hwalk, rfl⟩
  | @noLeaf _ _ pte hread hvalid hptr =>
      subst hb
      have hr := hanswer hin hread
      rw [ptWalk_step hlsb hr ((pteIsInvalid_iff pte).mpr hvalid), (pteIsPtr_iff pte).mpr hptr]
      exact ⟨rfl, (walkSlots_of_end (Or.inl rfl)).symm⟩
  | @denied _ _ _ pte hread hvalid hleaf hadmits =>
      subst hb
      have hr := hanswer hin hread
      obtain ⟨ok, hcheck, hok⟩ := checkPTEPermission_eq ac hpriv mxr doSum pte
      have hno : ok = false := by
        rw [← hok] at hadmits
        simpa using hadmits
      subst hno
      rw [ptWalk_step hlsb hr ((pteIsInvalid_iff pte).mpr hvalid),
        if_neg (fun h => hleaf ((pteIsPtr_iff pte).mp h)), ptwLeaf_of_denied hcheck]
      refine ⟨rfl, (walkSlots_of_end (Or.inr ?_)).symm⟩
      exact pointerAt_eq_none hr (fun _ h _ => by cases h; exact hleaf)
  | @misaligned _ j _ pte hread hvalid hleaf hadmits haligned =>
      subst hb
      have hr := hanswer hin hread
      obtain ⟨ok, hcheck, hok⟩ := checkPTEPermission_eq ac hpriv mxr doSum pte
      obtain rfl := hok.mpr hadmits
      rw [ptWalk_step hlsb hr ((pteIsInvalid_iff pte).mpr hvalid),
        if_neg (fun h => hleaf ((pteIsPtr_iff pte).mp h)), ptwLeaf_of_misaligned hcheck
          (fun h => haligned ((superpageAligned_iff hp pte j).mp h))]
      refine ⟨rfl, (walkSlots_of_end (Or.inr ?_)).symm⟩
      exact pointerAt_eq_none hr (fun _ h _ => by cases h; exact hleaf)
  | @success _ j _ pte hread hvalid hleaf hadmits haligned =>
      subst hb
      have hr := hanswer hin hread
      obtain ⟨ok, hcheck, hok⟩ := checkPTEPermission_eq ac hpriv mxr doSum pte
      obtain rfl := hok.mpr hadmits
      rw [ptWalk_step hlsb hr ((pteIsInvalid_iff pte).mpr hvalid),
        if_neg (fun h => hleaf ((pteIsPtr_iff pte).mp h)), ptwLeaf_of_allowed hcheck
          ((superpageAligned_iff hp pte j).mpr haligned), leafAddr_eq hp va pte hlevel haligned,
        pteSlot_eq_ofNat hp, globalAfter_eq]
      refine ⟨rfl, (walkSlots_of_end (Or.inr ?_)).symm⟩
      exact pointerAt_eq_none hr (fun _ h _ => by cases h; exact hleaf)

/-- A walk that reads one PTE, at its full address. -/
theorem inRange_of_single (hp : p.Valid) (h : (walkTables s p va level base).map
      (fun t => (usedSlot p va t).toNat) = [refSlot p va.toNat base.toNat level]) :
    ∀ t ∈ walkTables s p va level base, SlotInRange p va t := by
  obtain ⟨rest, hrest⟩ : ∃ rest, walkTables s p va level base = (base, level) :: rest := by
    cases level <;> exact ⟨_, rfl⟩
  rw [hrest, List.map_cons, List.cons.injEq, List.map_eq_nil_iff] at h
  rw [hrest, h.2, List.forall_mem_singleton]
  exact (usedSlot_eq_iff hp va (base, level)).mp h.1

/-- A walk that reads its PTEs where the reference walk does is in range. -/
theorem inRange_of_refWalk {b : ℕ} {reads : List ℕ} {r : PTWResult} (hp : p.Valid)
    (h : RefWalk s p va ac priv mxr doSum b level global reads r) (hb : b = base.toNat)
    (hreads : (walkTables s p va level base).map (fun t => (usedSlot p va t).toNat) = reads) :
    ∀ t ∈ walkTables s p va level base, SlotInRange p va t := by
  induction h generalizing base with
  | @pointer _ j _ pte _ _ hread hvalid hptr hnext ih =>
      subst hb
      rw [walkTables, List.map_cons, List.cons.injEq] at hreads
      obtain ⟨hhead, htail⟩ := hreads
      have hin : SlotInRange p va (base, j + 1) := (usedSlot_eq_iff hp va _).mp hhead
      have hr := (answers_iff hp hin _).mp hread
      have hnext := pointerAt_of_ptr hr ((pteIsInvalid_iff pte).mpr hvalid)
        ((pteIsPtr_iff pte).mpr hptr)
      rw [hnext] at htail
      rw [walkTables, hnext, List.forall_mem_cons]
      exact ⟨hin, ih (toNat_nextTable hp pte).symm htail⟩
  | _ =>
      subst hb
      exact inRange_of_single hp hreads

/-- The result of the walk of the code and the addresses at which it reads PTEs are those of the
reference walk, which reads one PTE for each level at most and has no other outcome. -/
def WalkMatches (s : State) (p : SVParams) (va : BitVec 64) (ac : AccessType) (priv : Privilege)
    (mxr doSum : Bool) (base : BitVec 64) (global : Bool) : Prop :=
  ∃ r reads, ptWalk s p va ac priv mxr doSum base (p.levels - 1) global = .ok r
    ∧ (walkTables s p va (p.levels - 1) base).map (fun t => (usedSlot p va t).toNat) = reads
    ∧ reads.length ≤ p.levels
    ∧ ∀ reads' r', RefWalk s p va ac priv mxr doSum base.toNat (p.levels - 1) global reads' r'
        ↔ reads' = reads ∧ r' = r

/-- **The walk of the code is the reference walk exactly if the memory can be given the address
of every PTE on the way**, and it depends on these PTEs only. -/
theorem walkMatches_iff (hlegal : PmpLegal s) (hp : p.Valid)
    (hlsb : pagesizeBits + (p.levels - 1) * p.vpnSizeBits < xlen) (hpriv : priv ≠ .Machine) :
    (WalkMatches s p va ac priv mxr doSum base global
        ↔ ∀ t ∈ walkTables s p va (p.levels - 1) base, SlotInRange p va t)
      ∧ ∀ s', (∀ t ∈ walkTables s p va (p.levels - 1) base,
          readPTE s' p (pteSlot p va t.1 t.2) = readPTE s p (pteSlot p va t.1 t.2)) →
        ptWalk s' p va ac priv mxr doSum base (p.levels - 1) global
          = ptWalk s p va ac priv mxr doSum base (p.levels - 1) global := by
  refine ⟨?_, fun s' hsame => ptWalk_congr_tables hlegal hp hlsb hsame⟩
  constructor
  · rintro ⟨r, reads, -, hreads, -, href⟩
    exact inRange_of_refWalk hp ((href reads r).mpr ⟨rfl, rfl⟩) rfl hreads
  · intro hin
    obtain ⟨r, hwalk, href⟩ :
        ∃ r, ptWalk s p va ac priv mxr doSum base (p.levels - 1) global = .ok r
          ∧ RefWalk s p va ac priv mxr doSum base.toNat (p.levels - 1) global
            (walkSlots s p va (p.levels - 1) base) r :=
      refWalk_of_inRange hlegal hp hpriv le_rfl hlsb hin
    have hused : (walkTables s p va (p.levels - 1) base).map (fun t => (usedSlot p va t).toNat)
        = walkSlots s p va (p.levels - 1) base :=
      List.map_congr_left (fun t ht => (usedSlot_eq_iff hp va t).mpr (hin t ht))
    refine ⟨r, _, hwalk, hused, ?_, fun reads' r' => ?_⟩
    · unfold walkSlots
      rw [List.length_map]
      have hpos : 0 < p.levels := by
        rcases hp with rfl | rfl | rfl <;> decide
      have hlen := length_walkTables s p va base (p.levels - 1)
      omega
    · constructor
      · intro h
        obtain ⟨hwalk', hreads⟩ := ptWalk_of_refWalk hp hpriv le_rfl hlsb h rfl hin
        rw [hwalk] at hwalk'
        cases hwalk'
        exact ⟨hreads, rfl⟩
      · rintro ⟨rfl, rfl⟩
        exact href

/-- On RV64 the tables that `satp` and PTEs can name are in range. -/
theorem inRange_of_rv64 (hp : p.Valid) (hx : xlen = 64) (hbase : base.toNat < 2 ^ 56) :
    ∀ t ∈ walkTables s p va level base, SlotInRange p va t := by
  have hslot {b : BitVec 64} (hb : b.toNat < 2 ^ 56) (j : ℕ) : SlotInRange p va (b, j) := by
    have hvpn : refVPN p va.toNat j < 2 ^ p.vpnSizeBits := Nat.mod_lt _ (Nat.two_pow_pos _)
    have hle : 2 ^ p.vpnSizeBits ≤ 2 ^ 10 := by
      rcases hp with rfl | rfl | rfl <;> decide
    unfold SlotInRange refSlot
    rw [hx]
    rcases hp.pteSize_eq with hsize | hsize <;> rw [hsize] <;> simp only <;> omega
  induction level generalizing base with
  | zero =>
      rw [walkTables, List.forall_mem_singleton]
      exact hslot hbase 0
  | succ level ih =>
      rw [walkTables, List.forall_mem_cons]
      refine ⟨hslot hbase _, ?_⟩
      cases hnext : pointerAt s p (pteSlot p va base (level + 1)) with
      | none => exact fun t ht => by cases ht
      | some next =>
          refine ih ?_
          unfold pointerAt at hnext
          split at hnext
          · next pte _ =>
              split at hnext
              · cases hnext
                have hppn := refPPN_lt hp pte
                rw [toNat_nextTable hp]
                unfold pagesizeBits
                omega
              · cases hnext
          · cases hnext

end Walk

/-! ## A table above 4 GiB -/

/-- The root table is at `0x180000000`, and at `0x80000000` there is the PTE of a superpage. -/
def highTable : State :=
  { State.zero (Bytes.write (fun _ => 0#8) 0x80000000 4 0x200000CF#32) with
    curPrivilege := .Supervisor
    satp := 0x80180000#_ }

omit [Platform] in
/-- The PMP registers are legal. -/
theorem pmpLegal_highTable :
    letI := rv32DirtyUpdate true
    PmpLegal highTable := by
  let := rv32DirtyUpdate true
  exact PmpReset.legal ⟨fun _ => rfl, fun _ => rfl⟩

omit [Platform] in
/-- The walk reads the PTE at `0x80000000`, which is not the address of the PTE. -/
theorem ptWalk_reads_elsewhere :
    ¬ ∀ [Platform] (s : State) (p : SVParams) (va : BitVec 64) (ac : AccessType)
      (priv : Privilege) (mxr doSum : Bool) (base : BitVec 64) (global : Bool), PmpLegal s →
      p.Valid → pagesizeBits + (p.levels - 1) * p.vpnSizeBits < xlen → priv ≠ .Machine →
      WalkMatches s p va ac priv mxr doSum base global := by
  intro h
  let := rv32DirtyUpdate true
  obtain ⟨r, reads, -, hreads, -, href⟩ := h highTable sv32Params 0#64 .Read .Supervisor false false
    (satpToPTBase highTable.satp) false pmpLegal_highTable (Or.inl rfl) (by decide) (by decide)
  have hin := inRange_of_refWalk (Or.inl rfl) ((href reads r).mpr ⟨rfl, rfl⟩) rfl hreads
  exact absurd (hin _ (mem_walkTables ..)) (by decide)

/-- The same with the root table at `0x80000000`. -/
def lowTable : State :=
  { highTable with satp := 0x80080000#_ }

omit [Platform] in
/-- The high table is out of range, and the low one is in range. -/
theorem walkMatches_iff_highTable :
    letI := rv32DirtyUpdate true
    ¬ WalkMatches highTable sv32Params 0#64 .Read .Supervisor false false
        (satpToPTBase highTable.satp) false
      ∧ WalkMatches lowTable sv32Params 0#64 .Read .Supervisor false false
        (satpToPTBase lowTable.satp) false := by
  let := rv32DirtyUpdate true
  constructor
  · rw [(walkMatches_iff pmpLegal_highTable (Or.inl rfl) (by decide) (by decide)).1]
    intro hin
    exact absurd (hin _ (mem_walkTables ..)) (by decide)
  · have hlegal : PmpLegal lowTable := PmpReset.legal ⟨fun _ => rfl, fun _ => rfl⟩
    rw [(walkMatches_iff hlegal (Or.inl rfl) (by decide) (by decide)).1]
    have hwalk : walkTables lowTable sv32Params 0#64 1 (satpToPTBase lowTable.satp)
        = [(0x80000000#64, 1)] := by decide
    intro t ht
    obtain rfl := List.mem_singleton.mp (hwalk ▸ ht)
    show refSlot sv32Params 0 0x80000000 1 < 2 ^ 32
    decide

end SailRiscv
