/-
# Loads and stores, byte by byte

A load or store translates the address of its first byte only.  The bytes that it accesses
are those that the translation gives for each of them exactly when the access stays in one page
or the page that it runs into follows physically (`perByte_iff`).
-/
import SailRiscv.Insts.Base
import SailRiscv.Pages

namespace SailRiscv

open Bits Platform

variable [Platform]

/-! ## Addresses of an access -/

/-- The first address of the page of `a`. -/
def pageStart (a : Xlenbits) : Xlenbits := BitVec.ofNat xlen (a.toNat / 2 ^ 12 * 2 ^ 12)

/-- The size of a page, as an address offset. -/
def pageSize : Xlenbits := BitVec.ofNat xlen (2 ^ 12)

/-- Byte `k` of an access at `a`. -/
def byteAddr (a : Xlenbits) (k : ℕ) : Xlenbits := a + BitVec.ofNat xlen k

section Address

variable {a : Xlenbits} {k : ℕ}

/-- The address space is a whole number of pages. -/
theorem exists_pages : ∃ n, 2 ^ xlen = 2 ^ 12 * n ∧ 2 ≤ n := by
  have hx := xlen_ge
  refine ⟨2 ^ (xlen - 12), ?_, ?_⟩
  · rw [← pow_add]
    congr 1
    omega
  · calc 2 = 2 ^ 1 := rfl
      _ ≤ 2 ^ (xlen - 12) := Nat.pow_le_pow_right (by decide) (by omega)

theorem samePage_pageStart (a : Xlenbits) : SamePage (pageStart a) a := by
  have hlt := a.isLt
  unfold SamePage pageStart
  rw [BitVec.toNat_ofNat, Nat.mod_eq_of_lt (by omega)]
  omega

theorem samePage_byteAddr (h : a.toNat % 2 ^ 12 + k < 2 ^ 12) : SamePage a (byteAddr a k) := by
  obtain ⟨n, hn, -⟩ := exists_pages
  have hlt := a.isLt
  unfold SamePage byteAddr
  rw [BitVec.toNat_add, BitVec.toNat_ofNat, Nat.add_mod_mod, Nat.mod_eq_of_lt (by omega)]
  omega

/-- A byte past the end of the page lies in the next one. -/
theorem samePage_nextPage (h : 2 ^ 12 ≤ a.toNat % 2 ^ 12 + k) (hk : k < 2 ^ 12) :
    SamePage (pageStart a + pageSize) (byteAddr a k) := by
  obtain ⟨n, hn, hn2⟩ := exists_pages
  have hlt := a.isLt
  unfold SamePage byteAddr pageStart pageSize
  rw [← BitVec.ofNat_add, BitVec.toNat_ofNat, BitVec.toNat_add, BitVec.toNat_ofNat,
    Nat.add_mod_mod]
  by_cases hend : a.toNat + k < 2 ^ xlen
  · rw [Nat.mod_eq_of_lt hend, Nat.mod_eq_of_lt (by omega)]
    omega
  · have h1 : a.toNat / 2 ^ 12 * 2 ^ 12 + 2 ^ 12 = 2 ^ xlen := by omega
    rw [h1, Nat.mod_self, Nat.mod_eq_sub_mod (by omega), Nat.mod_eq_of_lt (by omega)]
    omega

end Address

/-! ## What the instructions do -/

/-- A data access: its address, width and type. -/
structure DataAccess where
  vaddr : Xlenbits
  width : WordWidth
  ac : AccessType
  deriving DecidableEq

/-- The data access of a load or store. -/
def BaseInst.dataAccess (s : State) : BaseInst → Option DataAccess
  | .LOAD imm rs1 _ _ width _ _ => some ⟨s.X rs1 + imm.signExtend xlen, width, .Read⟩
  | .STORE imm _ rs1 width _ _ => some ⟨s.X rs1 + imm.signExtend xlen, width, .Write⟩
  | _ => none

/-- The load or store, from the state `s₁` after the translation, is of the physical bytes from
`pa` on. -/
def BaseInst.AccessesFrom (i : BaseInst) (s₁ : State) (pa : Xlenbits) (s' : State) : Prop :=
  match i with
  | .LOAD _ _ rd isUnsigned width aq rl =>
      ∃ v, (memRead .Read pa (sizeBytes width) aq rl false).run s₁ = .ok (.MemValue v, s₁)
        ∧ (do dcRead pa; wX rd (extendValue isUnsigned v)).run s₁ = .ok ((), s')
  | .STORE _ rs2 _ width aq rl =>
      (do
        dcWrite pa
        memWriteValue pa (sizeBytes width) ((← rX rs2).extractLsb' 0 _) aq rl false).run s₁
          = .ok (.MemValue true, s')
  | _ => False

/-- The instruction takes an exception at the address of the access, with the memory as the
translation of this address leaves it. -/
def Faults (s : State) (d : DataAccess) (s' : State) : Prop :=
  ∃ r s₁ s₂ e, (translateAddr d.vaddr d.ac).run s = .ok (r, s₁) ∧ SameMem s₁ s₂
    ∧ (handleMemException d.vaddr e).run s₂ = .ok ((), s')

/-- The address of the access is mapped and the memory allows the access at its translation. -/
def Accessible (s : State) (i : BaseInst) (d : DataAccess) : Prop :=
  ∃ pa s₁ s₂, (translateAddr d.vaddr d.ac).run s = .ok (.TR_Address pa, s₁)
    ∧ i.AccessesFrom s₁ pa s₂

section Cases

variable {s s' : State} {ret : Retired} {imm : BitVec 12} {rs1 rs2 rd : Regidx}
  {isUnsigned aq rl : Bool} {width : WordWidth}

/-- A fault after the translation. -/
theorem faults_of_memFault {d : DataAccess} {r : TRResult Xlenbits ExceptionType} {s₁ s₂ : State}
    {e : ExceptionType} (htr : (translateAddr d.vaddr d.ac).run s = .ok (r, s₁))
    (hmem : SameMem s₁ s₂) (h : (memFault d.vaddr e).run s₂ = .ok (ret, s')) :
    ret = .RETIRE_FAIL ∧ Faults s d s' := by
  unfold memFault at h
  obtain ⟨u, s₃, htrap, hend⟩ := Exec.run_bind_ok.mp h
  cases hend
  exact ⟨rfl, r, s₁, s₂, e, htr, hmem, htrap⟩

/-- The run of the translation decides whether the access is possible. -/
theorem accessible_iff {i : BaseInst} {d : DataAccess} {r : TRResult Xlenbits ExceptionType}
    {s₁ : State} (htr : (translateAddr d.vaddr d.ac).run s = .ok (r, s₁)) :
    Accessible s i d ↔ ∃ pa s₂, r = .TR_Address pa ∧ i.AccessesFrom s₁ pa s₂ := by
  constructor
  · rintro ⟨pa, s₁', s₂, htr', hfrom⟩
    rw [htr] at htr'
    cases htr'
    exact ⟨pa, s₂, rfl, hfrom⟩
  · rintro ⟨pa, s₂, rfl, hfrom⟩
    exact ⟨pa, s₁, s₂, htr, hfrom⟩

/-- The assertions of a completed run hold. -/
theorem state_of_assert {c : Bool} {msg : String} {u : Unit}
    (h : (assert c msg).run s = .ok (u, s')) : s' = s := by
  unfold assert at h
  split at h
  · cases h
    rfl
  · cases h

/-- The announcement of a write raises no exception that the write does not raise. -/
theorem memWriteValue_of_ea {pa : Xlenbits} {n : ℕ} {v : BitVec (8 * n)} {e : ExceptionType}
    {b : Bool} (hea : memWriteEa pa n aq rl false = .ok (.MemException e)) :
    (memWriteValue pa n v aq rl false).run s ≠ .ok (.MemValue b, s') := by
  unfold memWriteEa at hea
  split at hea
  · next hmis =>
      intro h
      unfold memWriteValue memWriteValuePrivMeta at h
      obtain ⟨priv, s₁, -, hwrite⟩ := Exec.run_bind_ok.mp h
      rw [if_pos hmis] at hwrite
      cases hwrite
  · cases hkind : writeKindOfFlags aq rl false with
    | error e => rw [hkind] at hea; cases hea
    | ok u => rw [hkind] at hea; cases hea

/-- A write that raises an exception leaves the memory alone. -/
theorem sameMem_of_memWriteValue {pa : Xlenbits} {n : ℕ} {v : BitVec (8 * n)} {e : ExceptionType}
    {con : Bool} (h : (memWriteValue pa n v aq rl con).run s = .ok (.MemException e, s')) :
    SameMem s s' := by
  unfold memWriteValue memWriteValuePrivMeta at h
  obtain ⟨priv, s₁, hpriv, hw⟩ := Exec.run_bind_ok.mp h
  obtain ⟨-, rfl⟩ := Exec.run_checks_ok.mp hpriv
  split at hw
  · cases hw
    rfl
  · unfold checkedMemWrite at hw
    obtain ⟨c, s₂, hcheck, hdo⟩ := Exec.run_bind_ok.mp hw
    obtain ⟨-, rfl⟩ := Exec.run_checks_ok.mp hcheck
    cases c with
    | some e => cases hdo; rfl
    | none =>
        simp only at hdo
        split at hdo
        · exact (keeps_mmioWrite (R := SameMem) _ _ _).rel hdo
        · split at hdo
          · obtain ⟨u, s₃, hk, hphys⟩ := Exec.run_bind_ok.mp hdo
            cases hphys
          · cases hdo
            rfl

/-- **What a load does.** -/
theorem executeLoad_cases
    (hal : checkMisaligned (s.X rs1 + imm.signExtend xlen) width = false)
    (h : (executeLoad imm rs1 rd isUnsigned width aq rl).run s = .ok (ret, s')) :
    (ret = .RETIRE_SUCCESS ∧ ∃ pa s₁,
        (translateAddr (s.X rs1 + imm.signExtend xlen) .Read).run s = .ok (.TR_Address pa, s₁)
          ∧ (BaseInst.LOAD imm rs1 rd isUnsigned width aq rl).AccessesFrom s₁ pa s')
      ∨ (ret = .RETIRE_FAIL ∧ Faults s ⟨s.X rs1 + imm.signExtend xlen, width, .Read⟩ s'
        ∧ ¬ Accessible s (.LOAD imm rs1 rd isUnsigned width aq rl)
          ⟨s.X rs1 + imm.signExtend xlen, width, .Read⟩) := by
  unfold executeLoad at h
  obtain ⟨u, s₀, hassert, h⟩ := Exec.run_bind_ok.mp h
  rw [state_of_assert hassert, Exec.run_bind_of_ok (show (extDataGetAddr rs1 (imm.signExtend xlen)).run s
    = .ok (s.X rs1 + imm.signExtend xlen, s) from rfl), hal, if_neg (by simp)] at h
  obtain ⟨r, s₁, htr, hrest⟩ := Exec.run_bind_ok.mp h
  rw [accessible_iff (d := ⟨_, width, .Read⟩) htr]
  cases r with
  | TR_Failure e =>
      obtain ⟨hret, hfault⟩ := faults_of_memFault (d := ⟨_, width, .Read⟩) htr rfl hrest
      exact Or.inr ⟨hret, hfault, nofun⟩
  | TR_Address pa =>
      simp only [onAddress] at hrest
      obtain ⟨m, s₂, hread, hend⟩ := Exec.run_bind_ok.mp hrest
      have hs₂ : s₂ = s₁ := (Exec.run_checks_ok.mp hread).2
      subst hs₂
      cases m with
      | MemException e =>
          obtain ⟨hret, hfault⟩ := faults_of_memFault (d := ⟨_, width, .Read⟩) htr rfl hend
          refine Or.inr ⟨hret, hfault, ?_⟩
          rintro ⟨pa', s₂, hpa, v, hread', -⟩
          cases hpa
          rw [hread] at hread'
          cases hread'
      | MemValue v =>
          cases hend
          exact Or.inl ⟨rfl, pa, _, htr, v, hread, rfl⟩

/-- **What a store does.** -/
theorem executeStore_cases
    (hal : checkMisaligned (s.X rs1 + imm.signExtend xlen) width = false)
    (h : (executeStore imm rs2 rs1 width aq rl).run s = .ok (ret, s')) :
    (ret = .RETIRE_SUCCESS ∧ ∃ pa s₁,
        (translateAddr (s.X rs1 + imm.signExtend xlen) .Write).run s = .ok (.TR_Address pa, s₁)
          ∧ (BaseInst.STORE imm rs2 rs1 width aq rl).AccessesFrom s₁ pa s')
      ∨ (ret = .RETIRE_FAIL ∧ Faults s ⟨s.X rs1 + imm.signExtend xlen, width, .Write⟩ s'
        ∧ ¬ Accessible s (.STORE imm rs2 rs1 width aq rl)
          ⟨s.X rs1 + imm.signExtend xlen, width, .Write⟩) := by
  unfold executeStore at h
  obtain ⟨u, s₀, hassert, h⟩ := Exec.run_bind_ok.mp h
  rw [state_of_assert hassert, Exec.run_bind_of_ok (show (extDataGetAddr rs1 (imm.signExtend xlen)).run s
    = .ok (s.X rs1 + imm.signExtend xlen, s) from rfl), hal, if_neg (by simp)] at h
  obtain ⟨r, s₁, htr, hrest⟩ := Exec.run_bind_ok.mp h
  rw [accessible_iff (d := ⟨_, width, .Write⟩) htr]
  cases r with
  | TR_Failure e =>
      obtain ⟨hret, hfault⟩ := faults_of_memFault (d := ⟨_, width, .Write⟩) htr rfl hrest
      exact Or.inr ⟨hret, hfault, nofun⟩
  | TR_Address pa =>
      simp only [onAddress] at hrest
      obtain ⟨u, s₂, hdc, hrest⟩ := Exec.run_bind_ok.mp hrest
      have hmem : SameMem s₁ s₂ := by
        cases hdc
        rfl
      obtain ⟨m, s₃, hea, hrest⟩ := Exec.run_bind_ok.mp hrest
      obtain ⟨hannounce, rfl⟩ := Exec.run_checks_ok.mp hea
      have hfrom (s'' : State) : (BaseInst.STORE imm rs2 rs1 width aq rl).AccessesFrom s₁ pa s''
          ↔ (memWriteValue pa (sizeBytes width) ((s₃.X rs2).extractLsb' 0 _) aq rl false).run s₃
            = .ok (.MemValue true, s'') := by
        simp only [BaseInst.AccessesFrom]
        rw [Exec.run_bind_of_ok hdc, Exec.run_bind_of_ok
          (show (rX rs2).run s₃ = .ok (s₃.X rs2, s₃) from rfl)]
      cases m with
      | MemException e =>
          obtain ⟨hret, hfault⟩ := faults_of_memFault (d := ⟨_, width, .Write⟩) htr hmem hrest
          refine Or.inr ⟨hret, hfault, ?_⟩
          rintro ⟨pa', s'', hpa, hacc⟩
          cases hpa
          exact memWriteValue_of_ea hannounce ((hfrom s'').mp hacc)
      | MemValue v =>
          simp only [onMemValue] at hrest
          rw [Exec.run_bind_of_ok (show (rX rs2).run s₃ = .ok (s₃.X rs2, s₃) from rfl)] at hrest
          obtain ⟨w, s₄, hwrite, hend⟩ := Exec.run_bind_ok.mp hrest
          cases w with
          | MemException e =>
              obtain ⟨hret, hfault⟩ := faults_of_memFault (d := ⟨_, width, .Write⟩) htr
                (IsTrans.trans _ _ _ hmem (sameMem_of_memWriteValue hwrite)) hend
              refine Or.inr ⟨hret, hfault, ?_⟩
              rintro ⟨pa', s'', hpa, hacc⟩
              cases hpa
              rw [(hfrom s'').mp hacc] at hwrite
              cases hwrite
          | MemValue b =>
              cases b with
              | false => cases hend
              | true =>
                  cases hend
                  exact Or.inl ⟨rfl, pa, s₁, htr, (hfrom _).mpr hwrite⟩

end Cases

/-! ## Byte by byte -/

/-- The translation of `va` in the state `s` fails. -/
def TranslationFails (s : State) (va : Xlenbits) (ac : AccessType) : Prop :=
  ∃ e s', (translateAddr va ac).run s = .ok (.TR_Failure e, s')

/-- The access is made byte by byte: if the instruction retires, each byte is that at the
translation of its own address, and if one of these translations fails, the instruction takes
an exception and does not access the memory. -/
def PerByte (i : BaseInst) (d : DataAccess) (s : State) (ret : Retired) (s' : State) : Prop :=
  (ret = .RETIRE_SUCCESS → ∃ pa s₁, (translateAddr d.vaddr d.ac).run s = .ok (.TR_Address pa, s₁)
      ∧ i.AccessesFrom s₁ pa s'
      ∧ ∀ k < sizeBytes d.width, TranslatesTo s (byteAddr d.vaddr k) d.ac (byteAddr pa k))
    ∧ ((∃ k < sizeBytes d.width, TranslationFails s (byteAddr d.vaddr k) d.ac) →
        ret = .RETIRE_FAIL ∧ Faults s d s')

/-- The access stays in the page where it starts. -/
def InOnePage (d : DataAccess) : Prop := d.vaddr.toNat % 2 ^ 12 + sizeBytes d.width ≤ 2 ^ 12

instance (d : DataAccess) : Decidable (InOnePage d) := by
  unfold InOnePage
  infer_instance

/-- The page where the access starts and the next page are mapped, one physically after the
other. -/
def NextPageFollows (s : State) (d : DataAccess) : Prop :=
  ∃ pa, TranslatesTo s (pageStart d.vaddr) d.ac pa
    ∧ TranslatesTo s (pageStart d.vaddr + pageSize) d.ac (pa + pageSize)

section PerByte

variable {s s' : State} {ret : Retired} {i : BaseInst} {d : DataAccess}

theorem TranslatesTo.unique {va pa pa' : Xlenbits} {ac : AccessType}
    (h : TranslatesTo s va ac pa) (h' : TranslatesTo s va ac pa') : pa' = pa := by
  obtain ⟨s₁, h₁⟩ := h
  obtain ⟨s₂, h₂⟩ := h'
  rw [h₁] at h₂
  cases h₂
  rfl

theorem TranslatesTo.not_fails {va pa : Xlenbits} {ac : AccessType}
    (h : TranslatesTo s va ac pa) : ¬ TranslationFails s va ac := by
  obtain ⟨s₁, h₁⟩ := h
  rintro ⟨e, s₂, h₂⟩
  rw [h₁] at h₂
  cases h₂

omit [Platform] in
theorem sizeBytes_bounds (w : WordWidth) : 1 ≤ sizeBytes w ∧ sizeBytes w ≤ 8 := by
  cases w <;> decide

/-- Each byte of an access in one page lies at its offset from the first. -/
theorem translatesTo_byte_of_onePage {pa : Xlenbits} (h : TranslatesTo s d.vaddr d.ac pa) {k : ℕ}
    (hk : d.vaddr.toNat % 2 ^ 12 + k < 2 ^ 12) :
    TranslatesTo s (byteAddr d.vaddr k) d.ac (byteAddr pa k) := by
  have hbyte := translateAddr_samePage (samePage_byteAddr hk) h
  have hpa : pa + (byteAddr d.vaddr k - d.vaddr) = byteAddr pa k := by
    unfold byteAddr
    ring
  rwa [hpa] at hbyte

/-- The bytes past the page lie at their offsets from the first when the next page follows. -/
theorem translatesTo_byte_of_follows {pa : Xlenbits} (h : TranslatesTo s d.vaddr d.ac pa)
    (hnext : NextPageFollows s d) {k : ℕ} (hk : 2 ^ 12 ≤ d.vaddr.toNat % 2 ^ 12 + k)
    (hk' : k < 2 ^ 12) : TranslatesTo s (byteAddr d.vaddr k) d.ac (byteAddr pa k) := by
  obtain ⟨q, hq, hq'⟩ := hnext
  have hstart := translateAddr_samePage (samePage_pageStart d.vaddr) hq
  have hpa := h.unique hstart
  have hbyte := translateAddr_samePage (samePage_nextPage hk hk') hq'
  have heq : q + pageSize + (byteAddr d.vaddr k - (pageStart d.vaddr + pageSize))
      = byteAddr pa k := by
    unfold byteAddr
    rw [← hpa]
    ring
  rwa [heq] at hbyte

/-- If the bytes lie at their offsets from the first, the next page follows. -/
theorem follows_of_bytes {pa : Xlenbits} (hout : ¬ InOnePage d)
    (h : ∀ k < sizeBytes d.width, TranslatesTo s (byteAddr d.vaddr k) d.ac (byteAddr pa k)) :
    NextPageFollows s d := by
  unfold InOnePage at hout
  obtain ⟨h1, h8⟩ := sizeBytes_bounds d.width
  have hoff : d.vaddr.toNat % 2 ^ 12 < 2 ^ 12 := Nat.mod_lt _ (by decide)
  have hfirst := h 0 (by omega)
  have hcross := h (2 ^ 12 - d.vaddr.toNat % 2 ^ 12) (by omega)
  have hpage := translateAddr_samePage
    (((samePage_pageStart d.vaddr).trans (samePage_byteAddr (by omega))).symm) hfirst
  have hnext := translateAddr_samePage
    ((samePage_nextPage (by omega) (by omega)).symm) hcross
  refine ⟨_, hpage, ?_⟩
  have heq (x : ℕ) : byteAddr pa x + (pageStart d.vaddr + pageSize - byteAddr d.vaddr x)
      = byteAddr pa 0 + (pageStart d.vaddr - byteAddr d.vaddr 0) + pageSize := by
    unfold byteAddr
    ring
  rwa [heq] at hnext

/-- **What a load or store does**: it retires after an access at the translation of its
address, or takes an exception because the access is not possible. -/
theorem dataAccess_cases (hacc : i.dataAccess s = some d)
    (hal : checkMisaligned d.vaddr d.width = false) (hrun : i.execute.run s = .ok (ret, s')) :
    (ret = .RETIRE_SUCCESS ∧ ∃ pa s₁, (translateAddr d.vaddr d.ac).run s = .ok (.TR_Address pa, s₁)
        ∧ i.AccessesFrom s₁ pa s')
      ∨ (ret = .RETIRE_FAIL ∧ Faults s d s' ∧ ¬ Accessible s i d) := by
  cases i with
  | LOAD imm rs1 rd isUnsigned width aq rl =>
      cases hacc
      exact executeLoad_cases hal hrun
  | STORE imm rs2 rs1 width aq rl =>
      cases hacc
      exact executeStore_cases hal hrun
  | _ => cases hacc

/-- **Loads and stores, byte by byte.**  A completed load or store accesses each byte at the
translation of its own address exactly when the access is not possible at all, or stays in one
page, or runs into a page that follows physically. -/
theorem perByte_iff (hacc : i.dataAccess s = some d)
    (hal : checkMisaligned d.vaddr d.width = false) (hrun : i.execute.run s = .ok (ret, s')) :
    PerByte i d s ret s' ↔ (Accessible s i d → InOnePage d ∨ NextPageFollows s d) := by
  obtain ⟨h1, h8⟩ := sizeBytes_bounds d.width
  rcases dataAccess_cases hacc hal hrun with ⟨hret, pa, s₁, htr, hfrom⟩ | ⟨hret, hfault, hno⟩
  · constructor
    · rintro ⟨hbytes, -⟩ -
      obtain ⟨pa, s₁, -, -, hall⟩ := hbytes hret
      by_cases hin : InOnePage d
      · exact Or.inl hin
      · exact Or.inr (follows_of_bytes hin hall)
    · intro hcond
      have hall : ∀ k < sizeBytes d.width,
          TranslatesTo s (byteAddr d.vaddr k) d.ac (byteAddr pa k) := by
        intro k hk
        by_cases hoff : d.vaddr.toNat % 2 ^ 12 + k < 2 ^ 12
        · exact translatesTo_byte_of_onePage ⟨s₁, htr⟩ hoff
        · rcases hcond ⟨pa, s₁, s', htr, hfrom⟩ with hin | hnext
          · unfold InOnePage at hin
            omega
          · exact translatesTo_byte_of_follows ⟨s₁, htr⟩ hnext (by omega) (by omega)
      refine ⟨fun _ => ⟨pa, s₁, htr, hfrom, hall⟩, ?_⟩
      rintro ⟨k, hk, hfails⟩
      exact absurd hfails (hall k hk).not_fails
  · refine ⟨fun _ h => absurd h hno, fun _ => ⟨fun h => ?_, fun _ => ⟨hret, hfault⟩⟩⟩
    rw [hret] at h
    cases h

end PerByte

/-- The first superpage is mapped to `0x80000000`, and the second is not mapped. -/
def lastPageMapped : State :=
  { State.zero (Bytes.write (fun _ => 0#8) 0x80000000 4 0x200000C7#32) with
    curPrivilege := .Supervisor
    satp := 0x80080000#_
    x := fun _ => 0x3FFFFE#_ }

/-- Load a word from the last two bytes of the first superpage on. -/
def loadAcross : BaseInst := .LOAD 0#12 1#5 2#5 false .WORD false false

/-- Load a word from the last four bytes of the first superpage. -/
def loadWithin : BaseInst := .LOAD 0xFFE#12 1#5 2#5 false .WORD false false

omit [Platform] in
/-- The access of the load that stays in its page. -/
theorem dataAccess_loadWithin :
    letI := rv32Misaligned
    loadWithin.dataAccess lastPageMapped = some ⟨0x3FFFFC#_, .WORD, .Read⟩ := by
  decide

omit [Platform] in
/-- The access of the load across the boundary. -/
theorem dataAccess_loadAcross :
    letI := rv32Misaligned
    loadAcross.dataAccess lastPageMapped = some ⟨0x3FFFFE#_, .WORD, .Read⟩ := by
  decide

omit [Platform] in
/-- The load that stays in its page retires. -/
theorem run_loadWithin :
    letI := rv32Misaligned
    ∃ s', loadWithin.execute.run lastPageMapped = .ok (.RETIRE_SUCCESS, s') := by
  let := rv32Misaligned
  have hret : (loadWithin.execute.run lastPageMapped).map Prod.fst = .ok .RETIRE_SUCCESS := by
    decide +kernel
  cases hrun : loadWithin.execute.run lastPageMapped with
  | error e => rw [hrun] at hret; cases hret
  | ok r =>
      obtain ⟨ret, s'⟩ := r
      rw [hrun] at hret
      cases hret
      exact ⟨s', rfl⟩

omit [Platform] in
/-- The load that stays in its page meets the condition. -/
theorem perByte_iff_loadWithin :
    letI := rv32Misaligned
    ∃ d s', loadWithin.dataAccess lastPageMapped = some d ∧ InOnePage d
      ∧ (PerByte loadWithin d lastPageMapped .RETIRE_SUCCESS s'
        ↔ (Accessible lastPageMapped loadWithin d → InOnePage d ∨ NextPageFollows lastPageMapped d))
      := by
  let := rv32Misaligned
  obtain ⟨s', hrun⟩ := run_loadWithin
  have hal : checkMisaligned 0x3FFFFC#_ .WORD = false := rfl
  have hpage : InOnePage ⟨0x3FFFFC#_, .WORD, .Read⟩ := by decide
  exact ⟨⟨0x3FFFFC#_, .WORD, .Read⟩, s', dataAccess_loadWithin, hpage,
    perByte_iff dataAccess_loadWithin hal hrun⟩

omit [Platform] in
/-- The load across the boundary retires, although the translation of its last bytes fails. -/
theorem loadAcross_retires :
    ¬ ∀ [Platform] (i : BaseInst) (d : DataAccess) (s s' : State) (ret : Retired),
      i.dataAccess s = some d → checkMisaligned d.vaddr d.width = false →
      i.execute.run s = .ok (ret, s') → PerByte i d s ret s' := by
  intro h
  let := rv32Misaligned
  have hret : (loadAcross.execute.run lastPageMapped).map Prod.fst = .ok .RETIRE_SUCCESS := by
    decide +kernel
  have hfail : ((translateAddr (byteAddr 0x3FFFFE#_ 2) .Read).run lastPageMapped).map Prod.fst
      = .ok (.TR_Failure .E_Load_Page_Fault) := by
    decide +kernel
  cases hrun : loadAcross.execute.run lastPageMapped with
  | error e => rw [hrun] at hret; cases hret
  | ok r =>
      obtain ⟨ret, s'⟩ := r
      rw [hrun] at hret
      cases hret
      have hal : checkMisaligned 0x3FFFFE#_ .WORD = false := rfl
      have hper := h loadAcross ⟨0x3FFFFE#_, .WORD, .Read⟩ lastPageMapped s' _
        dataAccess_loadAcross hal hrun
      cases htr : (translateAddr (byteAddr 0x3FFFFE#_ 2) .Read).run lastPageMapped with
      | error e => rw [htr] at hfail; cases hfail
      | ok t =>
          obtain ⟨t, s₁⟩ := t
          rw [htr] at hfail
          cases hfail
          have hno := (hper.2 ⟨2, by decide, _, s₁, htr⟩).1
          cases hno

end SailRiscv
