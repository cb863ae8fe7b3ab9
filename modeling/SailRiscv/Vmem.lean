/-
# Virtual memory

Address translation for Sv32, Sv39 and Sv48 (`riscv_vmem.sail` and the files it builds on):
page-table entries, the page-table walk, the translation look-aside buffer, and the
translation of an address with the write-back of the A and D bits.
-/
import SailRiscv.Mem

namespace SailRiscv

open Bits Platform

variable [Platform]

/-! ## Parameters of the modes -/

/-- `SV_Params`. -/
structure SVParams where
  vaSizeBits : ℕ
  vpnSizeBits : ℕ
  levels : ℕ
  logPteSizeBytes : ℕ
  pteMsbsLsbIndex : ℕ
  pteMsbsSizeBits : ℕ
  ptePPNsLsbIndex : ℕ
  ptePPNsSizeBits : ℕ
  ptePPNjSizeBits : ℕ
  deriving DecidableEq

/-- `sv32_params`. -/
def sv32Params : SVParams where
  vaSizeBits := 32
  vpnSizeBits := 10
  levels := 2
  logPteSizeBytes := 2
  pteMsbsLsbIndex := 32
  pteMsbsSizeBits := 0
  ptePPNsLsbIndex := 10
  ptePPNsSizeBits := 22
  ptePPNjSizeBits := 10

/-- `sv39_params`. -/
def sv39Params : SVParams where
  vaSizeBits := 39
  vpnSizeBits := 9
  levels := 3
  logPteSizeBytes := 3
  pteMsbsLsbIndex := 54
  pteMsbsSizeBits := 10
  ptePPNsLsbIndex := 10
  ptePPNsSizeBits := 44
  ptePPNjSizeBits := 9

/-- `sv48_params`. -/
def sv48Params : SVParams where
  vaSizeBits := 48
  vpnSizeBits := 9
  levels := 4
  logPteSizeBytes := 3
  pteMsbsLsbIndex := 54
  pteMsbsSizeBits := 10
  ptePPNsLsbIndex := 10
  ptePPNsSizeBits := 44
  ptePPNjSizeBits := 9

/-- The size of a PTE in bytes. -/
def SVParams.pteSize (p : SVParams) : ℕ := 2 ^ p.logPteSizeBytes

/-! ## Page-table entries -/

/-- `PPNs_of_PTE`. -/
def ppnsOfPTE (p : SVParams) (pte : BitVec 64) : BitVec 64 :=
  (pte >>> p.ptePPNsLsbIndex) &&& lowOnes 64 p.ptePPNsSizeBits

namespace PTEFlags
@[reducible] def D : Field := ⟨7, 1⟩
@[reducible] def A : Field := ⟨6, 1⟩
@[reducible] def G : Field := ⟨5, 1⟩
@[reducible] def U : Field := ⟨4, 1⟩
@[reducible] def X : Field := ⟨3, 1⟩
@[reducible] def W : Field := ⟨2, 1⟩
@[reducible] def R : Field := ⟨1, 1⟩
@[reducible] def V : Field := ⟨0, 1⟩
end PTEFlags

/-- The flags of a PTE, its lowest byte. -/
def pteFlags (pte : BitVec 64) : BitVec 8 := pte.extractLsb' 0 8

/-- `pte_is_ptr`. -/
def pteIsPtr (flags : BitVec 8) : Bool :=
  PTEFlags.X.get flags == 0#1 && PTEFlags.W.get flags == 0#1 && PTEFlags.R.get flags == 0#1

/-- `pte_is_invalid`. -/
def pteIsInvalid (flags : BitVec 8) : Bool :=
  PTEFlags.V.get flags == 0#1 || (PTEFlags.W.get flags == 1#1 && PTEFlags.R.get flags == 0#1)

/-- `check_PTE_permission`. -/
def checkPTEPermission (ac : AccessType) (priv : Privilege) (mxr doSum : Bool)
    (flags : BitVec 8) : Except ModelError Bool :=
  let u := PTEFlags.U.get flags == 1#1
  let r := PTEFlags.R.get flags == 1#1
  let w := PTEFlags.W.get flags == 1#1
  let x := PTEFlags.X.get flags == 1#1
  match priv, ac with
  | .User, .Read => .ok (u && (r || (x && mxr)))
  | .User, .Write => .ok (u && w)
  | .User, .ReadWrite => .ok (u && w && (r || (x && mxr)))
  | .User, .Execute => .ok (u && x)
  | .Supervisor, .Read => .ok ((!u || doSum) && (r || (x && mxr)))
  | .Supervisor, .Write => .ok ((!u || doSum) && w)
  | .Supervisor, .ReadWrite => .ok ((!u || doSum) && w && (r || (x && mxr)))
  | .Supervisor, .Execute => .ok (!u && x)
  | .Machine, _ => .error (.internalError "m-mode mem perm check")

/-- Whether an access of this type dirties the page. -/
def dirties (ac : AccessType) : Bool :=
  match ac with
  | .Execute | .Read => false
  | .Write | .ReadWrite => true

/-- `update_PTE_Bits`. -/
def updatePTEBits (pte : BitVec 64) (ac : AccessType) : Option (BitVec 64) :=
  let flags := pteFlags pte
  let updateD := PTEFlags.D.get flags == 0#1 && dirties ac
  let updateA := PTEFlags.A.get flags == 0#1
  if updateD || updateA then
    let flags := PTEFlags.A.set flags 1#1
    let flags := PTEFlags.D.set flags (if updateD then 1#1 else PTEFlags.D.get flags)
    some (pte.extractLsb' 8 56 ++ flags)
  else none

/-! ## Errors of a translation -/

/-- `PTW_Error`; the extension errors of the source are never raised. -/
inductive PTWError where
  | PTW_Invalid_Addr | PTW_Access | PTW_Invalid_PTE | PTW_No_Permission | PTW_Misaligned
  | PTW_PTE_Update
  deriving DecidableEq, Repr

/-- `translationException`. -/
def translationException (a : AccessType) (f : PTWError) : ExceptionType :=
  match a, f with
  | .ReadWrite, .PTW_Access => .E_SAMO_Access_Fault
  | .ReadWrite, _ => .E_SAMO_Page_Fault
  | .Read, .PTW_Access => .E_Load_Access_Fault
  | .Read, _ => .E_Load_Page_Fault
  | .Write, .PTW_Access => .E_SAMO_Access_Fault
  | .Write, _ => .E_SAMO_Page_Fault
  | .Execute, .PTW_Access => .E_Fetch_Access_Fault
  | .Execute, _ => .E_Fetch_Page_Fault

/-! ## The look-aside buffer -/

/-- `tlb_hash`. -/
def tlbHash (vaddr : BitVec 64) : Fin 64 := (vaddr.extractLsb' 12 6).toFin

/-- `init_TLB`. -/
def initTLB : M Unit := Exec.update (fun s => { s with tlb := fun _ => none })

/-- `write_TLB`. -/
def writeTLB (index : Fin 64) (ent : TLBEntry) : M Unit :=
  Exec.update (fun s => { s with tlb := Function.update s.tlb index (some ent) })

/-- `match_TLB_Entry`. -/
def matchTLBEntry (ent : TLBEntry) (asid : BitVec 16) (vaddr : BitVec 64) : Bool :=
  (ent.global || ent.asid == asid) && ent.vAddr == (ent.vMatchMask &&& vaddr)

/-- `flush_TLB_Entry`. -/
def flushTLBEntry (e : TLBEntry) (asid : Option (BitVec 16)) (addr : Option (BitVec 64)) :
    Bool :=
  match asid, addr with
  | none, none => true
  | none, some a => e.vAddr == (e.vMatchMask &&& a)
  | some i, none => e.asid == i && !e.global
  | some i, some a => e.asid == i && e.vAddr == (a &&& e.vMatchMask) && !e.global

/-- `lookup_TLB`. -/
def lookupTLB (s : State) (asid : BitVec 16) (vaddr : BitVec 64) : Option (Fin 64 × TLBEntry) :=
  match s.tlb (tlbHash vaddr) with
  | none => none
  | some ent => if matchTLBEntry ent asid vaddr then some (tlbHash vaddr, ent) else none

/-- The entry that `add_to_TLB` builds; `shift` is the number of untranslated bits. -/
def mkTLBEntry (asid : BitVec 16) (vAddr pAddr pte pteAddr : BitVec 64) (shift : ℕ)
    (hshift : pagesizeBits ≤ shift) (global : Bool) (age : BitVec 64) : TLBEntry where
  asid := asid
  global := global
  pte := pte
  pteAddr := pteAddr
  vAddrMask := lowOnes 64 shift
  vMatchMask := ~~~lowOnes 64 shift
  vAddr := vAddr &&& ~~~lowOnes 64 shift
  pAddr := pAddr &&& ~~~lowOnes 64 shift
  age := age
  pages := by
    refine ⟨shift, hshift, rfl, rfl, ?_⟩
    rw [BitVec.and_assoc, BitVec.not_and_self]
    exact BitVec.and_zero

/-- `add_to_TLB`. -/
def addToTLB (asid : BitVec 16) (vAddr pAddr pte pteAddr : BitVec 64) (level : ℕ)
    (global : Bool) (levelBitSize : ℕ) : M Unit := do
  let shift := pagesizeBits + level * levelBitSize
  assert (decide (shift ≤ 64)) ""
  Exec.update (fun s => { s with
    tlb := Function.update s.tlb (tlbHash vAddr)
      (some (mkTLBEntry asid vAddr pAddr pte pteAddr shift (Nat.le_add_right _ _) global
        s.mcycle)) })

/-- `flush_TLB`. -/
def flushTLB (asid addr : Option Xlenbits) : M Unit :=
  let asid : Option (BitVec 16) := asid.map (fun a => a.extractLsb' 0 16)
  let addr : Option (BitVec 64) := addr.map (fun a => a.setWidth 64)
  Exec.update (fun s => { s with
    tlb := fun i => (s.tlb i).filter (fun e => !flushTLBEntry e asid addr) })

/-! ## Fields of virtual addresses -/

/-- `vpns_of_va`. -/
def vpnsOfVa (p : SVParams) (va : BitVec 64) : BitVec 64 :=
  (va &&& lowOnes 64 p.vaSizeBits) >>> pagesizeBits

/-- `vpn_j_of_va`. -/
def vpnJOfVa (p : SVParams) (va : BitVec 64) (level : ℕ) : Except ModelError (BitVec 64) :=
  let lsb := pagesizeBits + level * p.vpnSizeBits
  if lsb < xlen then .ok ((va >>> lsb) &&& lowOnes 64 p.vpnSizeBits)
  else .error (.assertFailed "")

/-- `offset_of_va`. -/
def offsetOfVa (va : BitVec 64) : BitVec 12 := va.extractLsb' 0 12

/-- `is_valid_vAddr`. -/
def isValidVAddr (p : SVParams) (vAddr : BitVec 64) : Bool :=
  vAddr == (vAddr.setWidth p.vaSizeBits).signExtend 64

/-! ## The page-table walk -/

/-- `PTW_Success`: what a successful walk delivers. -/
structure PTWOutput where
  pAddr : BitVec 64
  pte : BitVec 64
  pteAddr : BitVec 64
  level : ℕ
  global : Bool
  deriving DecidableEq

/-- `PTW_Result`. -/
inductive PTWResult where
  | PTW_Success (o : PTWOutput)
  | PTW_Failure (e : PTWError)
  deriving DecidableEq

/-- The part of `pt_walk` that handles a leaf PTE. -/
def ptwLeaf (p : SVParams) (va : BitVec 64) (ac : AccessType) (priv : Privilege)
    (mxr doSum : Bool) (pte pteAddr : BitVec 64) (level : ℕ) (global : Bool) :
    Except ModelError PTWResult := do
  let ppns := ppnsOfPTE p pte
  if !(← checkPTEPermission ac priv mxr doSum (pteFlags pte)) then
    pure (.PTW_Failure .PTW_No_Permission)
  else if 0 < level then
    -- a superpage: the low PPNs must be clear, and come from the address
    let maskBits := level * p.ptePPNjSizeBits
    if ppns ≠ (ppns >>> maskBits) <<< maskBits then pure (.PTW_Failure .PTW_Misaligned)
    else
      let mask := ~~~(BitVec.allOnes 64 <<< maskBits)
      let ppn := ppns ||| (vpnsOfVa p va &&& mask)
      let pa := (ppn <<< pagesizeBits) ||| (offsetOfVa va).setWidth 64
      pure (.PTW_Success ⟨pa, pte, pteAddr, level, global⟩)
  else
    let pa := (ppns <<< pagesizeBits) ||| (offsetOfVa va).setWidth 64
    pure (.PTW_Success ⟨pa, pte, pteAddr, level, global⟩)

/-- Read the PTE at `pteAddr`, of which only the lowest `xlen` bits reach the memory, and
extend it to 64 bits. -/
def readPTE (s : State) (p : SVParams) (pteAddr : BitVec 64) :
    Except ModelError (Option (BitVec 64)) := do
  match ← memReadPriv s .Read .Supervisor (pteAddr.setWidth xlen) p.pteSize false false false with
  | .MemException _ => pure none
  | .MemValue pte => pure (some (pte.setWidth 64))

/-- `pt_walk`. -/
def ptWalk (s : State) (p : SVParams) (va : BitVec 64) (ac : AccessType) (priv : Privilege)
    (mxr doSum : Bool) (ptBase : BitVec 64) (level : ℕ) (global : Bool) :
    Except ModelError PTWResult := do
  let vpnJ ← vpnJOfVa p va level
  let pteAddr := ptBase + (vpnJ <<< p.logPteSizeBytes)
  match ← readPTE s p pteAddr with
  | none => pure (.PTW_Failure .PTW_Access)
  | some pte =>
      let flags := pteFlags pte
      if pteIsInvalid flags then pure (.PTW_Failure .PTW_Invalid_PTE)
      else
        let global' := global || PTEFlags.G.get flags == 1#1
        if pteIsPtr flags then
          match level with
          | level' + 1 =>
              ptWalk s p va ac priv mxr doSum (ppnsOfPTE p pte <<< pagesizeBits) level' global'
          -- a pointer at level 0
          | 0 => pure (.PTW_Failure .PTW_Invalid_PTE)
        else ptwLeaf p va ac priv mxr doSum pte pteAddr level global'

/-! ## The translation mode -/

/-- `satp_to_asid`. -/
def satpToAsid (satp : Xlenbits) : BitVec 16 :=
  if xlen = 32 then (Satp32.Asid.get satp).setWidth 16 else Satp64.Asid.get satp

/-- `satp_to_PT_base`. -/
def satpToPTBase (satp : Xlenbits) : BitVec 64 :=
  (if xlen = 32 then (Satp32.PPN.get satp).setWidth 64
    else (Satp64.PPN.get satp).setWidth 64) <<< pagesizeBits

/-- The mode in the Sv32 format of `satp`. -/
def satp32Mode (satp : Xlenbits) : SATPMode :=
  if Satp32.Mode.get satp = 0#1 then .Sbare else .Sv32

/-- `translationMode`. -/
def translationMode (s : State) (priv : Privilege) : Except ModelError SATPMode :=
  if priv = .Machine then .ok .Sbare
  else if xlen = 32 then .ok (satp32Mode s.satp)
  else
    match architecture (getMstatusSXL s.mstatus) with
    | some .RV64 =>
        match satp64ModeOfBits .RV64 (Satp64.Mode.get s.satp) with
        | some m => .ok m
        | none => .error (.internalError "invalid RV64 translation mode in satp")
    | some .RV32 => .ok (satp32Mode s.satp)
    | _ => .error (.internalError "unsupported address translation arch")

/-! ## Translation -/

/-- `TR_Result`. -/
inductive TRResult (α β : Type) where
  | TR_Address (paddr : α)
  | TR_Failure (e : β)
  deriving DecidableEq

/-- `write_pte`. -/
def writePte (p : SVParams) (paddr : Xlenbits) (pte : BitVec 64) : M (MemoryOpResult Bool) :=
  memWriteValuePriv paddr p.pteSize (pte.setWidth (8 * p.pteSize)) .Supervisor false false false

/-- The address that an entry translates `vAddr` to. -/
def TLBEntry.translate (ent : TLBEntry) (vAddr : BitVec 64) : BitVec 64 :=
  ent.pAddr ||| (vAddr &&& ent.vAddrMask)

/-- `translate_TLB_hit`. -/
def translateTLBHit (p : SVParams) (vAddr : BitVec 64) (ac : AccessType) (priv : Privilege)
    (mxr doSum : Bool) (index : Fin 64) (ent : TLBEntry) : M (TRResult (BitVec 64) PTWError) := do
  if !(← Exec.checks (fun _ => checkPTEPermission ac priv mxr doSum (pteFlags ent.pte))) then
    pure (.TR_Failure .PTW_No_Permission)
  else
    match updatePTEBits ent.pte ac with
    | none => pure (.TR_Address (ent.translate vAddr))
    | some pte' =>
        if !platEnableDirtyUpdate then pure (.TR_Failure .PTW_PTE_Update)
        else
          writeTLB index { ent with pte := pte' }
          match ← writePte p (ent.pteAddr.setWidth xlen) pte' with
          | .MemValue _ => pure (.TR_Address (ent.translate vAddr))
          | .MemException _ => internalError "invalid physical address in TLB"

/-- `translate_TLB_miss`. -/
def translateTLBMiss (p : SVParams) (asid : BitVec 16) (ptb vAddr : BitVec 64) (ac : AccessType)
    (priv : Privilege) (mxr doSum : Bool) : M (TRResult (BitVec 64) PTWError) := do
  match ← Exec.checks (fun s => ptWalk s p vAddr ac priv mxr doSum ptb (p.levels - 1) false) with
  | .PTW_Failure f => pure (.TR_Failure f)
  | .PTW_Success o =>
      match updatePTEBits o.pte ac with
      | none =>
          addToTLB asid vAddr o.pAddr o.pte o.pteAddr o.level o.global p.vpnSizeBits
          pure (.TR_Address o.pAddr)
      | some pte' =>
          if !platEnableDirtyUpdate then pure (.TR_Failure .PTW_PTE_Update)
          else
            match ← writePte p (o.pteAddr.setWidth xlen) pte' with
            | .MemValue _ =>
                addToTLB asid vAddr o.pAddr pte' o.pteAddr o.level o.global p.vpnSizeBits
                pure (.TR_Address o.pAddr)
            | .MemException _ => pure (.TR_Failure .PTW_Access)

/-- `translate`. -/
def translate (p : SVParams) (asid : BitVec 16) (ptb vAddr : BitVec 64) (ac : AccessType)
    (priv : Privilege) (mxr doSum : Bool) : M (TRResult (BitVec 64) PTWError) := do
  match ← Exec.reads (fun s => lookupTLB s asid vAddr) with
  | some (index, ent) => translateTLBHit p vAddr ac priv mxr doSum index ent
  | none => translateTLBMiss p asid ptb vAddr ac priv mxr doSum

/-- The parameters of a mode that translates. -/
def svParams : SATPMode → Option SVParams
  | .Sbare => none
  | .Sv32 => some sv32Params
  | .Sv39 => some sv39Params
  | .Sv48 => some sv48Params

/-- `translateAddr`; every address is valid in Sv32. -/
def translateAddr (vAddr : Xlenbits) (ac : AccessType) :
    M (TRResult Xlenbits ExceptionType) := do
  let effPriv ← Exec.checks (fun s => effectivePrivilege ac s.mstatus s.curPrivilege)
  let mode ← Exec.checks (fun s => translationMode s effPriv)
  match svParams mode with
  | none => pure (.TR_Address vAddr)
  | some p =>
      if !(mode == .Sv32 || isValidVAddr p (vAddr.setWidth 64)) then
        pure (.TR_Failure (translationException ac .PTW_Invalid_Addr))
      else
        let s ← get
        match ← translate p (satpToAsid s.satp) (satpToPTBase s.satp) (vAddr.setWidth 64) ac
          effPriv (Mstatus.MXR.get s.mstatus == 1#1) (Mstatus.SUM.get s.mstatus == 1#1) with
        | .TR_Address pa => pure (.TR_Address (pa.setWidth xlen))
        | .TR_Failure f => pure (.TR_Failure (translationException ac f))

end SailRiscv
