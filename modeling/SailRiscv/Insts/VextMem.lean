/-
# Vector loads and stores

`riscv_insts_vext_mem.sail`.

The clauses go through the elements of their register groups one by one and leave at the
first access that traps.  Their loops carry what the source changes in them; a loop without
a value is one that an exception ended.
-/
import SailRiscv.VextElems

namespace SailRiscv

open Bits Platform

/-! ## Syntax -/

/-- `vlewidth`. -/
inductive Vlewidth where
  | VLE8 | VLE16 | VLE32 | VLE64
  deriving DecidableEq, Repr

/-- `vmlsop`. -/
inductive Vmlsop where
  | VLM | VSM
  deriving DecidableEq, Repr

/-- The clauses of `ast` for vector loads and stores. -/
inductive VextMemInst where
  | VLSEGTYPE (nf : BitVec 3) (vm : BitVec 1) (rs1 : Regidx) (width : Vlewidth) (vd : Regidx)
  | VLSEGFFTYPE (nf : BitVec 3) (vm : BitVec 1) (rs1 : Regidx) (width : Vlewidth) (vd : Regidx)
  | VSSEGTYPE (nf : BitVec 3) (vm : BitVec 1) (rs1 : Regidx) (width : Vlewidth) (vs3 : Regidx)
  | VLSSEGTYPE (nf : BitVec 3) (vm : BitVec 1) (rs2 rs1 : Regidx) (width : Vlewidth) (vd : Regidx)
  | VSSSEGTYPE (nf : BitVec 3) (vm : BitVec 1) (rs2 rs1 : Regidx) (width : Vlewidth) (vs3 : Regidx)
  | VLUXSEGTYPE (nf : BitVec 3) (vm : BitVec 1) (vs2 rs1 : Regidx) (width : Vlewidth) (vd : Regidx)
  | VLOXSEGTYPE (nf : BitVec 3) (vm : BitVec 1) (vs2 rs1 : Regidx) (width : Vlewidth) (vd : Regidx)
  | VSUXSEGTYPE (nf : BitVec 3) (vm : BitVec 1) (vs2 rs1 : Regidx) (width : Vlewidth) (vs3 : Regidx)
  | VSOXSEGTYPE (nf : BitVec 3) (vm : BitVec 1) (vs2 rs1 : Regidx) (width : Vlewidth) (vs3 : Regidx)
  | VLRETYPE (nf : BitVec 3) (rs1 : Regidx) (width : Vlewidth) (vd : Regidx)
  | VSRETYPE (nf : BitVec 3) (rs1 vs3 : Regidx)
  | VMTYPE (rs1 vdOrVs3 : Regidx) (op : Vmlsop)
  deriving DecidableEq, Repr

/-- `nfields_int`. -/
def nfieldsInt (nf : BitVec 3) : ℕ := nf.toNat + 1

/-- `vlewidth_pow`. -/
def vlewidthPow : Vlewidth → ℕ
  | .VLE8 => 3
  | .VLE16 => 4
  | .VLE32 => 5
  | .VLE64 => 6

/-- `vlewidth_bytesnumber`. -/
def vlewidthBytesnumber : Vlewidth → ℕ
  | .VLE8 => 1
  | .VLE16 => 2
  | .VLE32 => 4
  | .VLE64 => 8

/-! ## Decoding -/

/-- `encdec_vlewidth`. -/
def encdecVlewidth : List (BitVec 3 × Vlewidth) :=
  [(0b000, .VLE8), (0b101, .VLE16), (0b110, .VLE32), (0b111, .VLE64)]

/-- `encdec_lsop`. -/
def encdecLsop : List (BitVec 7 × Vmlsop) := [(0b0000111, .VLM), (0b0100111, .VSM)]

variable [Platform]

/-- The clauses of `encdec` for vector loads and stores, read backwards. -/
def VextMemInst.decode (s : State) (w : BitVec 32) : Option VextMemInst :=
  let v := bits w 28 1 == 0b0#1 && extensionEnabled s .V
  let load := v && bits w 0 7 == 0b0000111#7
  let store := v && bits w 0 7 == 0b0100111#7
  let nf := bits w 29 3
  let mop := bits w 26 2
  let vm : BitVec 1 := bits w 25 1
  let width := bits w 12 3
  let (r2, r1, vd) := (rs2Of w, rs1Of w, rdOf w)
  firstClause [
    mapped (load && mop == 0b00#2 && r2 == 0b00000#5) encdecVlewidth width
      (.VLSEGTYPE nf vm r1 · vd),
    mapped (load && mop == 0b00#2 && r2 == 0b10000#5) encdecVlewidth width
      (.VLSEGFFTYPE nf vm r1 · vd),
    mapped (store && mop == 0b00#2 && r2 == 0b00000#5) encdecVlewidth width
      (.VSSEGTYPE nf vm r1 · vd),
    mapped (load && mop == 0b10#2) encdecVlewidth width (.VLSSEGTYPE nf vm r2 r1 · vd),
    mapped (store && mop == 0b10#2) encdecVlewidth width (.VSSSEGTYPE nf vm r2 r1 · vd),
    mapped (load && mop == 0b01#2) encdecVlewidth width (.VLUXSEGTYPE nf vm r2 r1 · vd),
    mapped (load && mop == 0b11#2) encdecVlewidth width (.VLOXSEGTYPE nf vm r2 r1 · vd),
    mapped (store && mop == 0b01#2) encdecVlewidth width (.VSUXSEGTYPE nf vm r2 r1 · vd),
    mapped (store && mop == 0b11#2) encdecVlewidth width (.VSOXSEGTYPE nf vm r2 r1 · vd),
    mapped (load && mop == 0b00#2 && vm == 0b1#1 && r2 == 0b01000#5) encdecVlewidth width
      (.VLRETYPE nf r1 · vd),
    clause (store && mop == 0b00#2 && vm == 0b1#1 && r2 == 0b01000#5 && width == 0b000#3)
      (.VSRETYPE nf r1 vd),
    mapped (v && nf == 0b000#3 && mop == 0b00#2 && vm == 0b1#1 && r2 == 0b01011#5
        && width == 0b000#3) encdecLsop (bits w 0 7) (.VMTYPE r1 vd ·)]

/-! ## Segments -/

/-- `read_vreg_seg`. -/
def readVregSeg (numElem SEW : ℕ) (lmul : ℤ) (nf : ℕ) (vrid : Regidx) :
    M (ℕ → BitVec (nf * SEW)) := do
  let none : ℕ → ℕ → BitVec SEW := fun _ _ => BitVec.ofNat SEW 0
  let vregList ← Exec.foreach 0 nf none fun j acc => do
    let fieldVal ← readVreg numElem SEW lmul (groupReg vrid (j * groupRegs lmul))
    pure (Function.update acc j fieldVal)
  pure fun i => forUp nf 0#_ fun j r => r ||| (vregList j i).setWidth _ <<< (j * SEW)

/-- `vstart = to_bits(16, i)`. -/
def setVstart (i : ℕ) : M Unit :=
  Exec.update (fun s => { s with vstart := BitVec.ofNat 16 i })

/-- `vl = to_bits(xlen, i)`. -/
def trimVl (i : ℕ) : M Unit :=
  Exec.update (fun s => { s with vl := BitVec.ofNat xlen i })

/-- Write the fields of segment `i` of a load that is not active, with the value they have
in `segment`. -/
def writeSkipped (bytes nf : ℕ) (EMUL : ℤ) (vd : Regidx) (segment : BitVec (nf * (8 * bytes)))
    (i : ℕ) : M Unit :=
  Exec.foreach 0 nf () fun j _ =>
    writeSingleElement (8 * bytes) i (groupReg vd (j * groupRegs EMUL))
      (slice segment (j * (8 * bytes)) (8 * bytes))

/-! ## Accesses to one element -/

/-- The width of an access. -/
def widthOfBytes (bytes : ℕ) : WordWidth :=
  if bytes = 1 then .BYTE else if bytes = 2 then .HALF else if bytes = 4 then .WORD else .DOUBLE

/-- `{ handle_mem_exception(vaddr, e); return RETIRE_FAIL }` in a loop. -/
def faultExit {α : Type} (vaddr : Xlenbits) (e : ExceptionType) : M (Option α) := do
  handleMemException vaddr e
  pure none

/-- `RETIRE_FAIL` after a loop that an exception ended, and the rest of the clause otherwise. -/
def onLoop {α : Type} (r : Option α) (k : α → M Retired) : M Retired :=
  match r with
  | none => pure .RETIRE_FAIL
  | some a => k a

/-- The load of an element of `bytes` bytes at an offset from `rs1`; `fault` handles an
exception. -/
def loadElem {α : Type} (fault : Xlenbits → ExceptionType → M α) (rs1 : Regidx) (offset : ℤ)
    (bytes : ℕ) (k : BitVec (8 * bytes) → M α) : M α := do
  let vaddr ← extDataGetAddr rs1 (toBits xlen offset)
  if checkMisaligned vaddr (widthOfBytes bytes) then fault vaddr .E_Load_Addr_Align
  else
    onAddress (fault vaddr) (← translateAddr vaddr .Read) fun paddr => do
      onMemValue (fault vaddr) (← memRead .Read paddr bytes false false false) k

/-- The store of an element of `bytes` bytes at an offset from `rs1`. -/
def storeElem {α : Type} (fault : Xlenbits → ExceptionType → M α) (rs1 : Regidx) (offset : ℤ)
    (bytes : ℕ) (elem : M (BitVec (8 * bytes))) (k : M α) : M α := do
  let vaddr ← extDataGetAddr rs1 (toBits xlen offset)
  if checkMisaligned vaddr (widthOfBytes bytes) then fault vaddr .E_SAMO_Addr_Align
  else
    onAddress (fault vaddr) (← translateAddr vaddr .Write) fun paddr => do
      onMemValue (fault vaddr)
        (← Exec.checks (fun _ => memWriteEa paddr bytes false false false)) fun _ => do
          let elemVal ← elem
          onStored (fault vaddr) (← memWriteValue paddr bytes elemVal false false false)
            "store got false from mem_write_value" k

/-! ## Segment loads -/

/-- The offsets of the fields of segments, `offset i j` for field `j` of segment `i`. -/
abbrev Offsets := ℕ → ℕ → ℤ

/-- The segments follow one another. -/
def unitOffsets (nf bytes : ℕ) : M Offsets := pure fun i j => (i * nf + j) * bytes

/-- The segments are `rs2` bytes apart. -/
def stridedOffsets (rs2 : Regidx) (bytes : ℕ) : M Offsets := do
  let rs2Val ← getScalar rs2 xlen
  pure fun i j => i * rs2Val.toNat + j * bytes

/-- The offset of each segment is an element of `vs2`. -/
def indexedOffsets (numElem EEWindex : ℕ) (EMULindex : ℤ) (vs2 : Regidx) (bytes : ℕ) :
    M Offsets := do
  let vs2Val ← readVreg numElem EEWindex EMULindex vs2
  pure fun i j => (vs2Val i).toNat + j * bytes

/-- The load of an active segment. -/
def loadSegment (nf : ℕ) (vd : Regidx) (bytes : ℕ) (rs1 : Regidx) (EMUL : ℤ) (offset : Offsets)
    (i : ℕ) : M (Option Unit) := do
  setVstart i
  Exec.foreachTry 0 nf () fun j _ =>
    loadElem faultExit rs1 (offset i j) bytes fun elem => do
      writeSingleElement (8 * bytes) i (groupReg vd (j * groupRegs EMUL)) elem
      pure (some ())

/-- The common body of `process_vlseg`, `process_vlsseg` and `process_vlxseg`. -/
def processLoad (nf : ℕ) (vm : BitVec 1) (vd : Regidx) (bytes : ℕ) (rs1 : Regidx) (EMUL : ℤ)
    (numElem : ℕ) (offsets : M Offsets) : M Retired := do
  let vmVal ← readVmask numElem vm 0b00000#5
  let vdSeg ← readVregSeg numElem (8 * bytes) EMUL nf vd
  let offset ← offsets
  let init ← initMaskedResult numElem EMUL vdSeg vmVal
  let loop ← Exec.foreachTry 0 numElem () fun i _ =>
    if init.2 i then loadSegment nf vd bytes rs1 EMUL offset i
    else value (writeSkipped bytes nf EMUL vd (init.1 i) i)
  onLoop loop fun _ => endVector

/-- `process_vlseg`. -/
def processVlseg (nf : ℕ) (vm : BitVec 1) (vd : Regidx) (bytes : ℕ) (rs1 : Regidx) (EMUL : ℤ)
    (numElem : ℕ) : M Retired :=
  processLoad nf vm vd bytes rs1 EMUL numElem (unitOffsets nf bytes)

/-- `process_vlsseg`. -/
def processVlsseg (nf : ℕ) (vm : BitVec 1) (vd : Regidx) (bytes : ℕ) (rs1 rs2 : Regidx)
    (EMUL : ℤ) (numElem : ℕ) : M Retired :=
  processLoad nf vm vd bytes rs1 EMUL numElem (stridedOffsets rs2 bytes)

/-- `process_vlxseg`; the ordered and the unordered form do the same. -/
def processVlxseg (nf : ℕ) (vm : BitVec 1) (vd : Regidx) (EEWindexBytes EEWdataBytes : ℕ)
    (EMULindex EMULdata : ℤ) (rs1 vs2 : Regidx) (numElem _mop : ℕ) : M Retired :=
  processLoad nf vm vd EEWdataBytes rs1 EMULdata numElem
    (indexedOffsets numElem (8 * EEWindexBytes) EMULindex vs2 EEWdataBytes)

/-! ## Fault-only-first loads -/

/-- The exception of element `i` of a fault-only-first load: it is taken at the first
element, and trims `vl` at a later one. -/
def trimOrFault (i : ℕ) (vaddr : Xlenbits) (e : ExceptionType) : M (Option Bool) :=
  if i = 0 then faultExit vaddr e
  else do
    trimVl i
    pure (some true)

/-- An iteration of the loop of `process_vlsegff`, which carries `trimmed`. -/
def loadSegmentFF (nf : ℕ) (vd : Regidx) (bytes : ℕ) (rs1 : Regidx) (EMUL : ℤ) (tailAg : Bool)
    (mask : Bool) (skipped vdSeg : BitVec (nf * (8 * bytes))) (i : ℕ) (trimmed : Bool) :
    M (Option Bool) :=
  if !trimmed then
    if mask then
      Exec.foreachTry 0 nf trimmed fun j trimmed =>
        loadElem (trimOrFault i) rs1 ((i * nf + j) * bytes) bytes fun elem => do
          writeSingleElement (8 * bytes) i (groupReg vd (j * groupRegs EMUL)) elem
          pure (some trimmed)
    else do
      writeSkipped bytes nf EMUL vd skipped i
      pure (some trimmed)
  else if tailAg then do
    writeSkipped bytes nf EMUL vd vdSeg i
    pure (some trimmed)
  else pure (some trimmed)

/-- `process_vlsegff`. -/
def processVlsegff (nf : ℕ) (vm : BitVec 1) (vd : Regidx) (bytes : ℕ) (rs1 : Regidx) (EMUL : ℤ)
    (numElem : ℕ) : M Retired := do
  let vmVal ← readVmask numElem vm 0b00000#5
  let vdSeg ← readVregSeg numElem (8 * bytes) EMUL nf vd
  let tailAg ← Exec.reads (fun s => Vtype.vta.get s.vtype == 1#1)
  let init ← initMaskedResult numElem EMUL vdSeg vmVal
  let loop ← Exec.foreachTry 0 numElem false fun i trimmed =>
    loadSegmentFF nf vd bytes rs1 EMUL tailAg (init.2 i) (init.1 i) (vdSeg i) i trimmed
  onLoop loop fun _ => endVector

/-! ## Segment stores -/

/-- The store of an active segment. -/
def storeSegment (nf : ℕ) (vs3 : Regidx) (bytes : ℕ) (rs1 : Regidx) (EMUL : ℤ)
    (offset : Offsets) (i : ℕ) : M (Option Unit) := do
  setVstart i
  Exec.foreachTry 0 nf () fun j _ =>
    storeElem faultExit rs1 (offset i j) bytes
      (readSingleElement (8 * bytes) i (groupReg vs3 (j * groupRegs EMUL))) (pure (some ()))

/-- The common body of `process_vsseg`, `process_vssseg` and `process_vsxseg`. -/
def processStore (nf : ℕ) (vm : BitVec 1) (vs3 : Regidx) (bytes : ℕ) (rs1 : Regidx) (EMUL : ℤ)
    (numElem : ℕ) (offsets : M Offsets) : M Retired := do
  let vmVal ← readVmask numElem vm 0b00000#5
  let _ ← readVregSeg numElem (8 * bytes) EMUL nf vs3
  let offset ← offsets
  let mask ← initMaskedSource numElem EMUL vmVal
  let loop ← Exec.foreachTry 0 numElem () fun i _ =>
    if mask i then storeSegment nf vs3 bytes rs1 EMUL offset i else pure (some ())
  onLoop loop fun _ => endVector

/-- `process_vsseg`. -/
def processVsseg (nf : ℕ) (vm : BitVec 1) (vs3 : Regidx) (bytes : ℕ) (rs1 : Regidx) (EMUL : ℤ)
    (numElem : ℕ) : M Retired :=
  processStore nf vm vs3 bytes rs1 EMUL numElem (unitOffsets nf bytes)

/-- `process_vssseg`. -/
def processVssseg (nf : ℕ) (vm : BitVec 1) (vs3 : Regidx) (bytes : ℕ) (rs1 rs2 : Regidx)
    (EMUL : ℤ) (numElem : ℕ) : M Retired :=
  processStore nf vm vs3 bytes rs1 EMUL numElem (stridedOffsets rs2 bytes)

/-- `process_vsxseg`; the ordered and the unordered form do the same. -/
def processVsxseg (nf : ℕ) (vm : BitVec 1) (vs3 : Regidx) (EEWindexBytes EEWdataBytes : ℕ)
    (EMULindex EMULdata : ℤ) (rs1 vs2 : Regidx) (numElem _mop : ℕ) : M Retired :=
  processStore nf vm vs3 EEWdataBytes rs1 EMULdata numElem
    (indexedOffsets numElem (8 * EEWindexBytes) EMULindex vs2 EEWdataBytes)

/-! ## Whole registers -/

/-- The loops of `process_vlre` and `process_vsre` from element `start` on: the rest of the
register that holds it, then the registers after it.  `elem field` is the access to element
`i` of register `field`, with the index `cur_elem` of the element that the loops carry. -/
def wholeRegisters {β : Type} (nf elemPerReg start : ℕ) (first : ℕ → ℕ → ℕ → M (Option ℕ))
    (field : ℕ → M β) (elem : β → ℕ → ℕ → ℕ → M (Option ℕ)) : M Retired := do
  let elemToAlign := start % elemPerReg
  let curField := start / elemPerReg
  let aligned ←
    if elemToAlign > 0 then
      Exec.foreachTry elemToAlign (elemPerReg - elemToAlign) start (first curField)
    else pure (some start)
  let curField := if elemToAlign > 0 then curField + 1 else curField
  onLoop aligned fun curElem => do
    let loop ← Exec.foreachTry curField (nf - curField) curElem fun j curElem => do
      let vals ← field j
      Exec.foreachTry 0 elemPerReg curElem (elem vals j)
    onLoop loop fun _ => endVector

/-- The load of element `i` of register `field` of a whole-register load. -/
def vlreElem (vd : Regidx) (bytes : ℕ) (rs1 : Regidx) (field i curElem : ℕ) :
    M (Option ℕ) := do
  setVstart curElem
  loadElem faultExit rs1 (curElem * bytes) bytes fun elem => do
    writeSingleElement (8 * bytes) i (groupReg vd field) elem
    pure (some (curElem + 1))

/-- `process_vlre`. -/
def processVlre (nf : ℕ) (vd : Regidx) (bytes : ℕ) (rs1 : Regidx) (elemPerReg : ℕ) :
    M Retired := do
  let start ← getStartElement
  if start ≥ nf * elemPerReg then pure .RETIRE_SUCCESS
  else
    wholeRegisters nf elemPerReg start (vlreElem vd bytes rs1) (fun _ => pure ())
      (fun _ => vlreElem vd bytes rs1)

/-- The store of an element of a whole-register store. -/
def vsreElem (bytes : ℕ) (rs1 : Regidx) (elem : M (BitVec (8 * bytes))) (curElem : ℕ) :
    M (Option ℕ) := do
  setVstart curElem
  storeElem faultExit rs1 (curElem * bytes) bytes elem (pure (some (curElem + 1)))

/-- `process_vsre`. -/
def processVsre (nf bytes : ℕ) (rs1 vs3 : Regidx) (elemPerReg : ℕ) : M Retired := do
  let start ← getStartElement
  if start ≥ nf * elemPerReg then pure .RETIRE_SUCCESS
  else
    wholeRegisters nf elemPerReg start
      (fun field i => vsreElem bytes rs1 (readSingleElement (8 * bytes) i (groupReg vs3 field)))
      (fun j => readVreg elemPerReg (8 * bytes) 0 (groupReg vs3 j))
      (fun vals _ i => vsreElem bytes rs1 (pure (vals i)))

/-! ## Masks -/

/-- An iteration of the loop of `process_vm`. -/
def vmElem (op : Vmlsop) (r rs1 : Regidx) (vals : ℕ → BitVec (8 * 1)) (evl i : ℕ) :
    M (Option Unit) :=
  if i < evl then do
    setVstart i
    match op with
    | .VLM => loadElem faultExit rs1 i 1 fun elem => value (writeSingleElement (8 * 1) i r elem)
    | .VSM => storeElem faultExit rs1 i 1 (pure (vals i)) (pure (some ()))
  else
    match op with
    | .VLM => value (writeSingleElement (8 * 1) i r (vals i))
    | .VSM => pure (some ())

/-- `process_vm`. -/
def processVm (r rs1 : Regidx) (numElem evl : ℕ) (op : Vmlsop) : M Retired := do
  let start ← getStartElement
  let vals ← readVreg numElem (8 * 1) 0 r
  let loop ← Exec.foreachTry start (numElem - start) () fun i _ => vmElem op r rs1 vals evl i
  onLoop loop fun _ => endVector

/-! ## Execution -/

/-- `EMUL_pow` of an access with elements of `width`. -/
def emulPow (width : Vlewidth) (sewPow : ℕ) (lmul : ℤ) : ℤ := vlewidthPow width - sewPow + lmul

/-- `get_sew_bytes`. -/
def getSewBytes : M ℕ := do
  let pow ← getSewPow
  pure (2 ^ (pow - 3))

/-- The common part of the clauses with elements of the width that they encode. -/
def executeWidth (nf : BitVec 3) (width : Vlewidth)
    (illegalInst : State → ℕ → ℕ → ℤ → Bool) (process : ℕ → ℕ → ℤ → ℕ → M Retired) :
    M Retired := do
  let bytes := vlewidthBytesnumber width
  let EEW := bytes * 8
  let sewPow ← getSewPow
  let lmul ← getLmulPow
  let EMUL := emulPow width sewPow lmul
  let numElem ← getNumElem EMUL EEW
  let nfInt := nfieldsInt nf
  orIllegal (fun s => illegalInst s nfInt EEW EMUL) (process nfInt bytes EMUL numElem)

/-- The common part of the clauses with indices of the width that they encode. -/
def executeIndexed (nf : BitVec 3) (width : Vlewidth)
    (illegalInst : State → ℕ → ℕ → ℤ → ℤ → Bool)
    (process : ℕ → ℕ → ℕ → ℤ → ℤ → ℕ → M Retired) : M Retired := do
  let EEWindexBytes := vlewidthBytesnumber width
  let sewPow ← getSewPow
  let EEWdataBytes ← getSewBytes
  let EMULdata ← getLmulPow
  let EMULindex := emulPow width sewPow EMULdata
  let numElem ← getNumElem EMULdata (EEWdataBytes * 8)
  let nfInt := nfieldsInt nf
  orIllegal (fun s => illegalInst s nfInt (EEWindexBytes * 8) EMULindex EMULdata)
    (process nfInt EEWindexBytes EEWdataBytes EMULindex EMULdata numElem)

/-- The check of the number of registers in `execute VLRETYPE` and `execute VSRETYPE`. -/
def orIllegalFields (nf : ℕ) (k : M Retired) : M Retired :=
  orIllegal (fun _ => !(nf == 1 || nf == 2 || nf == 4 || nf == 8)) k

/-- `execute VMTYPE`. -/
def executeVMTYPE (rs1 r : Regidx) (op : Vmlsop) : M Retired := do
  let vlVal ← Exec.reads (fun s => s.vl.toNat)
  let evl := if vlVal % 8 = 0 then vlVal / 8 else vlVal / 8 + 1
  let numElem ← getNumElem 0 8
  orIllegal illegalVdUnmasked (processVm r rs1 numElem evl op)

/-- `execute` of the clauses for vector loads and stores. -/
def VextMemInst.execute : VextMemInst → M Retired
  | .VLSEGTYPE nf vm rs1 width vd =>
      executeWidth nf width (fun s => illegalLoad s vd vm) fun nf bytes EMUL numElem =>
        processVlseg nf vm vd bytes rs1 EMUL numElem
  | .VLSEGFFTYPE nf vm rs1 width vd =>
      executeWidth nf width (fun s => illegalLoad s vd vm) fun nf bytes EMUL numElem =>
        processVlsegff nf vm vd bytes rs1 EMUL numElem
  | .VSSEGTYPE nf vm rs1 width vs3 =>
      executeWidth nf width illegalStore fun nf bytes EMUL numElem =>
        processVsseg nf vm vs3 bytes rs1 EMUL numElem
  | .VLSSEGTYPE nf vm rs2 rs1 width vd =>
      executeWidth nf width (fun s => illegalLoad s vd vm) fun nf bytes EMUL numElem =>
        processVlsseg nf vm vd bytes rs1 rs2 EMUL numElem
  | .VSSSEGTYPE nf vm rs2 rs1 width vs3 =>
      executeWidth nf width illegalStore fun nf bytes EMUL numElem =>
        processVssseg nf vm vs3 bytes rs1 rs2 EMUL numElem
  | .VLUXSEGTYPE nf vm vs2 rs1 width vd =>
      executeIndexed nf width (fun s => illegalIndexedLoad s vd vm) fun nf ib db ip dp n =>
        processVlxseg nf vm vd ib db ip dp rs1 vs2 n 1
  | .VLOXSEGTYPE nf vm vs2 rs1 width vd =>
      executeIndexed nf width (fun s => illegalIndexedLoad s vd vm) fun nf ib db ip dp n =>
        processVlxseg nf vm vd ib db ip dp rs1 vs2 n 3
  | .VSUXSEGTYPE nf vm vs2 rs1 width vs3 =>
      executeIndexed nf width illegalIndexedStore fun nf ib db ip dp n =>
        processVsxseg nf vm vs3 ib db ip dp rs1 vs2 n 1
  | .VSOXSEGTYPE nf vm vs2 rs1 width vs3 =>
      executeIndexed nf width illegalIndexedStore fun nf ib db ip dp n =>
        processVsxseg nf vm vs3 ib db ip dp rs1 vs2 n 3
  | .VLRETYPE nf rs1 width vd =>
      let bytes := vlewidthBytesnumber width
      orIllegalFields (nfieldsInt nf)
        (processVlre (nfieldsInt nf) vd bytes rs1 (VLEN / (bytes * 8)))
  | .VSRETYPE nf rs1 vs3 =>
      orIllegalFields (nfieldsInt nf) (processVsre (nfieldsInt nf) 1 rs1 vs3 (VLEN / 8))
  | .VMTYPE rs1 r op => executeVMTYPE rs1 r op

end SailRiscv
