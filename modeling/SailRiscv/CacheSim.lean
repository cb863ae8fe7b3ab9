/-
# The cache simulator

`c_emulator/Cache/riscv_cache.h` and `riscv_cache.cpp`: a set-associative write-back cache.  A word
of `tags` holds the flags VALID and DIRTY and the number of a line, with the bits that select
the set; the victim of a miss is chosen by a shift register.  `riscv_cpp_test.cpp` puts the two
caches of the first level over one of the second.
-/
import SailRiscv.Lib.LineHistory

namespace SailRiscv

/-! ## The shift register -/

/-- `lfsr_t::next`. -/
def lfsrNext (reg : BitVec 32) : BitVec 32 :=
  (reg >>> 1) ^^^ (-(reg &&& 1#32) &&& 0xD0000001#32)

/-! ## The state -/

/-- The geometry of a cache: `sets` and `linesz` are powers of two. -/
structure Geometry where
  sets : ℕ
  ways : ℕ
  linesz : ℕ
  sets_pow : ∃ k < 64, sets = 2 ^ k
  linesz_pow : ∃ k < 64, linesz = 2 ^ k
  four_le_linesz : 4 ≤ linesz
  ways_pos : 1 ≤ ways

/-- `cache_sim_t`, without the parts that do not change.  The array `tags` has `sets * ways`
words. -/
structure CacheSim where
  lfsr : BitVec 32
  tags : ℕ → BitVec 64
  readAccesses : BitVec 64
  readMisses : BitVec 64
  bytesRead : BitVec 64
  writeAccesses : BitVec 64
  writeMisses : BitVec 64
  bytesWritten : BitVec 64
  writebacks : BitVec 64

/-- `VALID`. -/
def VALID : BitVec 64 := 1#64 <<< 63

/-- `DIRTY`. -/
def DIRTY : BitVec 64 := 1#64 <<< 62

/-- `cache_sim_t::init`. -/
def CacheSim.init : CacheSim where
  lfsr := 1#32
  tags := fun _ => 0#64
  readAccesses := 0#64
  readMisses := 0#64
  bytesRead := 0#64
  writeAccesses := 0#64
  writeMisses := 0#64
  bytesWritten := 0#64
  writebacks := 0#64

/-- The loop of `init` on `x`: `for (; x > 1; x >>= 1) idx_shift++`. -/
def idxShift (x : ℕ) : ℕ :=
  if h : 1 < x then idxShift (x / 2) + 1 else 0
termination_by x
decreasing_by omega

namespace Geometry

/-- `idx_shift`. -/
def shift (g : Geometry) : ℕ := idxShift g.linesz

/-- The number of the line of an address. -/
def line (g : Geometry) (addr : BitVec 64) : BitVec 64 := addr >>> g.shift

/-- `idx`, of the line of an address. -/
def idx (g : Geometry) (line : BitVec 64) : ℕ := (line &&& BitVec.ofNat 64 (g.sets - 1)).toNat

/-- `addr & ~(linesz-1)`. -/
def lineAddr (g : Geometry) (addr : BitVec 64) : BitVec 64 :=
  addr &&& ~~~BitVec.ofNat 64 (g.linesz - 1)

end Geometry

/-! ## The operations -/

/-- The arguments of `access`. -/
structure Request where
  addr : BitVec 64
  bytes : BitVec 64
  store : Bool

namespace CacheSim

variable (g : Geometry)

/-- `check_tag`: the index of the word with the tag of the address, or none for NULL. -/
def checkTag (c : CacheSim) (addr : BitVec 64) : Option ℕ :=
  let idx := g.idx (g.line addr)
  let tag := g.line addr ||| VALID
  ((List.range g.ways).find? (fun i => tag == c.tags (idx * g.ways + i) &&& ~~~DIRTY)).map
    (fun i => idx * g.ways + i)

/-- The way that `victimize` replaces. -/
def victimWay (c : CacheSim) : ℕ := (lfsrNext c.lfsr).toNat % g.ways

/-- The index of the word that `victimize` replaces. -/
def victimSlot (c : CacheSim) (addr : BitVec 64) : ℕ :=
  g.idx (g.line addr) * g.ways + c.victimWay g

/-- The word that `victimize` returns. -/
def victim (c : CacheSim) (addr : BitVec 64) : BitVec 64 := c.tags (c.victimSlot g addr)

/-- `victimize`, without the word that it returns. -/
def victimize (c : CacheSim) (addr : BitVec 64) : CacheSim :=
  { c with
    lfsr := lfsrNext c.lfsr
    tags := Function.update c.tags (c.victimSlot g addr) (g.line addr ||| VALID) }

/-- `*way |= DIRTY`. -/
def setDirty (c : CacheSim) (k : ℕ) : CacheSim :=
  { c with tags := Function.update c.tags k (c.tags k ||| DIRTY) }

/-- The counters of accesses. -/
def countAccess (c : CacheSim) (r : Request) : CacheSim :=
  if r.store then
    { c with
      writeAccesses := c.writeAccesses + 1#64
      bytesWritten := c.bytesWritten + r.bytes }
  else
    { c with
      readAccesses := c.readAccesses + 1#64
      bytesRead := c.bytesRead + r.bytes }

/-- The counters of misses. -/
def countMiss (c : CacheSim) (r : Request) : CacheSim :=
  if r.store then { c with writeMisses := c.writeMisses + 1#64 }
  else { c with readMisses := c.readMisses + 1#64 }

/-- The counter of write-backs. -/
def countWriteback (c : CacheSim) : CacheSim := { c with writebacks := c.writebacks + 1#64 }

/-- `(victim & (VALID | DIRTY)) == (VALID | DIRTY)`. -/
def isValidDirty (word : BitVec 64) : Bool := word &&& (VALID ||| DIRTY) == VALID ||| DIRTY

/-- The write-back of a victim. -/
def writebackOf (word : BitVec 64) : Request where
  addr := (word &&& ~~~(VALID ||| DIRTY)) <<< g.shift
  bytes := BitVec.ofNat 64 g.linesz
  store := true

/-- The fetch of the line of an address. -/
def fetchOf (addr : BitVec 64) : Request where
  addr := g.lineAddr addr
  bytes := BitVec.ofNat 64 g.linesz
  store := false

variable {H : Type}

/-- `if (miss_handler) miss_handler->access(...)`. -/
def callHandler (handler : Option (Request → H → Option H)) (r : Request) (h : H) : Option H :=
  match handler with
  | none => some h
  | some access => access r h

/-- `access`, with the state of the miss handler beside that of the cache.  There is no result
where the code dereferences NULL. -/
def access (handler : Option (Request → H → Option H)) (r : Request) (c : CacheSim) (h : H) :
    Option (CacheSim × H) := do
  let c := c.countAccess r
  match c.checkTag g r.addr with
  | some k => pure (if r.store then c.setDirty k else c, h)
  | none =>
      let c := c.countMiss r
      let word := c.victim g r.addr
      let c := c.victimize g r.addr
      let (c, h) ←
        if isValidDirty word then
          (callHandler handler (writebackOf g word) h).map (fun h => (c.countWriteback, h))
        else some (c, h)
      let h ← callHandler handler (fetchOf g r.addr) h
      if r.store then
        (c.checkTag g r.addr).map (fun k => (c.setDirty k, h))
      else pure (c, h)

end CacheSim

/-! ## Two levels -/

/-- Caches of the first level, and the cache of the second level that they share. -/
structure CacheSystem (ι : Type) where
  l1 : ι → CacheSim
  l2 : CacheSim

namespace CacheSystem

variable {ι : Type} [DecidableEq ι] (g₁ : ι → Geometry) (g₂ : Geometry)

/-- The system before the first access. -/
def init : CacheSystem ι where
  l1 := fun _ => CacheSim.init
  l2 := CacheSim.init

/-- The `access` of the second level, which has no miss handler. -/
def accessL2 (r : Request) (c : CacheSim) : Option CacheSim :=
  (c.access g₂ none r ()).map Prod.fst

/-- An `access` of the cache `i` of the first level. -/
def access (i : ι) (r : Request) (s : CacheSystem ι) : Option (CacheSystem ι) :=
  ((s.l1 i).access (g₁ i) (some (accessL2 g₂)) r s.l2).map
    (fun p => ⟨Function.update s.l1 i p.1, p.2⟩)

end CacheSystem

end SailRiscv
