/-
# Two levels of caches over all their accesses

The caches of the first level send their misses and write-backs to the cache of the second level.
Over every sequence of accesses each cache is a write-back cache, and the second level is
accessed once for each miss and once for each write-back of the first (`cacheSystem_law`).  The
counters are those of the code, modulo `2 ^ 64`.
-/
import SailRiscv.CacheSimInv
import SailRiscv.Lib.Run
import SailRiscv.State

namespace SailRiscv

open LineEvent

/-! ## Sequences of accesses of one cache -/

namespace CacheSim

variable (g : Geometry)

/-- The cache after a sequence of accesses. -/
def afterAll : CacheSim → List Request → CacheSim
  | c, [] => c
  | c, r :: rs => afterAll (c.after g r) rs

/-- The events of a sequence of accesses, the last one first. -/
def eventsAll : CacheSim → List Request → List (LineEvent (BitVec 64))
  | _, [] => []
  | c, r :: rs => eventsAll (c.after g r) rs ++ c.events g r

variable {g} {c : CacheSim} {h : List (LineEvent (BitVec 64))} {r : Request}

/-- A sequence of accesses keeps the cache in the state that its history gives. -/
theorem Tracks.afterAll {rs : List Request} (ht : c.Tracks g h) :
    (c.afterAll g rs).Tracks g (c.eventsAll g rs ++ h) := by
  induction rs generalizing c h with
  | nil => exact ht
  | cons r rs ih =>
      unfold CacheSim.afterAll eventsAll
      rw [List.append_assoc]
      exact ih ht.after

/-- `check_tag` after `victimize` does not return NULL. -/
theorem checkTag_victimize_ne_none (c : CacheSim) (addr : BitVec 64) :
    (c.victimize g addr).checkTag g addr ≠ none := by
  intro hnone
  unfold checkTag at hnone
  rw [Option.map_eq_none_iff, List.find?_eq_none] at hnone
  have hpos := g.ways_pos
  have hway : c.victimWay g < g.ways := Nat.mod_lt _ (by omega)
  refine hnone (c.victimWay g) (List.mem_range.mpr hway) ?_
  rw [show g.idx (g.line addr) * g.ways + c.victimWay g = c.victimSlot g addr from rfl,
    tags_victimize_self]
  exact (matches_iff (g.isLine_line addr)).mpr
    ((holds_or_VALID (g.isLine_line addr)).mpr rfl)

/-- An access hits exactly if its line is present. -/
theorem Tracks.checkTag_isSome (ht : c.Tracks g h) (addr : BitVec 64) :
    (c.checkTag g addr).isSome = true ↔ Present h (g.line addr) := by
  rw [← ht.present, ← not_iff_not, Bool.not_eq_true, Option.isSome_eq_false_iff,
    Option.isNone_iff_eq_none]
  exact ht.legal.checkTag_eq_none

/-! ## Write-backs -/

/-- The requests that store are the write-backs of the victim. -/
theorem mem_calls_store {q : Request} (hq : q ∈ c.calls g r) (hs : q.store = true) :
    c.checkTag g r.addr = none ∧ isValidDirty (c.victim g r.addr) = true
      ∧ q = writebackOf g (c.victim g r.addr) := by
  unfold calls at hq
  rcases hfind : c.checkTag g r.addr with _ | k
  · rw [hfind] at hq
    simp only [List.mem_append, List.mem_singleton] at hq
    rcases hq with hq | rfl
    · split at hq
      · next hd => exact ⟨rfl, hd, List.mem_singleton.mp hq⟩
      · cases hq
    · cases hs
  · rw [hfind] at hq
    cases hq

/-- **A write-back is of the line address of a dirty line.** -/
theorem Tracks.writeback_dirty (ht : c.Tracks g h) {q : Request} (hq : q ∈ c.calls g r)
    (hs : q.store = true) : ∃ addr, q.addr = g.lineAddr addr ∧ Dirty h (g.line addr) := by
  obtain ⟨-, hd, rfl⟩ := mem_calls_store hq hs
  obtain ⟨h63, h62⟩ := isValidDirty_iff.mp hd
  have hholds : Holds (c.victim g r.addr) (lineOfWord (c.victim g r.addr)) := ⟨h63, rfl⟩
  obtain ⟨addr, haddr⟩ := ht.legal.line victimSlot_lt hholds
  refine ⟨addr, ?_, ?_⟩
  · rw [← g.line_shiftLeft, ← haddr]
    rfl
  · rw [← haddr, ← ht.dirty]
    exact ⟨_, victimSlot_lt, hholds, h62⟩

/-- **No dirty line is dropped**: it stays dirty, or it is written back. -/
theorem Tracks.dirty_or_writeback (ht : c.Tracks g h) {addr : BitVec 64}
    (hd : Dirty h (g.line addr)) :
    Dirty (c.events g r ++ h) (g.line addr)
      ∨ ∃ q ∈ c.calls g r, q.store = true ∧ q.addr = g.lineAddr addr := by
  unfold events calls
  rcases hfind : c.checkTag g r.addr with _ | k
  · simp only [List.cons_append]
    by_cases hv : Holds (c.victim g r.addr) (g.line addr)
    · right
      obtain ⟨k, hk, hholds, h62⟩ := (ht.dirty _).mpr hd
      have hslot := ht.legal.unique hk victimSlot_lt hholds hv
      have hvd : isValidDirty (c.victim g r.addr) = true := by
        refine isValidDirty_iff.mpr ⟨hv.1, ?_⟩
        rw [hslot] at h62
        exact h62
      refine ⟨writebackOf g (c.victim g r.addr), ?_, rfl, ?_⟩
      · rw [hvd]
        exact List.mem_append_left _ List.mem_cons_self
      · rw [← g.line_shiftLeft, ← hv.2]
        rfl
    · left
      have hne : g.line addr ≠ g.line r.addr := by
        intro heq
        refine ht.legal.checkTag_eq_none.mp hfind ?_
        rw [← heq, ht.present]
        exact ht.lawful.present_of_dirty hd
      exact dirty_miss.mpr (Or.inr ⟨hne, dirty_evictions.mpr ⟨hv, hd⟩⟩)
  · exact Or.inl (dirty_hit.mpr (Or.inr hd))

/-! ## Counts -/

/-- The dirty lines at present. -/
def dirtyLines (g : Geometry) (c : CacheSim) : Finset ℕ :=
  (Finset.range (g.sets * g.ways)).filter (fun k => isValidDirty (c.tags k) = true)

/-- **Write-backs and dirty lines together are at most the stores.** -/
theorem Tracks.writebacks_add_dirtyLines_le (ht : c.Tracks g h) :
    LineEvent.writebacks h + (c.dirtyLines g).card ≤ accesses true h := by
  have hinj : Set.InjOn (fun k => lineOfWord (c.tags k)) (c.dirtyLines g) := by
    intro k hk k' hk' heq
    rw [Finset.mem_coe] at hk hk'
    obtain ⟨hlt, hd⟩ := Finset.mem_filter.mp hk
    obtain ⟨hlt', hd'⟩ := Finset.mem_filter.mp hk'
    exact ht.legal.unique (Finset.mem_range.mp hlt) (Finset.mem_range.mp hlt')
      ⟨(isValidDirty_iff.mp hd).1, rfl⟩ ⟨(isValidDirty_iff.mp hd').1, heq.symm⟩
  rw [← Finset.card_image_of_injOn hinj]
  refine ht.lawful.writebacks_add_card_le (fun x hx => ?_)
  obtain ⟨k, hk, rfl⟩ := Finset.mem_image.mp hx
  obtain ⟨hlt, hd⟩ := Finset.mem_filter.mp hk
  obtain ⟨h63, h62⟩ := isValidDirty_iff.mp hd
  exact (ht.dirty _).mp ⟨k, Finset.mem_range.mp hlt, ⟨h63, rfl⟩, h62⟩

theorem accesses_append (store : Bool) (es : List (LineEvent (BitVec 64))) :
    accesses store (es ++ h) = accesses store es + accesses store h := List.countP_append

theorem misses_append (store : Bool) (es : List (LineEvent (BitVec 64))) :
    misses store (es ++ h) = misses store es + misses store h := List.countP_append

theorem writebacks_append (es : List (LineEvent (BitVec 64))) :
    LineEvent.writebacks (es ++ h) = LineEvent.writebacks es + LineEvent.writebacks h :=
  List.countP_append

/-- Every access is counted once. -/
theorem accesses_events (store : Bool) :
    accesses store (c.events g r) = if r.store = store then 1 else 0 := by
  unfold events evictions accesses
  rcases c.checkTag g r.addr with _ | k <;> simp only [List.countP_cons, isAccess]
  · split <;> simp [isAccess]
  · simp

/-- A sequence of accesses is counted by its stores and its other accesses. -/
theorem accesses_eventsAll (store : Bool) (rs : List Request) :
    accesses store (c.eventsAll g rs) = rs.countP (fun q => q.store == store) := by
  induction rs generalizing c with
  | nil => rfl
  | cons r rs ih =>
      unfold eventsAll
      rw [accesses_append, ih, accesses_events, List.countP_cons]
      simp

/-- The requests of an access: one that does not store for a miss, and one that stores for
a write-back. -/
theorem countP_calls :
    (c.calls g r).countP (fun q => q.store == false)
        = misses false (c.events g r) + misses true (c.events g r)
      ∧ (c.calls g r).countP (fun q => q.store == true)
        = LineEvent.writebacks (c.events g r) := by
  unfold calls events evictions misses LineEvent.writebacks
  rcases c.checkTag g r.addr with _ | k
  · rcases h63 : (c.victim g r.addr).getLsbD 63 <;> rcases h62 : (c.victim g r.addr).getLsbD 62
    all_goals
      have hvd : isValidDirty (c.victim g r.addr)
          = ((c.victim g r.addr).getLsbD 63 && (c.victim g r.addr).getLsbD 62) := by
        rw [Bool.eq_iff_iff, isValidDirty_iff, Bool.and_eq_true]
      rw [h63, h62] at hvd
      rcases hs : r.store <;>
        simp [hvd, isMiss, isWriteback, writebackOf, fetchOf]
  · rcases r.store <;> simp [isMiss, isWriteback]

/-! ## The laws of one cache -/

/-- What a cache obeys after the history `h`. -/
structure Law (g : Geometry) (c : CacheSim) (h : List (LineEvent (BitVec 64))) : Prop where
  /-- The words of a set hold different lines. -/
  unique : ∀ {k k' l}, k < g.sets * g.ways → k' < g.sets * g.ways → k / g.ways = k' / g.ways →
    Holds (c.tags k) l → Holds (c.tags k') l → k = k'
  /-- A line lies in the set that its lowest bits select. -/
  placed : ∀ {k l}, k < g.sets * g.ways → Holds (c.tags k) l → l.toNat % g.sets = k / g.ways
  /-- An access hits exactly if its line was brought in and not evicted since. -/
  hits : ∀ addr, (c.checkTag g addr).isSome = true ↔ Present h (g.line addr)
  /-- After a replacement the line is found. -/
  refilled : ∀ addr, (c.victimize g addr).checkTag g addr ≠ none
  /-- A write-back is of the address of a line that was stored to since it was brought in. -/
  writeback : ∀ {r q}, q ∈ c.calls g r → q.store = true →
    ∃ addr, q.addr = g.lineAddr addr ∧ Dirty h (g.line addr)
  /-- A line that was stored to since it was brought in stays so, or it is written back. -/
  kept : ∀ r {addr}, Dirty h (g.line addr) → Dirty (c.events g r ++ h) (g.line addr)
    ∨ ∃ q ∈ c.calls g r, q.store = true ∧ q.addr = g.lineAddr addr
  /-- Misses are at most accesses, until the counter of these overflows. -/
  readMisses : accesses false h < 2 ^ 64 → c.readMisses.toNat ≤ c.readAccesses.toNat
  writeMisses : accesses true h < 2 ^ 64 → c.writeMisses.toNat ≤ c.writeAccesses.toNat
  /-- So are write-backs and dirty lines. -/
  writebacks : accesses true h < 2 ^ 64 →
    c.writebacks.toNat + (c.dirtyLines g).card ≤ c.writeAccesses.toNat

/-- A cache in the state that its history gives obeys the laws. -/
theorem Tracks.law (ht : c.Tracks g h) : c.Law g h where
  unique hk hk' _ hl hl' := ht.legal.unique hk hk' hl hl'
  placed hk hl := (g.idx_eq _).symm.trans (ht.legal.placed hk hl)
  hits := ht.checkTag_isSome
  refilled := c.checkTag_victimize_ne_none
  writeback := ht.writeback_dirty
  kept _ _ hd := ht.dirty_or_writeback hd
  readMisses hlt := by
    have hle := misses_le_accesses false h
    rw [ht.counts.readMisses, ht.counts.readAccesses, BitVec.toNat_ofNat, BitVec.toNat_ofNat,
      Nat.mod_eq_of_lt hlt, Nat.mod_eq_of_lt (by omega)]
    exact hle
  writeMisses hlt := by
    have hle := misses_le_accesses true h
    rw [ht.counts.writeMisses, ht.counts.writeAccesses, BitVec.toNat_ofNat, BitVec.toNat_ofNat,
      Nat.mod_eq_of_lt hlt, Nat.mod_eq_of_lt (by omega)]
    exact hle
  writebacks hlt := by
    have hle := ht.writebacks_add_dirtyLines_le
    rw [ht.counts.writebacks, ht.counts.writeAccesses, BitVec.toNat_ofNat, BitVec.toNat_ofNat,
      Nat.mod_eq_of_lt hlt, Nat.mod_eq_of_lt (by omega)]
    exact hle

end CacheSim

/-! ## The system -/

namespace CacheSystem

open CacheSim

variable {ι : Type} [DecidableEq ι] {g₁ : ι → Geometry} {g₂ : Geometry}

/-- The system beside the histories of its caches. -/
structure Recorded (ι : Type) where
  sys : CacheSystem ι
  h₁ : ι → List (LineEvent (BitVec 64))
  h₂ : List (LineEvent (BitVec 64))

/-- The start, with empty histories. -/
def Recorded.init : Recorded ι := ⟨CacheSystem.init, fun _ => [], []⟩

variable (g₁ g₂) in
/-- An access of a cache of the first level, with the events that it causes. -/
def Step (a : ι × Request) (p p' : Recorded ι) : Prop :=
  p.sys.access g₁ g₂ a.1 a.2 = some p'.sys
    ∧ p'.h₁ = Function.update p.h₁ a.1 ((p.sys.l1 a.1).events (g₁ a.1) a.2 ++ p.h₁ a.1)
    ∧ p'.h₂ = p.sys.l2.eventsAll g₂ ((p.sys.l1 a.1).calls (g₁ a.1) a.2) ++ p.h₂

variable (g₁ g₂) in
/-- The caches are in the states that their histories give. -/
structure AllTrack (p : Recorded ι) : Prop where
  l1 : ∀ i, (p.sys.l1 i).Tracks (g₁ i) (p.h₁ i)
  l2 : p.sys.l2.Tracks g₂ p.h₂

/-- The second level does the requests in turn. -/
theorem foldlM_accessL2 {c : CacheSim} {h : List (LineEvent (BitVec 64))} (ht : c.Tracks g₂ h)
    (rs : List Request) :
    rs.foldlM (fun c q => callHandler (some (accessL2 g₂)) q c) c = some (c.afterAll g₂ rs) := by
  induction rs generalizing c h with
  | nil => rfl
  | cons r rs ih =>
      have hnull (qs : List Request) (u : Unit) :
          qs.foldlM (fun h q => callHandler none q h) u = some u := by
        induction qs with
        | nil => rfl
        | cons q qs ihq => exact ihq
      have hone : callHandler (some (accessL2 g₂)) r c = some (c.after g₂ r) := by
        unfold callHandler accessL2
        simp only
        rw [ht.legal.access_eq, hnull]
        rfl
      rw [List.foldlM_cons, hone]
      exact ih ht.after

/-- **No access fails**, and what it does to the system. -/
theorem AllTrack.access_eq {p : Recorded ι} (ht : AllTrack g₁ g₂ p) (i : ι) (r : Request) :
    p.sys.access g₁ g₂ i r = some
      ⟨Function.update p.sys.l1 i ((p.sys.l1 i).after (g₁ i) r),
        p.sys.l2.afterAll g₂ ((p.sys.l1 i).calls (g₁ i) r)⟩ := by
  unfold access
  rw [(ht.l1 i).legal.access_eq, foldlM_accessL2 ht.l2]
  rfl

/-- What an access of the cache `i` does to it, to the second level and to its history. -/
theorem AllTrack.exists_step {p : Recorded ι} (ht : AllTrack g₁ g₂ p) (i : ι) (r : Request) :
    ∃ p', Step g₁ g₂ (i, r) p p'
      ∧ p'.sys.l1 i = (p.sys.l1 i).after (g₁ i) r
      ∧ p'.sys.l2 = p.sys.l2.afterAll g₂ ((p.sys.l1 i).calls (g₁ i) r)
      ∧ p'.h₁ i = (p.sys.l1 i).events (g₁ i) r ++ p.h₁ i :=
  ⟨⟨_, Function.update p.h₁ i ((p.sys.l1 i).events (g₁ i) r ++ p.h₁ i), _⟩,
    ⟨ht.access_eq i r, rfl, rfl⟩, Function.update_self .., rfl, Function.update_self ..⟩

/-- Every access keeps the caches in the states that their histories give. -/
theorem AllTrack.step {a : ι × Request} {p p' : Recorded ι} (ht : AllTrack g₁ g₂ p)
    (hs : Step g₁ g₂ a p p') : AllTrack g₁ g₂ p' := by
  obtain ⟨hacc, hh₁, hh₂⟩ := hs
  rw [ht.access_eq] at hacc
  have hsys := (Option.some.inj hacc).symm
  refine ⟨fun i => ?_, ?_⟩
  · rw [hsys, hh₁]
    by_cases hi : i = a.1
    · subst hi
      simp only [Function.update_self]
      exact (ht.l1 _).after
    · simp only [Function.update_of_ne hi]
      exact ht.l1 i
  · rw [hsys, hh₂]
    exact ht.l2.afterAll

variable [Fintype ι]

/-- The accesses of the second level are the misses and the write-backs of the first. -/
structure Balanced (p : Recorded ι) : Prop where
  reads : accesses false p.h₂ = ∑ i, (misses false (p.h₁ i) + misses true (p.h₁ i))
  writes : accesses true p.h₂ = ∑ i, LineEvent.writebacks (p.h₁ i)

/-- A sum in which one term grows. -/
theorem sum_update {α : Type} (f : α → ℕ) (h : ι → α) (i : ι) (a : α) (n : ℕ)
    (hf : f a = n + f (h i)) : ∑ j, f (Function.update h i a j) = n + ∑ j, f (h j) := by
  have hrest : ∑ j ∈ Finset.univ.erase i, f (Function.update h i a j)
      = ∑ j ∈ Finset.univ.erase i, f (h j) := by
    refine Finset.sum_congr rfl (fun j hj => ?_)
    rw [Function.update_of_ne (Finset.ne_of_mem_erase hj)]
  rw [← Finset.add_sum_erase _ _ (Finset.mem_univ i), hrest, Function.update_self, hf,
    ← Finset.add_sum_erase _ (fun j => f (h j)) (Finset.mem_univ i), Nat.add_assoc]

omit [DecidableEq ι] in
theorem balanced_init : Balanced (Recorded.init : Recorded ι) where
  reads := (Finset.sum_eq_zero (fun _ _ => rfl)).symm
  writes := (Finset.sum_eq_zero (fun _ _ => rfl)).symm

/-- Every access keeps the balance. -/
theorem Balanced.step {a : ι × Request} {p p' : Recorded ι} (hb : Balanced p)
    (hs : Step g₁ g₂ a p p') : Balanced p' := by
  obtain ⟨-, hh₁, hh₂⟩ := hs
  obtain ⟨hreads, hwrites⟩ :=
    countP_calls (g := g₁ a.1) (c := p.sys.l1 a.1) (r := a.2)
  refine ⟨?_, ?_⟩
  · rw [hh₁, hh₂, accesses_append, accesses_eventsAll, hreads, hb.reads]
    refine (sum_update (fun h => misses false h + misses true h) p.h₁ a.1 _ _ ?_).symm
    simp only [misses_append]
    omega
  · rw [hh₁, hh₂, accesses_append, accesses_eventsAll, hwrites, hb.writes]
    refine (sum_update LineEvent.writebacks p.h₁ a.1 _ _ ?_).symm
    exact writebacks_append _

/-- The invariant of a run. -/
theorem invariant_of_run {p : Recorded ι} (hrun : Run (Step g₁ g₂) Run.Free Recorded.init p) :
    AllTrack g₁ g₂ p ∧ Balanced p := by
  refine hrun.invariant (I := fun p => AllTrack g₁ g₂ p ∧ Balanced p) ?_ ?_
  · exact ⟨⟨fun _ => tracks_init, tracks_init⟩, balanced_init⟩
  · intro p a p' hinv _ hs
    exact ⟨hinv.1.step hs, hinv.2.step hs⟩

/-- **The simulator is a system of write-back caches.**  After every sequence of accesses each
cache obeys the laws, the next access does not fail, and the second level has been accessed once
for each miss and for each write-back of the first. -/
theorem cacheSystem_law {p : Recorded ι} (hrun : Run (Step g₁ g₂) Run.Free Recorded.init p) :
    (∀ i, (p.sys.l1 i).Law (g₁ i) (p.h₁ i)) ∧ p.sys.l2.Law g₂ p.h₂
      ∧ (∀ i r, ∃ p', Step g₁ g₂ (i, r) p p')
      ∧ p.sys.l2.readAccesses.toNat
        = (∑ i, ((p.sys.l1 i).readMisses.toNat + (p.sys.l1 i).writeMisses.toNat)) % 2 ^ 64
      ∧ p.sys.l2.writeAccesses.toNat = (∑ i, (p.sys.l1 i).writebacks.toNat) % 2 ^ 64 := by
  obtain ⟨ht, hb⟩ := invariant_of_run hrun
  refine ⟨fun i => (ht.l1 i).law, ht.l2.law, fun i r => ?_, ?_, ?_⟩
  · obtain ⟨p', hs, -⟩ := ht.exists_step i r
    exact ⟨p', hs⟩
  · rw [ht.l2.counts.readAccesses, BitVec.toNat_ofNat, hb.reads, Finset.sum_nat_mod,
      Finset.sum_nat_mod _ _ (fun i => (p.sys.l1 i).readMisses.toNat + _)]
    refine congrArg (· % 2 ^ 64) (Finset.sum_congr rfl (fun i _ => ?_))
    rw [(ht.l1 i).counts.readMisses, (ht.l1 i).counts.writeMisses, BitVec.toNat_ofNat,
      BitVec.toNat_ofNat, ← Nat.add_mod]
  · rw [ht.l2.counts.writeAccesses, BitVec.toNat_ofNat, hb.writes, Finset.sum_nat_mod]
    refine congrArg (· % 2 ^ 64) (Finset.sum_congr rfl (fun i _ => ?_))
    rw [(ht.l1 i).counts.writebacks, BitVec.toNat_ofNat]

/-! ## The caches of the emulator -/

/-- The caches of the first level: `dc` and `ic`. -/
inductive FirstLevel where
  | dc | ic
  deriving DecidableEq

instance : Fintype FirstLevel where
  elems := {.dc, .ic}
  complete := by
    intro i
    rcases i <;> simp

/-- The geometries of `dc` and `ic`. -/
def FirstLevel.geometry : FirstLevel → Geometry
  | .dc => ⟨128, 4, 64, ⟨7, by decide⟩, ⟨6, by decide⟩, by decide, by decide⟩
  | .ic => ⟨256, 2, 64, ⟨8, by decide⟩, ⟨6, by decide⟩, by decide, by decide⟩

/-- The geometry of `l2`. -/
def l2Geometry : Geometry := ⟨2048, 16, 64, ⟨11, by decide⟩, ⟨6, by decide⟩, by decide, by decide⟩

/-- `dc_read`, `dc_write` and `ic_read` of `riscv_cpp_test.cpp`. -/
def cacheRequest [Platform] : CacheEvent → FirstLevel × Request
  | .icRead addr => (.ic, ⟨addr.setWidth 64, 64#64, false⟩)
  | .dcRead addr => (.dc, ⟨addr.setWidth 64, 64#64, false⟩)
  | .dcWrite addr => (.dc, ⟨addr.setWidth 64, 64#64, true⟩)

/-- The caches after the calls that the model has made. -/
def runTrace [Platform] : List CacheEvent → CacheSystem FirstLevel →
    Option (CacheSystem FirstLevel)
  | [], s => some s
  | e :: es, s => do
      runTrace es (← s.access FirstLevel.geometry l2Geometry (cacheRequest e).1 (cacheRequest e).2)

/-- **The calls of the model never fail**: they are a run of the caches, to which the laws
apply. -/
theorem runTrace_recorded [Platform] (es : List CacheEvent) {p : Recorded FirstLevel}
    (hrun : Run (Step FirstLevel.geometry l2Geometry) Run.Free Recorded.init p) :
    ∃ p', Run (Step FirstLevel.geometry l2Geometry) Run.Free Recorded.init p'
      ∧ runTrace es p.sys = some p'.sys := by
  induction es generalizing p with
  | nil => exact ⟨p, hrun, rfl⟩
  | cons e es ih =>
      obtain ⟨ht, -⟩ := invariant_of_run hrun
      obtain ⟨p₁, hs, -⟩ := ht.exists_step (cacheRequest e).1 (cacheRequest e).2
      obtain ⟨p', hrun', htrace⟩ := ih (.next hrun trivial hs)
      refine ⟨p', hrun', ?_⟩
      unfold runTrace
      rw [hs.1]
      exact htrace

/-! ## Counters that overflow -/

/-- After `n + 1` reads of one address, the first of which misses, the line is present. -/
theorem reads_of_one_line (n : ℕ) :
    ∃ p, Run (Step FirstLevel.geometry l2Geometry) Run.Free Recorded.init p
      ∧ Present (p.h₁ .dc) (FirstLevel.dc.geometry.line 0#64)
      ∧ accesses false (p.h₁ .dc) = n + 1 ∧ misses false (p.h₁ .dc) = 1 := by
  have hread {p : Recorded FirstLevel}
      (hrun : Run (Step FirstLevel.geometry l2Geometry) Run.Free Recorded.init p) :
      ∃ p', Run (Step FirstLevel.geometry l2Geometry) Run.Free Recorded.init p'
        ∧ p'.h₁ .dc = (p.sys.l1 .dc).events FirstLevel.dc.geometry ⟨0#64, 64#64, false⟩
          ++ p.h₁ .dc := by
    obtain ⟨p', hs, -, -, hh⟩ := (invariant_of_run hrun).1.exists_step .dc ⟨0#64, 64#64, false⟩
    exact ⟨p', .next hrun trivial hs, hh⟩
  induction n with
  | zero =>
      obtain ⟨p, hrun, hh⟩ := hread .start
      have hmiss : ((Recorded.init : Recorded FirstLevel).sys.l1 .dc).checkTag
          FirstLevel.dc.geometry 0#64 = none := by decide +kernel
      have hevents : p.h₁ .dc = [.access (FirstLevel.dc.geometry.line 0#64) false false] := by
        rw [hh]
        unfold events
        rw [hmiss]
        rfl
      refine ⟨p, hrun, ?_, ?_, ?_⟩ <;> rw [hevents]
      · exact present_miss.mpr (Or.inl rfl)
      · rfl
      · rfl
  | succ n ih =>
      obtain ⟨p, hrun, hpresent, haccesses, hmisses⟩ := ih
      obtain ⟨p', hrun', hh⟩ := hread hrun
      obtain ⟨ht, -⟩ := invariant_of_run hrun
      obtain ⟨k, hk⟩ := Option.isSome_iff_exists.mp
        (((ht.l1 .dc).checkTag_isSome 0#64).mpr hpresent)
      have hevents : p'.h₁ .dc
          = .access (FirstLevel.dc.geometry.line 0#64) false true :: p.h₁ .dc := by
        rw [hh]
        unfold events
        rw [hk]
        rfl
      refine ⟨p', hrun', ?_, ?_, ?_⟩ <;> rw [hevents]
      · exact present_hit.mpr hpresent
      · unfold accesses at haccesses ⊢
        rw [List.countP_cons_of_pos rfl, haccesses]
      · unfold misses at hmisses ⊢
        rw [List.countP_cons_of_neg (by decide), hmisses]

/-- After `2 ^ 64` reads of one address there is one miss, and the counter of reads is 0. -/
theorem misses_exceed_accesses :
    ¬ ∀ p : Recorded FirstLevel,
      Run (Step FirstLevel.geometry l2Geometry) Run.Free Recorded.init p →
        (p.sys.l1 .dc).readMisses.toNat ≤ (p.sys.l1 .dc).readAccesses.toNat := by
  intro h
  obtain ⟨p, hrun, -, haccesses, hmisses⟩ := reads_of_one_line (2 ^ 64 - 1)
  obtain ⟨ht, -⟩ := invariant_of_run hrun
  have hle := h p hrun
  rw [(ht.l1 .dc).counts.readMisses, (ht.l1 .dc).counts.readAccesses, haccesses, hmisses,
    BitVec.toNat_ofNat, BitVec.toNat_ofNat] at hle
  omega

/-- The laws hold for the emulator after a store, a load of its line, and a load of another line of
the same set, which evicts the dirty line. -/
theorem cacheSystem_law_emulator :
    ∃ p : Recorded FirstLevel, Run (Step FirstLevel.geometry l2Geometry) Run.Free Recorded.init p
      ∧ p.h₁ .dc = [.access 128#64 false false, .evict 0#64 true, .access 0#64 false true,
        .access 0#64 true false]
      ∧ (p.sys.l1 .dc).writebacks = 1#64
      ∧ p.sys.l2.readAccesses = 2#64 ∧ p.sys.l2.writeAccesses = 1#64
      ∧ (p.sys.l1 .dc).Law FirstLevel.dc.geometry (p.h₁ .dc) ∧ p.sys.l2.Law l2Geometry p.h₂ := by
  have hnext {p : Recorded FirstLevel} (r : Request)
      (hrun : Run (Step FirstLevel.geometry l2Geometry) Run.Free Recorded.init p) :
      ∃ p', Run (Step FirstLevel.geometry l2Geometry) Run.Free Recorded.init p'
        ∧ p'.sys.l1 .dc = (p.sys.l1 .dc).after FirstLevel.dc.geometry r
        ∧ p'.sys.l2 = p.sys.l2.afterAll l2Geometry
          ((p.sys.l1 .dc).calls FirstLevel.dc.geometry r)
        ∧ p'.h₁ .dc = (p.sys.l1 .dc).events FirstLevel.dc.geometry r ++ p.h₁ .dc := by
    obtain ⟨p', hs, heffects⟩ := (invariant_of_run hrun).1.exists_step .dc r
    exact ⟨p', .next hrun trivial hs, heffects⟩
  obtain ⟨p₁, hrun₁, hdc₁, hl2₁, hh₁⟩ := hnext ⟨0#64, 8#64, true⟩ .start
  obtain ⟨p₂, hrun₂, hdc₂, hl2₂, hh₂⟩ := hnext ⟨0#64, 8#64, false⟩ hrun₁
  obtain ⟨p₃, hrun₃, hdc₃, hl2₃, hh₃⟩ := hnext ⟨8192#64, 8#64, false⟩ hrun₂
  rw [hdc₂, hdc₁] at hdc₃ hl2₃ hh₃
  rw [hl2₂, hl2₁, hdc₁] at hl2₃
  rw [hh₂, hh₁, hdc₁] at hh₃
  refine ⟨p₃, hrun₃, ?_, ?_, ?_, ?_, (cacheSystem_law hrun₃).1 .dc, (cacheSystem_law hrun₃).2.1⟩
  · rw [hh₃]
    decide +kernel
  · rw [hdc₃]
    decide +kernel
  · rw [hl2₃]
    decide +kernel
  · rw [hl2₃]
    decide +kernel

end CacheSystem

end SailRiscv
