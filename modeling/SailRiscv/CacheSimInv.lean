/-
# One cache over all its accesses

`Tracks g c h` relates the state of a cache to its history: the tags are well placed and hold every
line once, they hold the lines that are present and mark those that are dirty, the history
is that of a write-back cache, and the counters count its events.  Every access keeps the
relation, so the simulator refines the write-back cache of the histories.
-/
import SailRiscv.CacheSim

namespace SailRiscv

open LineEvent

/-! ## Words of the tag array -/

section Words

variable {w l : BitVec 64} {i : ℕ}

/-- The number of the line in a word. -/
def lineOfWord (w : BitVec 64) : BitVec 64 := w &&& ~~~(VALID ||| DIRTY)

/-- The word is valid and has the number of the line `l`. -/
def Holds (w l : BitVec 64) : Prop := w.getLsbD 63 = true ∧ lineOfWord w = l

/-- The bits of a number of a line leave room for the flags. -/
def IsLine (l : BitVec 64) : Prop := l.getLsbD 62 = false ∧ l.getLsbD 63 = false

theorem getLsbD_VALID (i : ℕ) : VALID.getLsbD i = decide (i = 63) := by
  unfold VALID
  by_cases hi : i < 64
  · rw [BitVec.getLsbD_shiftLeft, BitVec.getLsbD_one]
    by_cases h : i = 63
    · subst h
      rfl
    · simp [h]
      omega
  · rw [BitVec.getLsbD_of_ge _ _ (by omega)]
    simp
    omega

theorem getLsbD_DIRTY (i : ℕ) : DIRTY.getLsbD i = decide (i = 62) := by
  unfold DIRTY
  by_cases hi : i < 64
  · rw [BitVec.getLsbD_shiftLeft, BitVec.getLsbD_one]
    by_cases h : i = 62
    · subst h
      rfl
    · simp [h]
      omega
  · rw [BitVec.getLsbD_of_ge _ _ (by omega)]
    simp
    omega

theorem getLsbD_lineOfWord :
    (lineOfWord w).getLsbD i = (w.getLsbD i && !decide (i = 62) && !decide (i = 63)) := by
  unfold lineOfWord
  by_cases hi : i < 64
  · rw [BitVec.getLsbD_and, BitVec.getLsbD_not, BitVec.getLsbD_or, getLsbD_VALID, getLsbD_DIRTY,
      decide_eq_true hi, Bool.true_and, Bool.not_or, Bool.and_comm (!decide (i = 63)),
      Bool.and_assoc]
  · rw [BitVec.getLsbD_of_ge _ _ (by omega), BitVec.getLsbD_of_ge w _ (by omega)]
    rfl

/-- Two words are equal if they agree on the flags and on the number of the line. -/
theorem word_ext {w' : BitVec 64} (h62 : w.getLsbD 62 = w'.getLsbD 62)
    (h63 : w.getLsbD 63 = w'.getLsbD 63) (hline : lineOfWord w = lineOfWord w') : w = w' := by
  refine BitVec.eq_of_getLsbD_eq (fun i hi => ?_)
  by_cases hi62 : i = 62
  · rw [hi62]
    exact h62
  · by_cases hi63 : i = 63
    · rw [hi63]
      exact h63
    · have hbit : (lineOfWord w).getLsbD i = (lineOfWord w').getLsbD i := by rw [hline]
      rw [getLsbD_lineOfWord, getLsbD_lineOfWord] at hbit
      simpa only [hi62, hi63, decide_false, Bool.not_false, Bool.and_true] using hbit

/-- Words that agree off the flags have the same number of the line. -/
theorem lineOfWord_congr {w' : BitVec 64}
    (h : ∀ i, i ≠ 62 → i ≠ 63 → w.getLsbD i = w'.getLsbD i) : lineOfWord w = lineOfWord w' := by
  refine BitVec.eq_of_getLsbD_eq (fun i hi => ?_)
  rw [getLsbD_lineOfWord, getLsbD_lineOfWord]
  by_cases hi62 : i = 62
  · simp only [hi62, decide_true, Bool.not_true, Bool.and_false, Bool.false_and]
  · by_cases hi63 : i = 63
    · simp only [hi63, decide_true, Bool.not_true, Bool.and_false]
    · rw [h i hi62 hi63]

/-- The number of a line is that of its clean word. -/
theorem lineOfWord_of_isLine (hl : IsLine l) : lineOfWord l = l := by
  have hline : lineOfWord (lineOfWord l) = lineOfWord l := by
    refine BitVec.eq_of_getLsbD_eq (fun i hi => ?_)
    rw [getLsbD_lineOfWord, getLsbD_lineOfWord]
    cases decide (i = 62) <;> cases decide (i = 63) <;> simp
  refine word_ext ?_ ?_ hline
  · rw [getLsbD_lineOfWord, hl.1]
    rfl
  · rw [getLsbD_lineOfWord, hl.2]
    rfl

theorem lineOfWord_or_VALID : lineOfWord (l ||| VALID) = lineOfWord l := by
  refine lineOfWord_congr (fun i _ h63 => ?_)
  rw [BitVec.getLsbD_or, getLsbD_VALID, decide_eq_false h63, Bool.or_false]

theorem lineOfWord_or_DIRTY : lineOfWord (w ||| DIRTY) = lineOfWord w := by
  refine lineOfWord_congr (fun i h62 _ => ?_)
  rw [BitVec.getLsbD_or, getLsbD_DIRTY, decide_eq_false h62, Bool.or_false]

theorem lineOfWord_and_not_DIRTY : lineOfWord (w &&& ~~~DIRTY) = lineOfWord w := by
  refine lineOfWord_congr (fun i h62 _ => ?_)
  by_cases hi : i < 64
  · rw [BitVec.getLsbD_and, BitVec.getLsbD_not, getLsbD_DIRTY, decide_eq_false h62,
      decide_eq_true hi]
    exact Bool.and_true _
  · rw [BitVec.getLsbD_of_ge _ _ (by omega), BitVec.getLsbD_of_ge w _ (by omega)]

/-- The flags of the clean word of a line. -/
theorem flags_or_VALID (hl : IsLine l) :
    (l ||| VALID).getLsbD 62 = false ∧ (l ||| VALID).getLsbD 63 = true := by
  rw [BitVec.getLsbD_or, BitVec.getLsbD_or, getLsbD_VALID, getLsbD_VALID, hl.1]
  exact ⟨rfl, Bool.or_true _⟩

theorem flags_or_DIRTY :
    (w ||| DIRTY).getLsbD 62 = true ∧ (w ||| DIRTY).getLsbD 63 = w.getLsbD 63 := by
  rw [BitVec.getLsbD_or, BitVec.getLsbD_or, getLsbD_DIRTY, getLsbD_DIRTY]
  exact ⟨Bool.or_true _, Bool.or_false _⟩

theorem flags_and_not_DIRTY :
    (w &&& ~~~DIRTY).getLsbD 62 = false ∧ (w &&& ~~~DIRTY).getLsbD 63 = w.getLsbD 63 := by
  rw [BitVec.getLsbD_and, BitVec.getLsbD_and, BitVec.getLsbD_not, BitVec.getLsbD_not,
    getLsbD_DIRTY, getLsbD_DIRTY]
  exact ⟨Bool.and_false _, Bool.and_true _⟩

/-- The tag of a line matches the words that hold the line. -/
theorem matches_iff (hl : IsLine l) : (l ||| VALID == w &&& ~~~DIRTY) = true ↔ Holds w l := by
  rw [beq_iff_eq]
  constructor
  · intro h
    have hline : lineOfWord w = lineOfWord l := by
      rw [← lineOfWord_and_not_DIRTY, ← h, lineOfWord_or_VALID]
    rw [lineOfWord_of_isLine hl] at hline
    refine ⟨?_, hline⟩
    rw [← flags_and_not_DIRTY.2, ← h]
    exact (flags_or_VALID hl).2
  · rintro ⟨hv, hline⟩
    refine word_ext ?_ ?_ ?_
    · rw [(flags_or_VALID hl).1, flags_and_not_DIRTY.1]
    · rw [(flags_or_VALID hl).2, flags_and_not_DIRTY.2, hv]
    · rw [lineOfWord_or_VALID, lineOfWord_and_not_DIRTY, hline, lineOfWord_of_isLine hl]

/-- What the clean word of a line holds. -/
theorem holds_or_VALID (hl : IsLine l) {x : BitVec 64} : Holds (l ||| VALID) x ↔ x = l := by
  unfold Holds
  rw [lineOfWord_or_VALID, lineOfWord_of_isLine hl]
  constructor
  · rintro ⟨-, rfl⟩
    rfl
  · rintro rfl
    exact ⟨(flags_or_VALID hl).2, rfl⟩

/-- The flag DIRTY does not change what a word holds. -/
theorem holds_or_DIRTY {x : BitVec 64} : Holds (w ||| DIRTY) x ↔ Holds w x := by
  unfold Holds
  rw [lineOfWord_or_DIRTY, flags_or_DIRTY.2]

/-- The victim is written back if it is valid and dirty. -/
theorem isValidDirty_iff :
    CacheSim.isValidDirty w = true ↔ w.getLsbD 63 = true ∧ w.getLsbD 62 = true := by
  have hflags (i : ℕ) : (w &&& (VALID ||| DIRTY)).getLsbD i
      = (w.getLsbD i && (decide (i = 63) || decide (i = 62))) := by
    rw [BitVec.getLsbD_and, BitVec.getLsbD_or, getLsbD_VALID, getLsbD_DIRTY]
  have hboth (i : ℕ) : (VALID ||| DIRTY).getLsbD i = (decide (i = 63) || decide (i = 62)) := by
    rw [BitVec.getLsbD_or, getLsbD_VALID, getLsbD_DIRTY]
  unfold CacheSim.isValidDirty
  rw [beq_iff_eq]
  constructor
  · intro h
    have h63 := hflags 63
    have h62 := hflags 62
    rw [h, hboth] at h63 h62
    exact ⟨((Bool.and_true _).symm.trans h63.symm), ((Bool.and_true _).symm.trans h62.symm)⟩
  · rintro ⟨h63, h62⟩
    refine BitVec.eq_of_getLsbD_eq (fun i _ => ?_)
    rw [hflags, hboth]
    by_cases hi63 : i = 63
    · rw [hi63, h63]
      rfl
    · by_cases hi62 : i = 62
      · rw [hi62, h62]
        rfl
      · rw [decide_eq_false hi63, decide_eq_false hi62]
        exact Bool.and_false _

theorem not_holds_zero : ¬ Holds 0#64 l := by
  rintro ⟨h, -⟩
  cases h

end Words

/-! ## Geometries -/

namespace Geometry

variable (g : Geometry)

theorem idxShift_pow (k : ℕ) : idxShift (2 ^ k) = k := by
  induction k with
  | zero =>
      unfold idxShift
      simp
  | succ k ih =>
      unfold idxShift
      have hpos : 1 < 2 ^ (k + 1) := Nat.one_lt_two_pow (by omega)
      rw [dif_pos hpos, pow_succ, Nat.mul_div_cancel _ (by omega), ih]

/-- The shift is the logarithm of the size of a line. -/
theorem shift_spec : g.linesz = 2 ^ g.shift ∧ 2 ≤ g.shift ∧ g.shift < 64 := by
  obtain ⟨k, hk, hpow⟩ := g.linesz_pow
  have hshift : g.shift = k := by
    unfold shift
    rw [hpow, idxShift_pow]
  have h4 := g.four_le_linesz
  rw [hshift]
  refine ⟨hpow, ?_, hk⟩
  by_contra hlt
  have hle : (2 : ℕ) ^ k ≤ 2 ^ 1 := Nat.pow_le_pow_right (by decide) (by omega)
  omega

/-- The number of the line of an address leaves room for the flags. -/
theorem isLine_line (addr : BitVec 64) : IsLine (g.line addr) := by
  obtain ⟨-, h2, -⟩ := g.shift_spec
  unfold IsLine line
  rw [BitVec.getLsbD_ushiftRight, BitVec.getLsbD_ushiftRight,
    BitVec.getLsbD_of_ge _ _ (by omega), BitVec.getLsbD_of_ge _ _ (by omega)]
  exact ⟨rfl, rfl⟩

theorem sets_pos : 0 < g.sets := by
  obtain ⟨k, -, hk⟩ := g.sets_pow
  rw [hk]
  exact Nat.two_pow_pos k

/-- The set of a line is selected by its lowest bits. -/
theorem idx_eq (l : BitVec 64) : g.idx l = l.toNat % g.sets := by
  obtain ⟨k, hk, hpow⟩ := g.sets_pow
  unfold idx
  have hlt : 2 ^ k - 1 < 2 ^ 64 := by
    have : 2 ^ k ≤ 2 ^ 64 := Nat.pow_le_pow_right (by decide) (by omega)
    omega
  rw [BitVec.toNat_and, BitVec.toNat_ofNat, hpow, Nat.mod_eq_of_lt hlt,
    Nat.and_two_pow_sub_one_eq_mod]

theorem idx_lt (l : BitVec 64) : g.idx l < g.sets := by
  rw [idx_eq]
  exact Nat.mod_lt _ g.sets_pos

/-- The address of the line with the number of the line of an address. -/
theorem line_shiftLeft (addr : BitVec 64) : g.line addr <<< g.shift = g.lineAddr addr := by
  obtain ⟨hpow, -, hlt⟩ := g.shift_spec
  unfold line lineAddr
  refine BitVec.eq_of_getLsbD_eq (fun i hi => ?_)
  have hmask : (BitVec.ofNat 64 (g.linesz - 1)).getLsbD i = decide (i < g.shift) := by
    rw [BitVec.getLsbD_ofNat, hpow, Nat.testBit_two_pow_sub_one]
    simp [hi]
  rw [BitVec.getLsbD_shiftLeft, BitVec.getLsbD_ushiftRight, BitVec.getLsbD_and,
    BitVec.getLsbD_not, hmask]
  by_cases h : i < g.shift
  · simp [h]
  · have hadd : g.shift + (i - g.shift) = i := by omega
    simp [h, hi, hadd]

/-- The words of a set. -/
theorem slot_div {i k : ℕ} (hk : k < g.ways) : (i * g.ways + k) / g.ways = i := by
  have hpos := g.ways_pos
  rw [Nat.mul_comm, Nat.mul_add_div (by omega), Nat.div_eq_of_lt hk, Nat.add_zero]

theorem slot_lt {i k : ℕ} (hi : i < g.sets) (hk : k < g.ways) :
    i * g.ways + k < g.sets * g.ways := by
  have hle : (i + 1) * g.ways ≤ g.sets * g.ways := Nat.mul_le_mul_right _ hi
  rw [Nat.add_mul, Nat.one_mul] at hle
  omega

end Geometry

/-! ## What a cache holds -/

namespace CacheSim

variable (g : Geometry)

/-- A word of the cache holds the line. -/
def HoldsLine (c : CacheSim) (l : BitVec 64) : Prop :=
  ∃ k < g.sets * g.ways, Holds (c.tags k) l

/-- A word of the cache holds the line and marks it as dirty. -/
def DirtyLine (c : CacheSim) (l : BitVec 64) : Prop :=
  ∃ k < g.sets * g.ways, Holds (c.tags k) l ∧ (c.tags k).getLsbD 62 = true

/-- The tags are well formed: every line lies in the set that its lowest bits select, it is held
once, and it is the line of an address. -/
structure Legal (c : CacheSim) : Prop where
  placed : ∀ {k l}, k < g.sets * g.ways → Holds (c.tags k) l → g.idx l = k / g.ways
  unique : ∀ {k k' l}, k < g.sets * g.ways → k' < g.sets * g.ways → Holds (c.tags k) l →
    Holds (c.tags k') l → k = k'
  line : ∀ {k l}, k < g.sets * g.ways → Holds (c.tags k) l → ∃ addr, l = g.line addr

variable {g} {c : CacheSim} {addr : BitVec 64}

/-- What `check_tag` finds. -/
theorem checkTag_some {k : ℕ} (h : c.checkTag g addr = some k) :
    k < g.sets * g.ways ∧ Holds (c.tags k) (g.line addr) := by
  unfold checkTag at h
  obtain ⟨i, hi, rfl⟩ := Option.map_eq_some_iff.mp h
  have hlt : i < g.ways := List.mem_range.mp (List.mem_of_find?_eq_some hi)
  refine ⟨g.slot_lt (g.idx_lt _) hlt, ?_⟩
  exact (matches_iff (g.isLine_line addr)).mp
    (List.find?_some (p := fun i => g.line addr ||| VALID
      == c.tags (g.idx (g.line addr) * g.ways + i) &&& ~~~DIRTY) hi)

/-- `check_tag` returns NULL exactly if no word holds the line. -/
theorem Legal.checkTag_eq_none (hc : c.Legal g) :
    c.checkTag g addr = none ↔ ¬ c.HoldsLine g (g.line addr) := by
  constructor
  · rintro h ⟨k, hk, hholds⟩
    unfold checkTag at h
    rw [Option.map_eq_none_iff, List.find?_eq_none] at h
    have hpos := g.ways_pos
    have hmod : k % g.ways < g.ways := Nat.mod_lt _ (by omega)
    have hslot : g.idx (g.line addr) * g.ways + k % g.ways = k := by
      rw [hc.placed hk hholds]
      exact Nat.div_add_mod' k g.ways
    refine h (k % g.ways) (List.mem_range.mpr hmod) ?_
    rw [hslot]
    exact (matches_iff (g.isLine_line addr)).mpr hholds
  · intro h
    rcases hk : c.checkTag g addr with _ | k
    · rfl
    · obtain ⟨hlt, hholds⟩ := checkTag_some hk
      exact absurd ⟨k, hlt, hholds⟩ h

/-- The word that holds a line is the one that `check_tag` finds. -/
theorem Legal.checkTag_eq_some (hc : c.Legal g) {k : ℕ} (hk : k < g.sets * g.ways)
    (hholds : Holds (c.tags k) (g.line addr)) : c.checkTag g addr = some k := by
  rcases hfind : c.checkTag g addr with _ | k'
  · exact absurd ⟨k, hk, hholds⟩ (hc.checkTag_eq_none.mp hfind)
  · obtain ⟨hlt, hholds'⟩ := checkTag_some hfind
    rw [hc.unique hk hlt hholds hholds']

/-! ## A word is marked as dirty -/

section SetDirty

variable {k : ℕ} {l x : BitVec 64}

theorem holds_setDirty (k' : ℕ) : Holds ((c.setDirty k).tags k') x ↔ Holds (c.tags k') x := by
  unfold setDirty
  by_cases hk : k' = k
  · subst hk
    simp only [Function.update_self]
    exact holds_or_DIRTY
  · simp only [Function.update_of_ne hk]

theorem holdsLine_setDirty : (c.setDirty k).HoldsLine g x ↔ c.HoldsLine g x := by
  unfold HoldsLine
  simp only [holds_setDirty]

theorem Legal.setDirty (hc : c.Legal g) : (c.setDirty k).Legal g where
  placed hk h := hc.placed hk ((holds_setDirty _).mp h)
  unique hk hk' h h' := hc.unique hk hk' ((holds_setDirty _).mp h) ((holds_setDirty _).mp h')
  line hk h := hc.line hk ((holds_setDirty _).mp h)

/-- The line of the word becomes dirty. -/
theorem dirtyLine_setDirty (hk : k < g.sets * g.ways) (hl : Holds (c.tags k) l) :
    (c.setDirty k).DirtyLine g x ↔ x = l ∨ c.DirtyLine g x := by
  constructor
  · rintro ⟨k', hk', hx, hd⟩
    rw [holds_setDirty] at hx
    by_cases hkk : k' = k
    · subst hkk
      exact Or.inl (hx.2.symm.trans hl.2)
    · refine Or.inr ⟨k', hk', hx, ?_⟩
      unfold CacheSim.setDirty at hd
      simpa only [Function.update_of_ne hkk] using hd
  · rintro (rfl | ⟨k', hk', hx, hd⟩)
    · refine ⟨k, hk, (holds_setDirty k).mpr hl, ?_⟩
      unfold CacheSim.setDirty
      simp only [Function.update_self]
      exact flags_or_DIRTY.1
    · refine ⟨k', hk', (holds_setDirty k').mpr hx, ?_⟩
      unfold CacheSim.setDirty
      by_cases hkk : k' = k
      · subst hkk
        simp only [Function.update_self]
        exact flags_or_DIRTY.1
      · simpa only [Function.update_of_ne hkk] using hd

end SetDirty

/-! ## A victim is replaced -/

section Victimize

variable {x : BitVec 64}

theorem victimSlot_lt : c.victimSlot g addr < g.sets * g.ways := by
  have hpos := g.ways_pos
  exact g.slot_lt (g.idx_lt _) (Nat.mod_lt _ (by omega))

theorem tags_victimize_self :
    (c.victimize g addr).tags (c.victimSlot g addr) = g.line addr ||| VALID :=
  Function.update_self _ _ _

theorem tags_victimize_of_ne {k : ℕ} (hk : k ≠ c.victimSlot g addr) :
    (c.victimize g addr).tags k = c.tags k := Function.update_of_ne hk _ _

/-- The line that is brought in, and the lines of the other words. -/
theorem holds_victimize {k : ℕ} : Holds ((c.victimize g addr).tags k) x
    ↔ (k = c.victimSlot g addr ∧ x = g.line addr)
      ∨ (k ≠ c.victimSlot g addr ∧ Holds (c.tags k) x) := by
  by_cases hk : k = c.victimSlot g addr
  · subst hk
    rw [tags_victimize_self, holds_or_VALID (g.isLine_line addr)]
    simp
  · rw [tags_victimize_of_ne hk]
    simp [hk]

/-- **The tags stay well formed** when a line is brought in that no word holds. -/
theorem Legal.victimize (hc : c.Legal g) (hno : ¬ c.HoldsLine g (g.line addr)) :
    (c.victimize g addr).Legal g := by
  refine ⟨?_, ?_, ?_⟩
  · intro k l hk h
    rcases holds_victimize.mp h with ⟨rfl, rfl⟩ | ⟨-, h⟩
    · have hpos := g.ways_pos
      exact (g.slot_div (Nat.mod_lt _ (by omega))).symm
    · exact hc.placed hk h
  · intro k k' l hk hk' h h'
    rcases holds_victimize.mp h with ⟨rfl, rfl⟩ | ⟨-, h⟩
    · rcases holds_victimize.mp h' with ⟨rfl, -⟩ | ⟨-, h'⟩
      · rfl
      · exact absurd ⟨k', hk', h'⟩ hno
    · rcases holds_victimize.mp h' with ⟨rfl, rfl⟩ | ⟨-, h'⟩
      · exact absurd ⟨k, hk, h⟩ hno
      · exact hc.unique hk hk' h h'
  · intro k l hk h
    rcases holds_victimize.mp h with ⟨rfl, rfl⟩ | ⟨-, h⟩
    · exact ⟨addr, rfl⟩
    · exact hc.line hk h

/-- The lines that are held after a replacement. -/
theorem Legal.holdsLine_victimize (hc : c.Legal g) : (c.victimize g addr).HoldsLine g x
    ↔ x = g.line addr ∨ (¬ Holds (c.victim g addr) x ∧ c.HoldsLine g x) := by
  constructor
  · rintro ⟨k, hk, h⟩
    rcases holds_victimize.mp h with ⟨rfl, rfl⟩ | ⟨hne, h⟩
    · exact Or.inl rfl
    · refine Or.inr ⟨?_, k, hk, h⟩
      intro hv
      exact hne (hc.unique hk victimSlot_lt h hv)
  · rintro (rfl | ⟨hv, k, hk, h⟩)
    · exact ⟨_, victimSlot_lt, holds_victimize.mpr (Or.inl ⟨rfl, rfl⟩)⟩
    · refine ⟨k, hk, holds_victimize.mpr (Or.inr ⟨?_, h⟩)⟩
      rintro rfl
      exact hv h

/-- The lines that are dirty after a replacement. -/
theorem Legal.dirtyLine_victimize (hc : c.Legal g) : (c.victimize g addr).DirtyLine g x
    ↔ ¬ Holds (c.victim g addr) x ∧ c.DirtyLine g x := by
  constructor
  · rintro ⟨k, hk, h, hd⟩
    rcases holds_victimize.mp h with ⟨rfl, rfl⟩ | ⟨hne, h⟩
    · rw [tags_victimize_self, (flags_or_VALID (g.isLine_line addr)).1] at hd
      cases hd
    · rw [tags_victimize_of_ne hne] at hd
      refine ⟨?_, k, hk, h, hd⟩
      intro hv
      exact hne (hc.unique hk victimSlot_lt h hv)
  · rintro ⟨hv, k, hk, h, hd⟩
    have hne : k ≠ c.victimSlot g addr := by
      rintro rfl
      exact hv h
    refine ⟨k, hk, holds_victimize.mpr (Or.inr ⟨hne, h⟩), ?_⟩
    rw [tags_victimize_of_ne hne]
    exact hd

end Victimize

/-! ## One access -/

variable (g) in
/-- The requests of an access to the miss handler. -/
def calls (c : CacheSim) (r : Request) : List Request :=
  match c.checkTag g r.addr with
  | some _ => []
  | none =>
      (if isValidDirty (c.victim g r.addr) then [writebackOf g (c.victim g r.addr)] else [])
        ++ [fetchOf g r.addr]

section Congr

variable {c' : CacheSim}

/-- The tags and the shift register are the same. -/
structure SameTags (c c' : CacheSim) : Prop where
  tags : c'.tags = c.tags
  lfsr : c'.lfsr = c.lfsr

theorem sameTags_countAccess (c : CacheSim) (r : Request) : SameTags c (c.countAccess r) := by
  unfold countAccess
  split <;> exact ⟨rfl, rfl⟩

theorem sameTags_countMiss (c : CacheSim) (r : Request) : SameTags c (c.countMiss r) := by
  unfold countMiss
  split <;> exact ⟨rfl, rfl⟩

theorem SameTags.trans {c'' : CacheSim} (h : SameTags c c') (h' : SameTags c' c'') :
    SameTags c c'' := ⟨h'.tags.trans h.tags, h'.lfsr.trans h.lfsr⟩

theorem SameTags.checkTag (h : SameTags c c') : c'.checkTag g addr = c.checkTag g addr := by
  unfold CacheSim.checkTag
  rw [h.tags]

theorem SameTags.victim (h : SameTags c c') : c'.victim g addr = c.victim g addr := by
  unfold CacheSim.victim victimSlot victimWay
  rw [h.tags, h.lfsr]

theorem SameTags.victimSlot (h : SameTags c c') :
    c'.victimSlot g addr = c.victimSlot g addr := by
  unfold CacheSim.victimSlot victimWay
  rw [h.lfsr]

theorem SameTags.legal (h : SameTags c c') (hc : c.Legal g) : c'.Legal g := by
  refine ⟨?_, ?_, ?_⟩ <;> rw [h.tags]
  · exact hc.placed
  · exact hc.unique
  · exact hc.line

theorem SameTags.holdsLine (h : SameTags c c') {x : BitVec 64} :
    c'.HoldsLine g x ↔ c.HoldsLine g x := by
  unfold HoldsLine
  rw [h.tags]

theorem SameTags.dirtyLine (h : SameTags c c') {x : BitVec 64} :
    c'.DirtyLine g x ↔ c.DirtyLine g x := by
  unfold DirtyLine
  rw [h.tags]

end Congr

/-- The cache with the line of an address in the place of the victim. -/
def filled (g : Geometry) (c : CacheSim) (r : Request) : CacheSim :=
  let c' := ((c.countAccess r).countMiss r).victimize g r.addr
  if isValidDirty (c.victim g r.addr) then c'.countWriteback else c'

variable (g) in
/-- The cache after an access. -/
def after (c : CacheSim) (r : Request) : CacheSim :=
  match c.checkTag g r.addr with
  | some k => if r.store then (c.countAccess r).setDirty k else c.countAccess r
  | none =>
      if r.store then (c.filled g r).setDirty (c.victimSlot g r.addr) else c.filled g r

variable {r : Request}

/-- The tags after a fill. -/
theorem sameTags_filled :
    SameTags (((c.countAccess r).countMiss r).victimize g r.addr) (c.filled g r) := by
  unfold filled
  simp only
  split <;> exact ⟨rfl, rfl⟩

/-- The counters come before the victim is replaced. -/
theorem sameTags_counted (c : CacheSim) (r : Request) :
    SameTags c ((c.countAccess r).countMiss r) :=
  (sameTags_countAccess c r).trans (sameTags_countMiss _ r)

/-- **After `victimize`, `check_tag` finds the word that was replaced.** -/
theorem Legal.checkTag_victimize (hc : c.Legal g) (hno : c.checkTag g addr = none) :
    (c.victimize g addr).checkTag g addr = some (c.victimSlot g addr) := by
  have hlegal := hc.victimize (hc.checkTag_eq_none.mp hno)
  exact hlegal.checkTag_eq_some victimSlot_lt (holds_victimize.mpr (Or.inl ⟨rfl, rfl⟩))

/-- **An access never dereferences NULL**: it ends in the cache after the access, and the
requests go to the miss handler in turn. -/
theorem Legal.access_eq {H : Type} (hc : c.Legal g)
    (handler : Option (Request → H → Option H)) (h : H) :
    c.access g handler r h
      = ((c.calls g r).foldlM (fun h q => callHandler handler q h) h).map
          (fun h => (c.after g r, h)) := by
  have hcounted := sameTags_counted c r
  unfold access calls after
  simp only
  rw [(sameTags_countAccess c r).checkTag]
  rcases hno : c.checkTag g r.addr with _ | k
  · simp only
    have hlegal : ((c.countAccess r).countMiss r).Legal g := hcounted.legal hc
    have hno' : ((c.countAccess r).countMiss r).checkTag g r.addr = none :=
      hcounted.checkTag.trans hno
    have hfind : (c.filled g r).checkTag g r.addr = some (c.victimSlot g r.addr) := by
      rw [sameTags_filled.checkTag, hlegal.checkTag_victimize hno', hcounted.victimSlot]
    unfold filled at hfind ⊢
    rw [hcounted.victim]
    rcases hd : isValidDirty (c.victim g r.addr) <;> rw [hd] at hfind
    · simp only [Bool.false_eq_true, if_false, Option.bind_eq_bind, Option.bind_some,
        List.nil_append, List.foldlM_cons, List.foldlM_nil] at hfind ⊢
      rcases callHandler handler (fetchOf g r.addr) h with _ | h'
      · rfl
      · rcases hs : r.store <;> simp [hfind]
    · simp only [if_true, Option.bind_eq_bind, List.singleton_append, List.foldlM_cons,
        List.foldlM_nil] at hfind ⊢
      rcases callHandler handler (writebackOf g (c.victim g r.addr)) h with _ | h'
      · rfl
      · simp only [Option.map_some, Option.bind_some]
        rcases callHandler handler (fetchOf g r.addr) h' with _ | h''
        · rfl
        · rcases hs : r.store <;> simp [hfind]
  · rfl

/-! ## The history of a cache -/

/-- The eviction of the line that a word holds. -/
def evictions (w : BitVec 64) : List (LineEvent (BitVec 64)) :=
  if w.getLsbD 63 then [.evict (lineOfWord w) (w.getLsbD 62)] else []

variable (g) in
/-- The events of an access, the last one first. -/
def events (c : CacheSim) (r : Request) : List (LineEvent (BitVec 64)) :=
  match c.checkTag g r.addr with
  | some _ => [.access (g.line r.addr) r.store true]
  | none => .access (g.line r.addr) r.store false :: evictions (c.victim g r.addr)

/-- The counters count the events of the history, modulo the size of a counter. -/
structure Counts (c : CacheSim) (h : List (LineEvent (BitVec 64))) : Prop where
  readAccesses : c.readAccesses = BitVec.ofNat 64 (accesses false h)
  writeAccesses : c.writeAccesses = BitVec.ofNat 64 (accesses true h)
  readMisses : c.readMisses = BitVec.ofNat 64 (misses false h)
  writeMisses : c.writeMisses = BitVec.ofNat 64 (misses true h)
  writebacks : c.writebacks = BitVec.ofNat 64 (LineEvent.writebacks h)

variable (g) in
/-- The cache is in the state that its history gives. -/
structure Tracks (c : CacheSim) (h : List (LineEvent (BitVec 64))) : Prop where
  legal : c.Legal g
  lawful : Lawful h
  present : ∀ x, c.HoldsLine g x ↔ Present h x
  dirty : ∀ x, c.DirtyLine g x ↔ Dirty h x
  counts : c.Counts h

/-- The empty cache. -/
theorem tracks_init : CacheSim.init.Tracks g [] where
  legal := ⟨fun _ h => absurd h not_holds_zero, fun _ _ h => absurd h not_holds_zero,
    fun _ h => absurd h not_holds_zero⟩
  lawful := trivial
  present _ := by
    refine iff_of_false ?_ not_since_nil
    rintro ⟨k, -, h⟩
    exact not_holds_zero h
  dirty _ := by
    refine iff_of_false ?_ not_since_nil
    rintro ⟨k, -, h, -⟩
    exact not_holds_zero h
  counts := ⟨rfl, rfl, rfl, rfl, rfl⟩

section Counts

variable {h : List (LineEvent (BitVec 64))} {l : BitVec 64}

/-- The counters after a hit. -/
theorem Counts.hit (hc : c.Counts h) : (c.countAccess r).Counts (.access l r.store true :: h) := by
  obtain ⟨h₁, h₂, h₃, h₄, h₅⟩ := hc
  unfold countAccess
  rcases r.store <;> constructor <;>
    simp [accesses, misses, LineEvent.writebacks, isAccess, isMiss, isWriteback, h₁, h₂, h₃, h₄,
      h₅, BitVec.ofNat_add]

/-- The counters after a miss. -/
theorem Counts.miss (hc : c.Counts h) :
    ((c.countAccess r).countMiss r).Counts (.access l r.store false :: h) := by
  obtain ⟨h₁, h₂, h₃, h₄, h₅⟩ := hc
  unfold countMiss countAccess
  rcases r.store <;> constructor <;>
    simp [accesses, misses, LineEvent.writebacks, isAccess, isMiss, isWriteback, h₁, h₂, h₃, h₄,
      h₅, BitVec.ofNat_add]

/-- The counters after an eviction, which comes before the last event. -/
theorem Counts.evict {e : LineEvent (BitVec 64)} {dirty : Bool} (hc : c.Counts (e :: h)) :
    (if dirty then c.countWriteback else c).Counts (e :: .evict l dirty :: h) := by
  obtain ⟨h₁, h₂, h₃, h₄, h₅⟩ := hc
  unfold accesses at h₁ h₂
  unfold misses at h₃ h₄
  unfold LineEvent.writebacks at h₅
  rw [List.countP_cons] at h₁ h₂ h₃ h₄ h₅
  unfold countWriteback
  rcases dirty <;> constructor <;>
    simp only [accesses, misses, LineEvent.writebacks, List.countP_cons, isAccess, isMiss,
      isWriteback, if_true, Bool.false_eq_true, if_false, Nat.add_zero, h₁, h₂, h₃, h₄, h₅]
  rw [Nat.add_right_comm]
  exact (BitVec.ofNat_add _ _).symm

/-- Tags are not counted. -/
theorem Counts.victimize (hc : c.Counts h) : (c.victimize g addr).Counts h :=
  ⟨hc.readAccesses, hc.writeAccesses, hc.readMisses, hc.writeMisses, hc.writebacks⟩

theorem Counts.setDirty (hc : c.Counts h) {k : ℕ} : (c.setDirty k).Counts h :=
  ⟨hc.readAccesses, hc.writeAccesses, hc.readMisses, hc.writeMisses, hc.writebacks⟩

/-- A fill adds its events. -/
theorem Counts.filled (hc : c.Counts h) : (c.filled g r).Counts
    (.access (g.line r.addr) r.store false :: (evictions (c.victim g r.addr) ++ h)) := by
  have hmiss := hc.miss (r := r) (l := g.line r.addr)
  unfold CacheSim.filled evictions
  rcases h63 : (c.victim g r.addr).getLsbD 63
  · have hclean : isValidDirty (c.victim g r.addr) = false := by
      rw [Bool.eq_false_iff]
      intro hd
      rw [(isValidDirty_iff.mp hd).1] at h63
      cases h63
    rw [hclean]
    exact hmiss.victimize
  · have hd : isValidDirty (c.victim g r.addr) = (c.victim g r.addr).getLsbD 62 := by
      rw [Bool.eq_iff_iff, isValidDirty_iff, h63]
      simp
    rw [hd]
    exact hmiss.victimize.evict

/-- An access adds its events. -/
theorem Counts.after (hc : c.Counts h) : (c.after g r).Counts (c.events g r ++ h) := by
  unfold CacheSim.after events
  rcases c.checkTag g r.addr with _ | k
  · simp only
    split
    · exact hc.filled.setDirty
    · exact hc.filled
  · simp only
    split
    · exact hc.hit.setDirty
    · exact hc.hit

end Counts

section Evictions

variable {w x : BitVec 64} {h : List (LineEvent (BitVec 64))}

/-- The lines that are present after the eviction. -/
theorem present_evictions : Present (evictions w ++ h) x ↔ ¬ Holds w x ∧ Present h x := by
  unfold evictions Holds
  rcases h63 : w.getLsbD 63
  · simp
  · rw [if_pos rfl]
    refine present_evict.trans ?_
    simp [eq_comm]

/-- The lines that are dirty after the eviction. -/
theorem dirty_evictions : Dirty (evictions w ++ h) x ↔ ¬ Holds w x ∧ Dirty h x := by
  unfold evictions Holds
  rcases h63 : w.getLsbD 63
  · simp
  · rw [if_pos rfl]
    refine dirty_evict.trans ?_
    simp [eq_comm]

/-- The eviction is lawful, if the word is one of the cache. -/
theorem Tracks.lawful_evictions {k : ℕ} (ht : c.Tracks g h) (hk : k < g.sets * g.ways) :
    Lawful (evictions (c.tags k) ++ h) := by
  unfold evictions
  rcases h63 : (c.tags k).getLsbD 63
  · exact ht.lawful
  · have hholds : Holds (c.tags k) (lineOfWord (c.tags k)) := ⟨h63, rfl⟩
    refine ⟨(ht.present _).mp ⟨k, hk, hholds⟩, ?_, ht.lawful⟩
    refine Iff.trans ?_ (ht.dirty _)
    constructor
    · intro h62
      exact ⟨k, hk, hholds, h62⟩
    · rintro ⟨k', hk', hholds', h62⟩
      rw [ht.legal.unique hk hk' hholds hholds']
      exact h62

end Evictions

section Tracks

variable {h : List (LineEvent (BitVec 64))}

/-- A cache with the same tags is in the same state. -/
theorem Tracks.congr {c' : CacheSim} (ht : c.Tracks g h) (hsame : SameTags c c')
    (hcounts : c'.Counts h) : c'.Tracks g h where
  legal := hsame.legal ht.legal
  lawful := ht.lawful
  present x := hsame.holdsLine.trans (ht.present x)
  dirty x := hsame.dirtyLine.trans (ht.dirty x)
  counts := hcounts

/-- A hit. -/
theorem Tracks.hit {k : ℕ} (ht : c.Tracks g h) (hfind : c.checkTag g r.addr = some k) :
    (c.after g r).Tracks g (c.events g r ++ h) := by
  obtain ⟨hk, hholds⟩ := checkTag_some hfind
  have hcounts : (c.after g r).Counts (c.events g r ++ h) := ht.counts.after
  have hcount := sameTags_countAccess c r
  have hpresent := (ht.present _).mp ⟨k, hk, hholds⟩
  have hlawful : Lawful (.access (g.line r.addr) r.store true :: h) :=
    ⟨iff_of_true rfl hpresent, ht.lawful⟩
  unfold CacheSim.after events at hcounts ⊢
  rw [hfind] at hcounts ⊢
  simp only at hcounts ⊢
  by_cases hs : r.store = true
  · rw [if_pos hs] at hcounts ⊢
    refine ⟨(hcount.legal ht.legal).setDirty, hlawful, fun x => ?_, fun x => ?_, hcounts⟩
    · rw [holdsLine_setDirty, hcount.holdsLine, ht.present]
      exact present_hit.symm
    · have hholds' : Holds ((c.countAccess r).tags k) (g.line r.addr) := by
        rw [hcount.tags]
        exact hholds
      rw [dirtyLine_setDirty hk hholds', hcount.dirtyLine, ht.dirty]
      refine Iff.trans ?_ dirty_hit.symm
      simp [hs]
  · rw [if_neg hs] at hcounts ⊢
    refine ⟨hcount.legal ht.legal, hlawful, fun x => ?_, fun x => ?_, hcounts⟩
    · rw [hcount.holdsLine, ht.present]
      exact present_hit.symm
    · rw [hcount.dirtyLine, ht.dirty]
      refine Iff.trans ?_ dirty_hit.symm
      simp [hs]

/-- A miss. -/
theorem Tracks.miss (ht : c.Tracks g h) (hfind : c.checkTag g r.addr = none) :
    (c.after g r).Tracks g (c.events g r ++ h) := by
  have hcounts : (c.after g r).Counts (c.events g r ++ h) := ht.counts.after
  have hno : ¬ c.HoldsLine g (g.line r.addr) := ht.legal.checkTag_eq_none.mp hfind
  have hcounted := sameTags_counted c r
  have hlegal := hcounted.legal ht.legal
  have hno' : ¬ ((c.countAccess r).countMiss r).HoldsLine g (g.line r.addr) :=
    fun hh => hno (hcounted.holdsLine.mp hh)
  have hlawful : Lawful (.access (g.line r.addr) r.store false
      :: (evictions (c.victim g r.addr) ++ h)) := by
    refine ⟨iff_of_false Bool.false_ne_true ?_, ht.lawful_evictions victimSlot_lt⟩
    intro hp
    exact hno ((ht.present _).mpr (present_evictions.mp hp).2)
  have hholds (x : BitVec 64) : (c.filled g r).HoldsLine g x
      ↔ x = g.line r.addr ∨ (¬ Holds (c.victim g r.addr) x ∧ Present h x) := by
    rw [sameTags_filled.holdsLine, hlegal.holdsLine_victimize, hcounted.victim,
      hcounted.holdsLine, ht.present]
  have hdirty (x : BitVec 64) : (c.filled g r).DirtyLine g x
      ↔ ¬ Holds (c.victim g r.addr) x ∧ Dirty h x := by
    rw [sameTags_filled.dirtyLine, hlegal.dirtyLine_victimize, hcounted.victim,
      hcounted.dirtyLine, ht.dirty]
  have hpresent (x : BitVec 64) : (c.filled g r).HoldsLine g x ↔ Present
      (.access (g.line r.addr) r.store false :: (evictions (c.victim g r.addr) ++ h)) x := by
    rw [hholds, present_miss, present_evictions]
  have hmiss (x : BitVec 64) : Dirty
      (.access (g.line r.addr) r.store false :: (evictions (c.victim g r.addr) ++ h)) x
      ↔ (x = g.line r.addr ∧ r.store = true) ∨ (c.filled g r).DirtyLine g x := by
    rw [dirty_miss, dirty_evictions, hdirty]
    refine or_congr_right (and_iff_right_of_imp ?_)
    rintro ⟨-, hd⟩ rfl
    exact hno ((ht.present _).mpr (ht.lawful.present_of_dirty hd))
  have hfilled : (c.filled g r).Legal g := sameTags_filled.legal (hlegal.victimize hno')
  unfold CacheSim.after events at hcounts ⊢
  rw [hfind] at hcounts ⊢
  simp only [List.cons_append] at hcounts ⊢
  by_cases hs : r.store = true
  · rw [if_pos hs] at hcounts ⊢
    refine ⟨hfilled.setDirty, hlawful, fun x => ?_, fun x => ?_, hcounts⟩
    · rw [holdsLine_setDirty]
      exact hpresent x
    · have hnew : Holds ((c.filled g r).tags (c.victimSlot g r.addr)) (g.line r.addr) := by
        rw [sameTags_filled.tags, ← hcounted.victimSlot, tags_victimize_self]
        exact (holds_or_VALID (g.isLine_line _)).mpr rfl
      rw [dirtyLine_setDirty victimSlot_lt hnew, hmiss]
      simp [hs]
  · rw [if_neg hs] at hcounts ⊢
    refine ⟨hfilled, hlawful, hpresent, fun x => ?_, hcounts⟩
    rw [hmiss]
    simp [hs]

/-- **Every access keeps the cache in the state that its history gives.** -/
theorem Tracks.after (ht : c.Tracks g h) : (c.after g r).Tracks g (c.events g r ++ h) := by
  rcases hfind : c.checkTag g r.addr with _ | k
  · exact ht.miss hfind
  · exact ht.hit hfind

end Tracks

end CacheSim

end SailRiscv
