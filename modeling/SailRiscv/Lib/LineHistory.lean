/-
# Histories of a write-back cache

The history of a cache, the last event first, determines the lines that it holds and those that
are dirty: a line is present if it was brought in and not evicted since (`Present`), and dirty if
it was stored to since it was last brought in (`Dirty`).  A history is lawful if every access says
rightly whether it hits, and every eviction is of a line that is present and says rightly
whether it is dirty.
-/
import Mathlib

/-! ## Since -/

section Since

variable {E : Type}

/-- An event of the history meets `P`, and no event after it meets `Q`. -/
def Since (P Q : E → Prop) (h : List E) : Prop :=
  ∃ newer e older, h = newer ++ e :: older ∧ P e ∧ ∀ e' ∈ newer, ¬ Q e'

variable {P Q : E → Prop} {e : E} {h : List E}

theorem not_since_nil : ¬ Since P Q [] := by
  rintro ⟨newer, e, older, hnil, -⟩
  cases newer <;> cases hnil

/-- One more event. -/
theorem since_cons : Since P Q (e :: h) ↔ P e ∨ (¬ Q e ∧ Since P Q h) := by
  constructor
  · rintro ⟨_ | ⟨e₁, newer⟩, e', older, heq, hP, hQ⟩
    · cases heq
      exact Or.inl hP
    · cases heq
      refine Or.inr ⟨hQ e List.mem_cons_self, newer, e', older, rfl, hP, ?_⟩
      intro e₂ he₂
      exact hQ e₂ (List.mem_cons_of_mem _ he₂)
  · rintro (hP | ⟨hQ, newer, e', older, rfl, hP, hnew⟩)
    · exact ⟨[], e, h, rfl, hP, nofun⟩
    · refine ⟨e :: newer, e', older, rfl, hP, ?_⟩
      intro e₂ he₂
      rcases List.mem_cons.mp he₂ with rfl | he₂
      · exact hQ
      · exact hnew e₂ he₂

end Since

/-! ## Events -/

/-- An event in a cache with lines in `L`: an access, which is a store or not and hits or
misses, or an eviction of a line, which is dirty or not. -/
inductive LineEvent (L : Type) where
  | access (line : L) (store hit : Bool)
  | evict (line : L) (dirty : Bool)
  deriving DecidableEq

namespace LineEvent

variable {L : Type}

/-- The event brings `x` in. -/
def Fills (x : L) (e : LineEvent L) : Prop := ∃ store, e = .access x store false

/-- The event stores to `x`. -/
def StoresTo (x : L) (e : LineEvent L) : Prop := ∃ hit, e = .access x true hit

/-- The event evicts `x`. -/
def Evicts (x : L) (e : LineEvent L) : Prop := ∃ dirty, e = .evict x dirty

/-- The lines that are present after a history. -/
def Present (h : List (LineEvent L)) (x : L) : Prop := Since (Fills x) (Evicts x) h

/-- The lines that are dirty after a history. -/
def Dirty (h : List (LineEvent L)) (x : L) : Prop :=
  Since (StoresTo x) (fun e => Fills x e ∨ Evicts x e) h

section Steps

variable {h : List (LineEvent L)} {l x : L} {store hit dirty : Bool}

/-- A hit brings nothing in. -/
theorem present_hit : Present (.access l store true :: h) x ↔ Present h x := by
  unfold Present
  rw [since_cons]
  constructor
  · rintro (⟨_, h₁⟩ | ⟨-, h₁⟩)
    · cases h₁
    · exact h₁
  · exact fun h₁ => Or.inr ⟨nofun, h₁⟩

/-- A miss brings its line in. -/
theorem present_miss : Present (.access l store false :: h) x ↔ x = l ∨ Present h x := by
  unfold Present
  rw [since_cons]
  constructor
  · rintro (⟨_, h₁⟩ | ⟨-, h₁⟩)
    · cases h₁
      exact Or.inl rfl
    · exact Or.inr h₁
  · rintro (rfl | h₁)
    · exact Or.inl ⟨store, rfl⟩
    · exact Or.inr ⟨nofun, h₁⟩

/-- An eviction takes its line away. -/
theorem present_evict : Present (.evict l dirty :: h) x ↔ x ≠ l ∧ Present h x := by
  unfold Present
  rw [since_cons]
  constructor
  · rintro (⟨_, h₁⟩ | ⟨hne, h₁⟩)
    · cases h₁
    · refine ⟨?_, h₁⟩
      rintro rfl
      exact hne ⟨dirty, rfl⟩
  · rintro ⟨hne, h₁⟩
    refine Or.inr ⟨?_, h₁⟩
    rintro ⟨_, h₂⟩
    cases h₂
    exact hne rfl

/-- A hit that stores makes its line dirty. -/
theorem dirty_hit : Dirty (.access l store true :: h) x ↔ (x = l ∧ store = true) ∨ Dirty h x := by
  unfold Dirty
  rw [since_cons]
  constructor
  · rintro (⟨_, h₁⟩ | ⟨-, h₁⟩)
    · cases h₁
      exact Or.inl ⟨rfl, rfl⟩
    · exact Or.inr h₁
  · rintro (⟨rfl, rfl⟩ | h₁)
    · exact Or.inl ⟨true, rfl⟩
    · refine Or.inr ⟨?_, h₁⟩
      rintro (⟨_, h₂⟩ | ⟨_, h₂⟩) <;> cases h₂

/-- A miss makes its line dirty exactly if it stores. -/
theorem dirty_miss :
    Dirty (.access l store false :: h) x ↔ (x = l ∧ store = true) ∨ (x ≠ l ∧ Dirty h x) := by
  unfold Dirty
  rw [since_cons]
  constructor
  · rintro (⟨_, h₁⟩ | ⟨hne, h₁⟩)
    · cases h₁
      exact Or.inl ⟨rfl, rfl⟩
    · refine Or.inr ⟨?_, h₁⟩
      rintro rfl
      exact hne (Or.inl ⟨store, rfl⟩)
  · rintro (⟨rfl, rfl⟩ | ⟨hne, h₁⟩)
    · exact Or.inl ⟨false, rfl⟩
    · refine Or.inr ⟨?_, h₁⟩
      rintro (⟨_, h₂⟩ | ⟨_, h₂⟩) <;> cases h₂
      exact hne rfl

/-- A line that is evicted is not dirty any more. -/
theorem dirty_evict : Dirty (.evict l dirty :: h) x ↔ x ≠ l ∧ Dirty h x := by
  unfold Dirty
  rw [since_cons]
  constructor
  · rintro (⟨_, h₁⟩ | ⟨hne, h₁⟩)
    · cases h₁
    · refine ⟨?_, h₁⟩
      rintro rfl
      exact hne (Or.inr ⟨dirty, rfl⟩)
  · rintro ⟨hne, h₁⟩
    refine Or.inr ⟨?_, h₁⟩
    rintro (⟨_, h₂⟩ | ⟨_, h₂⟩) <;> cases h₂
    exact hne rfl

end Steps

/-! ## Lawful histories -/

/-- The history of a write-back cache. -/
def Lawful : List (LineEvent L) → Prop
  | [] => True
  | .access l _ hit :: h => (hit = true ↔ Present h l) ∧ Lawful h
  | .evict l dirty :: h => Present h l ∧ (dirty = true ↔ Dirty h l) ∧ Lawful h

/-- Dirty lines are present. -/
theorem Lawful.present_of_dirty {h : List (LineEvent L)} (hl : Lawful h) {x : L}
    (hx : Dirty h x) : Present h x := by
  induction h with
  | nil => exact absurd hx not_since_nil
  | cons e h ih =>
      rcases e with ⟨l, store, _ | _⟩ | ⟨l, dirty⟩
      · rcases dirty_miss.mp hx with ⟨rfl, -⟩ | ⟨-, hx⟩
        · exact present_miss.mpr (Or.inl rfl)
        · exact present_miss.mpr (Or.inr (ih hl.2 hx))
      · rcases dirty_hit.mp hx with ⟨rfl, -⟩ | hx
        · exact present_hit.mpr (hl.1.mp rfl)
        · exact present_hit.mpr (ih hl.2 hx)
      · obtain ⟨hne, hx⟩ := dirty_evict.mp hx
        exact present_evict.mpr ⟨hne, ih hl.2.2 hx⟩

/-! ## Counts -/

/-- The event is a store, or is not one. -/
def isAccess (store : Bool) : LineEvent L → Bool
  | .access _ store' _ => store' == store
  | .evict .. => false

/-- The event is a miss of a store, or of another access. -/
def isMiss (store : Bool) : LineEvent L → Bool
  | .access _ store' hit => store' == store && !hit
  | .evict .. => false

/-- The event is the eviction of a dirty line. -/
def isWriteback : LineEvent L → Bool
  | .access .. => false
  | .evict _ dirty => dirty

/-- The number of stores, or of other accesses. -/
def accesses (store : Bool) (h : List (LineEvent L)) : ℕ := h.countP (isAccess store)

/-- The number of misses of stores, or of other accesses. -/
def misses (store : Bool) (h : List (LineEvent L)) : ℕ := h.countP (isMiss store)

/-- The number of evictions of dirty lines. -/
def writebacks (h : List (LineEvent L)) : ℕ := h.countP isWriteback

/-- Misses are accesses. -/
theorem misses_le_accesses (store : Bool) (h : List (LineEvent L)) :
    misses store h ≤ accesses store h := by
  unfold misses accesses
  refine List.countP_mono_left (fun e _ he => ?_)
  rcases e with ⟨l, store', hit⟩ | _
  · unfold isMiss at he
    unfold isAccess
    simp only [Bool.and_eq_true] at he
    exact he.1
  · cases he

/-- **Every store pays for one dirty line**, until it is written back. -/
theorem Lawful.writebacks_add_card_le [DecidableEq L] {h : List (LineEvent L)} (hl : Lawful h)
    {D : Finset L} (hD : ∀ x ∈ D, Dirty h x) : writebacks h + D.card ≤ accesses true h := by
  induction h generalizing D with
  | nil =>
      have hempty : D = ∅ := Finset.eq_empty_of_forall_notMem (fun x hx =>
        not_since_nil (hD x hx))
      rw [hempty]
      exact le_refl _
  | cons e h ih =>
      rcases e with ⟨l, store, hit⟩ | ⟨l, dirty⟩
      · have hwb : writebacks (.access l store hit :: h) = writebacks h := rfl
        have hold (x : L) (hx : x ∈ D) (hne : ¬ (x = l ∧ store = true)) : Dirty h x := by
          rcases hit
          · exact ((dirty_miss.mp (hD x hx)).resolve_left hne).2
          · exact (dirty_hit.mp (hD x hx)).resolve_left hne
        rw [hwb]
        rcases store
        · have hacc : accesses true (.access l false hit :: h) = accesses true h := rfl
          rw [hacc]
          refine ih hl.2 (fun x hx => hold x hx ?_)
          rintro ⟨-, hfalse⟩
          cases hfalse
        · have hacc : accesses true (.access l true hit :: h) = accesses true h + 1 := by
            unfold accesses
            rw [List.countP_cons_of_pos rfl]
          have hrest := ih hl.2 (D := D.erase l) (fun x hx =>
            hold x (Finset.mem_of_mem_erase hx) (fun hc => Finset.ne_of_mem_erase hx hc.1))
          have hcard : D.card - 1 ≤ (D.erase l).card := Finset.pred_card_le_card_erase
          omega
      · have hacc : accesses true (.evict l dirty :: h) = accesses true h := rfl
        have hnew (x : L) (hx : x ∈ D) : x ≠ l ∧ Dirty h x := dirty_evict.mp (hD x hx)
        rw [hacc]
        rcases dirty
        · exact ih hl.2.2 (fun x hx => (hnew x hx).2)
        · have hwb : writebacks (.evict l true :: h) = writebacks h + 1 := by
            unfold writebacks
            rw [List.countP_cons_of_pos rfl]
          have hl' : l ∉ D := fun hx => (hnew l hx).1 rfl
          have hrest := ih hl.2.2 (D := insert l D) (fun x hx => by
            rcases Finset.mem_insert.mp hx with rfl | hx
            · exact hl.2.1.mp rfl
            · exact (hnew x hx).2)
          rw [Finset.card_insert_of_notMem hl'] at hrest
          omega

end LineEvent
