/-
# Page-table entries in memory

What writing a PTE does to the state.

* `PteWritable s p a` : the write-back of a PTE at `a` is permitted and goes to main memory;
* `writePte_cases` : a write-back stores the PTE if it is permitted, and otherwise leaves the
  memory alone.
-/
import SailRiscv.BusSteps

namespace SailRiscv

open Bits Platform

variable [Platform]

/-! ## The three parameter sets -/

/-- `p` is one of the parameter sets of the model. -/
def SVParams.Valid (p : SVParams) : Prop := p = sv32Params ∨ p = sv39Params ∨ p = sv48Params

section Valid

variable {p : SVParams} (hp : p.Valid)
include hp

omit [Platform] in
theorem SVParams.Valid.pteSize_eq : p.pteSize = 4 ∨ p.pteSize = 8 := by
  rcases hp with rfl | rfl | rfl
  · exact Or.inl rfl
  · exact Or.inr rfl
  · exact Or.inr rfl

omit [Platform] in
theorem SVParams.Valid.ptePPNsLsbIndex_eq : p.ptePPNsLsbIndex = 10 := by
  rcases hp with rfl | rfl | rfl <;> rfl

omit [Platform] in
theorem SVParams.Valid.ptePPNj_eq : p.ptePPNjSizeBits = p.vpnSizeBits := by
  rcases hp with rfl | rfl | rfl <;> rfl

end Valid

/-! ## Writing a PTE -/

/-- The write-back of a PTE at `a` is permitted by the PMP and goes to main memory. -/
def PteWritable (s : State) (p : SVParams) (a : Xlenbits) : Prop :=
  physAccessCheck s .Write .Supervisor a p.pteSize = .ok none
    ∧ withinMmioWritable a p.pteSize = false ∧ withinPhysMem a p.pteSize = true

/-- The state after a PTE is stored at `a`. -/
def storePTE (s : State) (p : SVParams) (a : Xlenbits) (pte : BitVec 64) : State :=
  { s with mem := Bytes.write s.mem a.toNat p.pteSize (pte.setWidth (8 * p.pteSize)) }

/-- A permitted write-back stores the PTE. -/
theorem run_writePte {s : State} {p : SVParams} {a : Xlenbits} (h : PteWritable s p a)
    (pte : BitVec 64) :
    (writePte p a pte).run s = .ok (.MemValue true, storePTE s p a pte) := by
  unfold writePte memWriteValuePriv memWriteValuePrivMeta checkedMemWrite
  rw [if_neg (by simp)]
  have hcheck : (Exec.checks (fun s => physAccessCheck s .Write .Supervisor a p.pteSize)).run s
      = .ok (none, s) := Exec.run_checks_ok.mpr ⟨h.1, rfl⟩
  rw [Exec.run_bind_of_ok hcheck]
  simp only [h.2.1, h.2.2, if_true, Bool.false_eq_true, if_false]
  rfl

/-- The memories of two states are the same. -/
def SameMem (s s' : State) : Prop := s'.mem = s.mem

instance : Std.Refl SameMem := ⟨fun _ => rfl⟩

instance : IsTrans State SameMem := ⟨fun _ _ _ h₁ h₂ => Eq.trans h₂ h₁⟩

/-- The devices are not in memory. -/
instance : DeviceClosed SameMem where
  devices _ _ := rfl

/-- **What a write-back does.**  It stores the PTE when it is permitted, and otherwise
leaves the memory alone. -/
theorem writePte_cases {s s' : State} {p : SVParams} {a : Xlenbits} {pte : BitVec 64}
    {r : MemoryOpResult Bool} (h : (writePte p a pte).run s = .ok (r, s')) :
    (PteWritable s p a ∧ r = .MemValue true ∧ s' = storePTE s p a pte)
      ∨ (¬ PteWritable s p a ∧ SameMem s s') := by
  by_cases hw : PteWritable s p a
  · rw [run_writePte hw] at h
    cases h
    exact Or.inl ⟨hw, rfl, rfl⟩
  · refine Or.inr ⟨hw, ?_⟩
    unfold writePte memWriteValuePriv memWriteValuePrivMeta checkedMemWrite at h
    rw [if_neg (by simp)] at h
    obtain ⟨c, s₁, hcheck, h⟩ := Exec.run_bind_ok.mp h
    obtain ⟨hc, rfl⟩ := Exec.run_checks_ok.mp hcheck
    cases c with
    | some e => cases h; rfl
    | none =>
        simp only at h
        cases hmmio : withinMmioWritable a p.pteSize with
        | true =>
            rw [hmmio, if_pos rfl] at h
            exact (keeps_mmioWrite (R := SameMem) _ _ _).rel h
        | false =>
            rw [hmmio, if_neg (by simp)] at h
            cases hphys : withinPhysMem a p.pteSize with
            | true => exact absurd ⟨hc, hmmio, hphys⟩ hw
            | false =>
                rw [hphys, if_neg (by simp)] at h
                cases h
                rfl

end SailRiscv
