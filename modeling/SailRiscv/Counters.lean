/-
# What instructions do to the counters

`mcycle`, `minstret` and the inhibit bits are changed by the instructions that write their CSRs;
`WFI` changes `mcycle` too.  Every other instruction leaves them alone, traps included.
-/
import SailRiscv.CsrClocks
import SailRiscv.StepRel
import SailRiscv.Timer

namespace SailRiscv

open Bits Platform

variable [Platform]

/-! ## The registers of the counters -/

/-- The counter of retired instructions and its controls are the same. -/
structure SameInstret (s s' : State) : Prop where
  minstret : s'.minstret = s.minstret
  minstretIncrement : s'.minstretIncrement = s.minstretIncrement
  mcountinhibit : s'.mcountinhibit = s.mcountinhibit

/-- All counters and their controls are the same. -/
structure SameCounters (s s' : State) : Prop extends SameInstret s s' where
  mcycle : s'.mcycle = s.mcycle

instance : Std.Refl SameInstret := ⟨fun _ => ⟨rfl, rfl, rfl⟩⟩

instance : Std.Refl SameCounters := ⟨fun _ => ⟨⟨rfl, rfl, rfl⟩, rfl⟩⟩

instance : IsTrans State SameInstret where
  trans _ _ _ h h' := ⟨h'.minstret.trans h.minstret,
    h'.minstretIncrement.trans h.minstretIncrement, h'.mcountinhibit.trans h.mcountinhibit⟩

instance : IsTrans State SameCounters where
  trans _ _ _ h h' := ⟨IsTrans.trans _ _ _ h.toSameInstret h'.toSameInstret,
    h'.mcycle.trans h.mcycle⟩

instance : StepRel SameCounters where
  devices _ _ := ⟨⟨rfl, rfl, rfl⟩, rfl⟩
  store _ _ _ _ _ := ⟨⟨rfl, rfl, rfl⟩, rfl⟩
  tlb _ _ _ := ⟨⟨rfl, rfl, rfl⟩, rfl⟩
  x _ _ := ⟨⟨rfl, rfl, rfl⟩, rfl⟩
  jump _ _ _ := ⟨⟨rfl, rfl, rfl⟩, rfl⟩
  trap h := by rcases h with _ | _ <;> exact ⟨⟨rfl, rfl, rfl⟩, rfl⟩
  vec _ _ := ⟨⟨rfl, rfl, rfl⟩, rfl⟩
  dirtyV _ := ⟨⟨rfl, rfl, rfl⟩, rfl⟩
  fp _ _ _ := ⟨⟨rfl, rfl, rfl⟩, rfl⟩
  dirtyFd _ _ := ⟨⟨rfl, rfl, rfl⟩, rfl⟩
  after _ _ := ⟨⟨rfl, rfl, rfl⟩, rfl⟩
  bits _ _ := ⟨⟨rfl, rfl, rfl⟩, rfl⟩

instance : TraceClosed SameCounters := ⟨fun _ _ => ⟨⟨rfl, rfl, rfl⟩, rfl⟩⟩

instance : ReservationClosed SameCounters := ⟨fun _ _ _ => ⟨⟨rfl, rfl, rfl⟩, rfl⟩⟩

instance : RetClosed SameCounters where
  mret _ _ _ := ⟨⟨rfl, rfl, rfl⟩, rfl⟩
  sret _ _ := ⟨⟨rfl, rfl, rfl⟩, rfl⟩

/-! ## Instructions that leave the counters alone -/

/-- Reads of CSRs change the entropy source only. -/
instance keeps_counters_readCSR (csr : BitVec 12) : Exec.Keeps SameCounters (readCSR csr) :=
  keeps_readCSR_of (fun _ => ⟨⟨rfl, rfl, rfl⟩, rfl⟩) csr

/-- An instruction that is neither a `WFI` nor an access to a CSR leaves the counters alone. -/
theorem sameCounters_of_execute [SoftFloat] {i : Ast} {s s' : State} {r : Retired}
    (heven : i.EvenOffset) (hw : i ≠ .BASE .WFI) (hcsr : ∀ z, i ≠ .CSR z)
    (h : i.execute.run s = .ok (r, s')) : SameCounters s s' :=
  (Ast.keeps_of (fun _ => inferInstance) (fun _ => inferInstance) heven (fun hi => absurd hi hw)
    (fun _ => inferInstance) (fun z hi => absurd hi (hcsr z))).rel h

/-- A step that executes no such instruction leaves the counters alone until it ends. -/
theorem Outcome.sameCounters [SoftFloat] {s s' : State} {r : Retired} (h : Outcome s r s')
    (hw : ∀ s₁, ¬ Executes s (.BASE .WFI) s₁) (hcsr : ∀ z s₁, ¬ Executes s (.CSR z) s₁) :
    SameCounters s.begin s' := by
  refine h.rel_of (fun {i s₁} hi hrun => ?_)
  refine sameCounters_of_execute hi.evenOffset ?_ ?_ hrun
  · rintro rfl
    exact hw s₁ hi
  · rintro z rfl
    exact hcsr z s₁ hi

/-- A step executes one instruction at most. -/
theorem Executes.unique [SoftFloat] {s s₁ s₂ : State} {i j : Ast} (hi : Executes s i s₁)
    (hj : Executes s j s₂) : i = j ∧ s₁ = s₂ := by
  rcases hi with @⟨w, t, -, hf, -⟩ | @⟨w, t, -, hf⟩ <;>
    rcases hj with @⟨w', t', -, hf', -⟩ | @⟨w', t', -, hf'⟩ <;>
    rw [hf] at hf' <;> cases hf' <;> exact ⟨rfl, rfl⟩

/-- What a step that executes `i` does. -/
theorem Outcome.run_of_executes [SoftFloat] {s s₁ s₂ : State} {i : Ast} {r : Retired}
    (h : Outcome s r s₂) (hi : Executes s i s₁) : i.execute.run s₁ = .ok (r, s₂) := by
  rcases h with ⟨hintr, -⟩ | ⟨-, hfetch, -⟩ | ⟨-, hfetch, hc, -⟩ | ⟨hj, hrun⟩
  · rcases hi with ⟨hnone, -, -⟩ | ⟨hnone, -⟩ <;> rw [hintr] at hnone <;> cases hnone
  · rcases hi with ⟨-, hf, -⟩ | ⟨-, hf⟩ <;> rw [hfetch] at hf <;> cases hf
  · rcases hi with ⟨-, hf, hc'⟩ | ⟨-, hf⟩ <;> rw [hfetch] at hf <;> cases hf
    rw [hc] at hc'
    cases hc'
  · obtain ⟨rfl, rfl⟩ := hi.unique hj
    exact hrun

/-! ## `WFI` -/

/-- The privilege may execute `WFI`. -/
def WfiAllowed (s : State) : Prop :=
  s.curPrivilege ≠ .User ∧ ¬ (s.curPrivilege = .Supervisor ∧ Mstatus.TW.get s.mstatus = 1#1)

instance (s : State) : Decidable (WfiAllowed s) := by
  unfold WfiAllowed
  infer_instance

/-- **What `WFI` does.** -/
theorem executeWfi_cases {s s' : State} {r : Retired}
    (h : BaseInst.WFI.execute.run s = .ok (r, s')) :
    (¬ WfiAllowed s ∧ r = .RETIRE_FAIL ∧ SyncTrap s s')
      ∨ (WfiAllowed s ∧ r = .RETIRE_SUCCESS
        ∧ s' = if s.mtime < s.mtimecmp then s.fastForward else s) := by
  unfold BaseInst.execute at h
  rw [Exec.run_bind_of_ok (Exec.run_reads _ _), Exec.run_bind_of_ok (Exec.run_reads _ _)] at h
  by_cases hallow : WfiAllowed s
  · rw [if_neg (by unfold WfiAllowed at hallow; simpa using hallow)] at h
    obtain ⟨u, s₁, hwfi, hend⟩ := Exec.run_bind_ok.mp h
    rw [run_platformWfi] at hwfi
    cases hwfi
    cases hend
    exact Or.inr ⟨hallow, rfl, rfl⟩
  · rw [if_pos (by
      unfold WfiAllowed at hallow
      simpa [or_iff_not_imp_left] using hallow)] at h
    unfold illegal at h
    obtain ⟨u, s₁, htrap, hend⟩ := Exec.run_bind_ok.mp h
    cases hend
    obtain ⟨info, htrap⟩ := handleIllegal_cases htrap
    exact Or.inl ⟨hallow, rfl, _, htrap⟩

/-! ## Accesses to CSRs -/

/-- The instruction writes its CSR, and is let through. -/
def ZicsrInst.Writes (i : ZicsrInst) (s : State) : Prop :=
  i.isWrite s = true ∧ checkCSR s i.csr s.curPrivilege true = true

/-- **What an access to a CSR does.** -/
theorem zicsr_cases {i : ZicsrInst} {s s' : State} {r : Retired}
    (h : i.execute.run s = .ok (r, s')) :
    (checkCSR s i.csr s.curPrivilege (i.isWrite s) = false ∧ r = .RETIRE_FAIL ∧ SyncTrap s s')
      ∨ (checkCSR s i.csr s.curPrivilege (i.isWrite s) = true ∧ r = .RETIRE_SUCCESS
        ∧ ∃ old s₁ s₂, (readCSR i.csr).run s = .ok (old, s₁) ∧ s' = s₂.setX i.rd old
          ∧ ((i.isWrite s = false ∧ s₂ = s₁)
            ∨ (i.isWrite s = true
              ∧ ∃ new, (writeCSR i.csr (i.newVal old (i.rs1Val s))).run s₁ = .ok (new, s₂)))) := by
  unfold ZicsrInst.execute at h
  rw [Exec.run_bind_of_ok (Exec.run_reads _ _), Exec.run_bind_of_ok (Exec.run_reads _ _),
    Exec.run_bind_of_ok (Exec.run_reads _ _)] at h
  by_cases hcheck : checkCSR s i.csr s.curPrivilege (i.isWrite s) = true
  · rw [if_pos hcheck] at h
    obtain ⟨old, s₁, hread, hrest⟩ := Exec.run_bind_ok.mp h
    refine Or.inr ⟨hcheck, ?_⟩
    by_cases hw : i.isWrite s = true
    · rw [if_pos hw] at hrest
      obtain ⟨new, s₂, hwrite, hend⟩ := Exec.run_bind_ok.mp hrest
      rw [Exec.run_bind_of_ok rfl] at hend
      cases hend
      exact ⟨rfl, old, s₁, s₂, hread, rfl, Or.inr ⟨hw, new, hwrite⟩⟩
    · rw [if_neg hw] at hrest
      rw [Exec.run_bind_of_ok rfl] at hrest
      cases hrest
      exact ⟨rfl, old, s₁, s₁, hread, rfl, Or.inl ⟨by simpa using hw, rfl⟩⟩
  · rw [if_neg hcheck] at h
    obtain ⟨u, s₁, htrap, hend⟩ := Exec.run_bind_ok.mp h
    cases hend
    obtain ⟨info, htrap⟩ := handleIllegal_cases htrap
    exact Or.inl ⟨by simpa using hcheck, rfl, _, htrap⟩

end SailRiscv
