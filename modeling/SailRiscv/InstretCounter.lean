/-
# The counter of retired instructions

`step` decides before the fetch whether `minstret` is to count (`minstret_increment`), and counts
when the instruction has retired; an accepted write of `minstret` or `minstreth` takes the decision
back.  So over a run without such writes the counter moves by the number of instructions that
retire while `mcountinhibit.IR` is clear at the start of their step (`minstret_of_trace`).
-/
import SailRiscv.Counters

namespace SailRiscv

open Bits Platform

variable [Platform]

/-! ## Instructions that leave the counter alone -/

instance : StepRel SameInstret where
  devices _ _ := ⟨rfl, rfl, rfl⟩
  store _ _ _ _ _ := ⟨rfl, rfl, rfl⟩
  tlb _ _ _ := ⟨rfl, rfl, rfl⟩
  x _ _ := ⟨rfl, rfl, rfl⟩
  jump _ _ _ := ⟨rfl, rfl, rfl⟩
  trap h := by rcases h with _ | _ <;> exact ⟨rfl, rfl, rfl⟩
  vec _ _ := ⟨rfl, rfl, rfl⟩
  dirtyV _ := ⟨rfl, rfl, rfl⟩
  fp _ _ _ := ⟨rfl, rfl, rfl⟩
  dirtyFd _ _ := ⟨rfl, rfl, rfl⟩
  after _ _ := ⟨rfl, rfl, rfl⟩
  bits _ _ := ⟨rfl, rfl, rfl⟩

instance : TraceClosed SameInstret := ⟨fun _ _ => ⟨rfl, rfl, rfl⟩⟩

instance : ReservationClosed SameInstret := ⟨fun _ _ _ => ⟨rfl, rfl, rfl⟩⟩

instance : ClockClosed SameInstret := ⟨fun _ _ => ⟨rfl, rfl, rfl⟩⟩

instance : RetClosed SameInstret where
  mret _ _ _ := ⟨rfl, rfl, rfl⟩
  sret _ _ := ⟨rfl, rfl, rfl⟩

/-! ## The law -/

section

variable [SoftFloat]

/-- The turn executes an instruction that retires. -/
def RetiresAt (s : State) (t : Turn) : Prop :=
  t = .step ∧ ∃ i s₁ s₂, Executes s i s₁ ∧ i.execute.run s₁ = .ok (.RETIRE_SUCCESS, s₂)

/-- The instruction of the turn writes `value` to the part of `minstret` from bit `lo` on. -/
def WritesInstret (s : State) (t : Turn) (lo : ℕ) (value : Xlenbits) : Prop :=
  t = .step ∧ ∃ z s₁, Executes s (.CSR z) s₁ ∧ z.Writes s₁
    ∧ ((z.csr = 0xB02#12 ∧ lo = 0
          ∧ value = z.newVal (s.minstret.setWidth xlen) (z.rs1Val s₁))
      ∨ (z.csr = 0xB82#12 ∧ xlen = 32 ∧ lo = 32
          ∧ value = z.newVal (upperHalf s.minstret) (z.rs1Val s₁)))

/-- The turn writes `minstret`. -/
def InstretWritten (s : State) (t : Turn) : Prop := ∃ lo value, WritesInstret s t lo value

/-- The turn is counted. -/
def Counted (x : State × Turn × State) : Prop :=
  RetiresAt x.1 x.2.1 ∧ Counteren.IR.get x.1.mcountinhibit = 0#1

open Classical in
/-- What a turn does to the counter: a write puts the value into its half and leaves the other
alone, and without a write a counted turn adds one. -/
def InstretLaw (x : State × Turn × State) : Prop :=
  (∀ lo value, WritesInstret x.1 x.2.1 lo value →
      x.2.2.minstret = setRange x.1.minstret lo value)
    ∧ (¬ InstretWritten x.1 x.2.1 →
      x.2.2.minstret = if Counted x then x.1.minstret + 1#64 else x.1.minstret)

/-! ## One turn -/

variable {s s' : State}

omit [SoftFloat] in
/-- A CSR write leaves the counter alone unless it is a write of it. -/
theorem minstret_of_writeCSR {csr : BitVec 12} {value r : Xlenbits} (hlow : csr ≠ 0xB02#12)
    (hhigh : ¬ (csr = 0xB82#12 ∧ xlen = 32)) (h : (writeCSR csr value).run s = .ok (r, s')) :
    s'.minstret = s.minstret ∧ s'.minstretIncrement = s.minstretIncrement := by
  have hw : s'.clocks = clocksWritten s csr value := (clocksWritten_writeCSR csr value).rel h
  have hcount : s'.minstret = (clocksWritten s csr value).minstret := congrArg Clocks.minstret hw
  have hinc : s'.minstretIncrement = (clocksWritten s csr value).minstretIncrement :=
    congrArg Clocks.minstretIncrement hw
  rw [hcount, hinc]
  unfold clocksWritten
  rw [if_neg hlow, if_neg hhigh]
  split_ifs <;> exact ⟨rfl, rfl⟩

omit [SoftFloat] in
/-- A write of the lower half. -/
theorem minstret_of_writeLow {value r : Xlenbits}
    (h : (writeCSR 0xB02#12 value).run s = .ok (r, s')) :
    s'.minstret = setRange s.minstret 0 value ∧ s'.minstretIncrement = false := by
  cases h
  exact ⟨rfl, rfl⟩

omit [SoftFloat] in
/-- A write of the upper half, which RV32 has. -/
theorem minstret_of_writeHigh {value r : Xlenbits} (hx : xlen = 32)
    (h : (writeCSR 0xB82#12 value).run s = .ok (r, s')) :
    s'.minstret = setRange s.minstret 32 value ∧ s'.minstretIncrement = false := by
  have hw : s'.clocks = clocksWritten s 0xB82#12 value := (clocksWritten_writeCSR _ _).rel h
  have hwritten : clocksWritten s 0xB82#12 value = { s.clocks with
      minstret := setRange s.minstret 32 value
      minstretIncrement := false } := by
    unfold clocksWritten
    rw [if_neg (by decide), if_neg (by decide), if_neg (by decide), if_neg (by decide),
      if_neg (by simp), if_neg (by decide), if_pos ⟨rfl, hx⟩]
  rw [hwritten] at hw
  exact ⟨congrArg Clocks.minstret hw, congrArg Clocks.minstretIncrement hw⟩

omit [SoftFloat] in
/-- A read of the upper half. -/
theorem run_readCSR_high {old : Xlenbits} (hx : xlen = 32)
    (h : (readCSR 0xB82#12).run s = .ok (old, s')) : old = upperHalf s.minstret := by
  have hclause : readCSR 0xB82#12 = Exec.reads (fun s => upperHalf s.minstret) := by
    unfold readCSR
    repeat first
      | rw [if_neg (by decide)]
      | rw [if_neg (fun hc => absurd hc.1 (by decide))]
      | rw [if_neg (show ¬ (pmpcfgIdx 0xB82#12).any pmpcfgEven = true from Bool.false_ne_true)]
    exact if_pos (And.intro rfl hx)
  rw [hclause] at h
  cases h
  rfl

/-- The counter and the decision to count are those of `s`, when its step begins. -/
def CountsFrom (s s' : State) : Prop :=
  s'.minstret = s.minstret ∧ s'.minstretIncrement = (Counteren.IR.get s.mcountinhibit == 0#1)

omit [SoftFloat] in
theorem SameInstret.countsFrom (h : SameInstret s.begin s') : CountsFrom s s' :=
  ⟨h.minstret, h.minstretIncrement⟩

omit [SoftFloat] in
/-- A step whose instruction leaves the counter alone. -/
theorem CountsFrom.minstret_endStep {r : Retired} (h : CountsFrom s s') :
    (endStep r s').minstret
      = if r = .RETIRE_SUCCESS ∧ Counteren.IR.get s.mcountinhibit = 0#1
        then s.minstret + 1#64 else s.minstret := by
  unfold endStep
  dsimp only
  simp only [h.1, h.2, beq_iff_eq]

/-- The instruction that the turn executes retires, if the turn does. -/
theorem retires_iff {i : Ast} {s₁ s₂ : State} {r : Retired} (hi : Executes s i s₁)
    (hrun : i.execute.run s₁ = .ok (r, s₂)) : RetiresAt s .step ↔ r = .RETIRE_SUCCESS := by
  constructor
  · rintro ⟨-, j, t₁, t₂, hj, hrun'⟩
    obtain ⟨rfl, rfl⟩ := hi.unique hj
    rw [hrun] at hrun'
    cases hrun'
    rfl
  · rintro rfl
    exact ⟨rfl, i, s₁, s₂, hi, hrun⟩

/-- A step that traps before it executes an instruction does not retire one. -/
theorem not_retires_of_outcome {s₂ : State} {r : Retired} (h : Outcome s r s₂)
    (hno : ∀ i s₁, ¬ Executes s i s₁) : r = .RETIRE_FAIL ∧ ¬ RetiresAt s .step := by
  have hr : r = .RETIRE_FAIL := by
    rcases h with _ | _ | _ | ⟨hi, -⟩
    · rfl
    · rfl
    · rfl
    · exact absurd hi (hno _ _)
  refine ⟨hr, ?_⟩
  rintro ⟨-, i, s₁, s₂, hi, -⟩
  exact hno i s₁ hi

/-- A step that leaves the counter to `endStep` obeys the law. -/
theorem instretLaw_of_countsFrom {r : Retired} {s₂ : State} (h : CountsFrom s s₂)
    (hr : RetiresAt s .step ↔ r = .RETIRE_SUCCESS) (hw : ¬ InstretWritten s .step) :
    InstretLaw (s, .step, endStep r s₂) := by
  classical
  refine ⟨fun lo value hwrite => absurd ⟨lo, value, hwrite⟩ hw, fun _ => ?_⟩
  rw [h.minstret_endStep]
  unfold Counted
  simp only [hr]

/-- The instruction that a step executes decides whether it writes the counter. -/
theorem instretWritten_cases {i : Ast} {s₁ : State} (hi : Executes s i s₁) {lo : ℕ}
    {value : Xlenbits} (h : WritesInstret s .step lo value) : ∃ z, i = .CSR z ∧ z.Writes s₁
      ∧ ((z.csr = 0xB02#12 ∧ lo = 0
            ∧ value = z.newVal (s.minstret.setWidth xlen) (z.rs1Val s₁))
        ∨ (z.csr = 0xB82#12 ∧ xlen = 32 ∧ lo = 32
            ∧ value = z.newVal (upperHalf s.minstret) (z.rs1Val s₁))) := by
  obtain ⟨-, z, t, hz, hrest⟩ := h
  obtain ⟨rfl, rfl⟩ := hi.unique hz
  exact ⟨z, rfl, hrest⟩

/-- A write of one half of the counter obeys the law. -/
theorem instretLaw_written {z : ZicsrInst} {s₁ s₄ : State} {r : Retired} {lo : ℕ}
    {value : Xlenbits} (hi : Executes s (.CSR z) s₁) (hw : WritesInstret s .step lo value)
    (hcount : s₄.minstret = setRange s.minstret lo value) (hinc : s₄.minstretIncrement = false) :
    InstretLaw (s, .step, endStep r s₄) := by
  have hend : (endStep r s₄).minstret = s₄.minstret := by
    unfold endStep
    dsimp only
    rw [hinc, if_neg (by simp)]
  refine ⟨fun lo' value' hw' => ?_, fun hno => absurd ⟨lo, value, hw⟩ hno⟩
  obtain ⟨z, hz, -, hcase⟩ := instretWritten_cases hi hw
  obtain ⟨z', hz', -, hcase'⟩ := instretWritten_cases hi hw'
  cases hz
  cases hz'
  have hsame : lo' = lo ∧ value' = value := by
    rcases hcase with ⟨hcsr, rfl, rfl⟩ | ⟨hcsr, -, rfl, rfl⟩ <;>
      rcases hcase' with ⟨hcsr', rfl, rfl⟩ | ⟨hcsr', -, rfl, rfl⟩
    · exact ⟨rfl, rfl⟩
    · exact absurd (hcsr.symm.trans hcsr') (by decide)
    · exact absurd (hcsr.symm.trans hcsr') (by decide)
    · exact ⟨rfl, rfl⟩
  obtain ⟨rfl, rfl⟩ := hsame
  exact hend.trans hcount

/-- An access to a CSR obeys the law. -/
theorem instretLaw_csr {z : ZicsrInst} {s₁ s₂ : State} {r : Retired}
    (hi : Executes s (.CSR z) s₁) (hrun : (Ast.CSR z).execute.run s₁ = .ok (r, s₂)) :
    InstretLaw (s, .step, endStep r s₂) := by
  have hr := retires_iff hi hrun
  have hs₁ : SameInstret s.begin s₁ := hi.rel_of
  -- without an accepted write nothing is written
  have hno (hz : ¬ z.Writes s₁) : ¬ InstretWritten s .step := by
    rintro ⟨lo, value, hw⟩
    obtain ⟨z', h', hwrites, -⟩ := instretWritten_cases hi hw
    cases h'
    exact hz hwrites
  rcases zicsr_cases hrun with ⟨hrefused, -, htrap⟩ | ⟨hcheck, -, old, s₃, s₄, hread, rfl, hwrite⟩
  · have hs₂ : SameInstret s₁ s₂ := htrap.rel
    refine instretLaw_of_countsFrom (IsTrans.trans _ _ _ hs₁ hs₂ : SameInstret _ _).countsFrom hr
      (hno ?_)
    rintro ⟨hisw, hok⟩
    rw [hisw, hok] at hrefused
    cases hrefused
  have hs₃ : SameInstret s.begin s₃ :=
    IsTrans.trans _ _ _ hs₁ ((keeps_readCSR_of (fun _ => ⟨rfl, rfl, rfl⟩) z.csr).rel hread)
  have hx : (s₄.setX z.rd old).minstret = s₄.minstret
      ∧ (s₄.setX z.rd old).minstretIncrement = s₄.minstretIncrement := by
    unfold State.setX
    split <;> exact ⟨rfl, rfl⟩
  rcases hwrite with ⟨hisw, rfl⟩ | ⟨hisw, new, hwrite⟩
  · refine instretLaw_of_countsFrom ⟨hx.1.trans hs₃.minstret, hx.2.trans hs₃.minstretIncrement⟩ hr
      (hno ?_)
    rintro ⟨hisw', -⟩
    rw [hisw] at hisw'
    cases hisw'
  have hwrites : z.Writes s₁ := ⟨hisw, by rwa [hisw] at hcheck⟩
  -- the write replaces one half and takes the decision to count back
  have hhalf {lo : ℕ} (hw : WritesInstret s .step lo (z.newVal old (z.rs1Val s₁)))
      (hset : s₄.minstret = setRange s₃.minstret lo (z.newVal old (z.rs1Val s₁))
        ∧ s₄.minstretIncrement = false) : InstretLaw (s, .step, endStep r (s₄.setX z.rd old)) := by
    refine instretLaw_written hi hw ?_ (hx.2.trans hset.2)
    rw [hx.1, hset.1, hs₃.minstret]
    rfl
  have hs₁count : s₁.minstret = s.minstret := hs₁.minstret
  by_cases hlow : z.csr = 0xB02#12
  · rw [hlow] at hread hwrite
    have hold : old = s.minstret.setWidth xlen := by
      rw [← hs₁count]
      cases hread
      rfl
    exact hhalf ⟨rfl, z, s₁, hi, hwrites, Or.inl ⟨hlow, rfl, by rw [hold]⟩⟩
      (minstret_of_writeLow hwrite)
  by_cases hhigh : z.csr = 0xB82#12 ∧ xlen = 32
  · rw [hhigh.1] at hread hwrite
    have hold : old = upperHalf s.minstret := by
      rw [← hs₁count]
      exact run_readCSR_high hhigh.2 hread
    exact hhalf ⟨rfl, z, s₁, hi, hwrites, Or.inr ⟨hhigh.1, hhigh.2, rfl, by rw [hold]⟩⟩
      (minstret_of_writeHigh hhigh.2 hwrite)
  · have hkept := minstret_of_writeCSR hlow hhigh hwrite
    refine instretLaw_of_countsFrom ⟨hx.1.trans (hkept.1.trans hs₃.minstret),
      hx.2.trans (hkept.2.trans hs₃.minstretIncrement)⟩ hr ?_
    rintro ⟨lo, value, hw⟩
    obtain ⟨z', h', -, hcase⟩ := instretWritten_cases hi hw
    cases h'
    rcases hcase with ⟨hcsr, -⟩ | ⟨hcsr, hx32, -⟩
    · exact hlow hcsr
    · exact hhigh ⟨hcsr, hx32⟩

/-- **Every turn obeys the law.** -/
theorem Turns.instretLaw {t : Turn} (h : Turns t s s') : InstretLaw (s, t, s') := by
  classical
  cases t with
  | tick =>
      have : Exec.Keeps SameInstret tickPlatform := keeps_devices (fun _ => rfl)
      have hkeeps : Exec.Keeps SameInstret (do tickClock; tickPlatform : M Unit) := inferInstance
      have hsame : SameInstret s s' := hkeeps.rel h
      have hcounted : ¬ Counted (s, .tick, s') := by
        rintro ⟨⟨ht, -⟩, -⟩
        cases ht
      refine ⟨fun lo value hw => ?_, fun _ => ?_⟩
      · obtain ⟨ht, -⟩ := hw
        cases ht
      · rw [if_neg hcounted]
        exact hsame.minstret
  | step =>
      obtain ⟨stepped, hstep⟩ := h
      obtain ⟨r, s₂, hout, rfl⟩ := step_cases hstep
      by_cases hexec : ∃ i s₁, Executes s i s₁
      · obtain ⟨i, s₁, hi⟩ := hexec
        have hrun := hout.run_of_executes hi
        by_cases hcsr : ∃ z, i = .CSR z
        · obtain ⟨z, rfl⟩ := hcsr
          exact instretLaw_csr hi hrun
        · have hkeeps : Exec.Keeps SameInstret i.execute :=
            Ast.keeps_of (fun _ => inferInstance) (fun _ => inferInstance) hi.evenOffset
              (fun _ => inferInstance) (fun _ => inferInstance) (fun z hz => absurd ⟨z, hz⟩ hcsr)
          have hs₁ : SameInstret s.begin s₁ := hi.rel_of
          have hs₂ : SameInstret s.begin s₂ := IsTrans.trans _ _ _ hs₁ (hkeeps.rel hrun)
          refine instretLaw_of_countsFrom hs₂.countsFrom (retires_iff hi hrun) ?_
          rintro ⟨lo, value, hw⟩
          obtain ⟨z, hz, -⟩ := instretWritten_cases hi hw
          exact hcsr ⟨z, hz⟩
      · have hno (i : Ast) (s₁ : State) : ¬ Executes s i s₁ := fun hi => hexec ⟨i, s₁, hi⟩
        obtain ⟨rfl, hret⟩ := not_retires_of_outcome hout hno
        have hs₂ : SameInstret s.begin s₂ := hout.rel_of (fun hi => absurd hi (hno _ _))
        refine instretLaw_of_countsFrom hs₂.countsFrom (iff_of_false hret (by decide)) ?_
        rintro ⟨lo, value, -, z, s₁, hi, -⟩
        exact hno _ s₁ hi

/-! ## Runs -/

variable {s₀ : State} {path : List (State × Turn × State)}

open Classical in
/-- **`minstret` counts the retired instructions.**  In every run each turn obeys the law, so that
a write sets its half of the counter and is not counted; and over a run without writes the counter
moves by the number of the instructions that retired while `mcountinhibit.IR` was clear. -/
theorem minstret_of_trace (h : Trace Turns s₀ path s) :
    (∀ x ∈ path, InstretLaw x)
      ∧ ((∀ x ∈ path, ¬ InstretWritten x.1 x.2.1) →
        s.minstret = s₀.minstret + BitVec.ofNat 64 (path.countP (fun x => decide (Counted x)))) := by
  refine ⟨h.forall_of_step Turns.instretLaw, ?_⟩
  induction h with
  | nil =>
      intro _
      simp
  | @cons path s s' t _ hstep ih =>
      intro hno
      have hrun := ih (fun x hx => hno x (List.mem_cons_of_mem _ hx))
      have hturn := hstep.instretLaw.2 (hno (s, t, s') List.mem_cons_self)
      rw [hturn, List.countP_cons]
      by_cases hc : Counted (s, t, s')
      · rw [if_pos hc, if_pos (decide_eq_true hc), hrun, BitVec.ofNat_add, BitVec.add_assoc]
      · rw [if_neg hc, if_neg (by simpa using hc), hrun, Nat.add_zero]

end

/-- A state in Machine mode, before an `addi x0, x0, 0`. -/
def beforeNop : State :=
  { State.zero (Bytes.write (fun _ => 0#8) 0x80000000 4 0x00000013#32) with
    curPrivilege := .Machine
    pc := 0x80000000#_ }

omit [Platform] in
/-- The step is counted. -/
theorem minstret_of_trace_nop :
    letI := rv64Pmp 16 (by decide)
    letI : SoftFloat := default
    ∃ s : State, Trace Turns beforeNop [(beforeNop, .step, s)] s ∧ s.minstret = 1#64
      ∧ InstretLaw (beforeNop, .step, s) := by
  let := rv64Pmp 16 (by decide)
  let : SoftFloat := default
  have hstep : step.passes beforeNop (fun _ s => s.minstret == 1#64) = true := by decide +kernel
  obtain ⟨b, s, hrun, hcount⟩ := Exec.passes_iff.mp hstep
  have htrace : Trace Turns beforeNop [(beforeNop, .step, s)] s := .cons .nil ⟨b, hrun⟩
  exact ⟨s, htrace, beq_iff_eq.mp hcount,
    (minstret_of_trace htrace).1 _ List.mem_cons_self⟩

end SailRiscv
