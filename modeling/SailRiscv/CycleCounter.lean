/-
# The cycle counter over runs

Along every run of steps and ticks `mcycle` is written through its CSRs or it moves forward, and
it stands still while `mcountinhibit.CY` is set, except when a `WFI` sets it to the threshold
of the timer (`mcycle_law_iff`).
-/
import SailRiscv.Counters

namespace SailRiscv

open Bits Platform

variable [Platform] [SoftFloat]

/-! ## The law -/

omit [Platform] [SoftFloat] in
/-- The counter has moved forward, modulo its width. -/
def Advances (a b : BitVec 64) : Prop := a < b ∨ b = a + 1#64

/-- The turn executes an instruction that writes `mcycle` or `mcycleh`. -/
def WritesMcycle (s : State) (t : Turn) : Prop :=
  t = .step ∧ ∃ z s₁, Executes s (.CSR z) s₁ ∧ z.csr ∈ [0xB00#12, 0xB80#12] ∧ z.Writes s₁

/-- In the turn the counter is written, or it is left alone, or it counts and moves
forward. -/
def CycleLaw (x : State × Turn × State) : Prop :=
  WritesMcycle x.1 x.2.1 ∨ x.2.2.mcycle = x.1.mcycle
    ∨ (Counteren.CY.get x.1.mcountinhibit = 0#1 ∧ Advances x.1.mcycle x.2.2.mcycle)

/-- The turn executes a `WFI` that sets the counter to a threshold behind it, or to another
value while it is inhibited. -/
def WfiWarps (x : State × Turn × State) : Prop :=
  x.2.1 = .step ∧ ∃ s₁, Executes x.1 (.BASE .WFI) s₁ ∧ WfiAllowed s₁ ∧ s₁.mtime < s₁.mtimecmp
    ∧ (s₁.mtimecmp < x.1.mcycle
      ∨ (Counteren.CY.get x.1.mcountinhibit ≠ 0#1 ∧ s₁.mtimecmp ≠ x.1.mcycle))

/-! ## One turn -/

variable {s s' : State}

omit [SoftFloat] in
/-- A turn that does not change the counter obeys the law. -/
theorem cycleLaw_of_same {t : Turn} (h : s'.mcycle = s.mcycle)
    (hw : ∀ s₁, Executes s (.BASE .WFI) s₁ → ¬ (WfiAllowed s₁ ∧ s₁.mtime < s₁.mtimecmp)) :
    CycleLaw (s, t, s') ↔ ¬ WfiWarps (s, t, s') := by
  refine iff_of_true (Or.inr (Or.inl h)) ?_
  rintro ⟨-, s₁, hi, hallow, hlt, -⟩
  exact hw s₁ hi ⟨hallow, hlt⟩

/-- A tick of the clock obeys the law. -/
theorem cycleLaw_tick (h : Turns .tick s s') : CycleLaw (s, .tick, s') := by
  obtain ⟨_, s₁, htick, hplat⟩ := Exec.run_bind_ok.mp h
  obtain ⟨_, s₂, hcount, hdispatch⟩ := Exec.run_bind_ok.mp htick
  cases hcount
  cases hdispatch
  cases hplat
  by_cases hcy : Counteren.CY.get s.mcountinhibit = 0#1
  · exact Or.inr (Or.inr ⟨hcy, Or.inr (if_pos hcy)⟩)
  · exact Or.inr (Or.inl (if_neg hcy))

/-- A `WFI` obeys the law unless it warps the counter. -/
theorem cycleLaw_wfi {s₁ s₂ : State} {r : Retired} (hi : Executes s (.BASE .WFI) s₁)
    (hrun : (Ast.BASE .WFI).execute.run s₁ = .ok (r, s₂)) :
    CycleLaw (s, .step, endStep r s₂) ↔ ¬ WfiWarps (s, .step, endStep r s₂) := by
  have hs₁ : SameCounters s.begin s₁ := hi.rel_of
  have hcycle : s₁.mcycle = s.mcycle := hs₁.mcycle
  have hother {i : Ast} {t : State} (h : Executes s i t) : .BASE .WFI = i ∧ s₁ = t := hi.unique h
  rcases executeWfi_cases hrun with ⟨hallow, -, htrap⟩ | ⟨hallow, -, rfl⟩
  · have hs₂ : SameCounters s₁ s₂ := htrap.rel
    refine cycleLaw_of_same (hs₂.mcycle.trans hcycle) ?_
    rintro t ht ⟨ha, -⟩
    exact hallow ((hother ht).2 ▸ ha)
  · by_cases hlt : s₁.mtime < s₁.mtimecmp
    swap
    · rw [if_neg hlt]
      refine cycleLaw_of_same hcycle ?_
      rintro t ht ⟨-, hl⟩
      exact hlt ((hother ht).2 ▸ hl)
    rw [if_pos hlt]
    have hwrites : ¬ WritesMcycle s .step := by
      rintro ⟨-, z, t, ht, -⟩
      exact nomatch (hother ht).1
    -- the threshold is not zero, so the counter cannot wrap to it
    have hpos : s₁.mtimecmp ≠ 0#64 := fun h0 => by simp [h0] at hlt
    by_cases heq : s₁.mtimecmp = s.mcycle
    · refine iff_of_true (Or.inr (Or.inl heq)) ?_
      rintro ⟨-, t, ht, -, -, hbad⟩
      obtain ⟨-, rfl⟩ := hother ht
      rcases hbad with hbad | ⟨-, hne⟩
      · rw [heq] at hbad
        exact absurd hbad (BitVec.lt_irrefl _)
      · exact hne heq
    · by_cases hcy : Counteren.CY.get s.mcountinhibit = 0#1
      · by_cases hback : s₁.mtimecmp < s.mcycle
        · refine iff_of_false ?_ (fun h => h ⟨rfl, s₁, hi, hallow, hlt, Or.inl hback⟩)
          rintro (h | h | ⟨-, h | h⟩)
          · exact hwrites h
          · exact heq h
          · exact absurd (BitVec.lt_trans hback h) (BitVec.lt_irrefl _)
          · have h' : s₁.mtimecmp = s.mcycle + 1#64 := h
            bv_omega
        · refine iff_of_true (Or.inr (Or.inr ⟨hcy, Or.inl ?_⟩)) ?_
          · show s.mcycle < s₁.mtimecmp
            bv_omega
          · rintro ⟨-, t, ht, -, -, hbad⟩
            obtain ⟨-, rfl⟩ := hother ht
            rcases hbad with hbad | ⟨hn, -⟩
            · exact hback hbad
            · exact hn hcy
      · refine iff_of_false ?_ (fun h => h ⟨rfl, s₁, hi, hallow, hlt, Or.inr ⟨hcy, heq⟩⟩)
        rintro (h | h | ⟨h, -⟩)
        · exact hwrites h
        · exact heq h
        · exact hcy h

omit [SoftFloat] in
/-- A CSR write leaves `mcycle` alone unless it is a write of it. -/
theorem mcycle_of_writeCSR {csr : BitVec 12} {value r : Xlenbits}
    (hcsr : csr ∉ [0xB00#12, 0xB80#12]) (h : (writeCSR csr value).run s = .ok (r, s')) :
    s'.mcycle = s.mcycle := by
  have hw : s'.clocks = clocksWritten s csr value := (clocksWritten_writeCSR csr value).rel h
  have hcycle : s'.mcycle = (clocksWritten s csr value).mcycle := congrArg Clocks.mcycle hw
  simp only [List.mem_cons, List.not_mem_nil, or_false, not_or] at hcsr
  rw [hcycle]
  unfold clocksWritten
  split_ifs with _ _ _ hlow hhigh
  · rfl
  · rfl
  · rfl
  · exact absurd hlow hcsr.1
  · exact absurd hhigh.1 hcsr.2
  all_goals rfl

/-- An access to a CSR obeys the law. -/
theorem cycleLaw_csr {z : ZicsrInst} {s₁ s₂ : State} {r : Retired}
    (hi : Executes s (.CSR z) s₁) (hrun : (Ast.CSR z).execute.run s₁ = .ok (r, s₂)) :
    CycleLaw (s, .step, endStep r s₂) := by
  have hs₁ : SameCounters s.begin s₁ := hi.rel_of
  rcases zicsr_cases hrun with ⟨-, -, htrap⟩ | ⟨hcheck, -, old, s₃, s₄, hread, rfl, hwrite⟩
  · have hs₂ : SameCounters s₁ s₂ := htrap.rel
    exact Or.inr (Or.inl (hs₂.mcycle.trans hs₁.mcycle))
  · have hs₃ : SameCounters s₁ s₃ := (keeps_counters_readCSR z.csr).rel hread
    have hx : (s₄.setX z.rd old).mcycle = s₄.mcycle := by
      unfold State.setX
      split <;> rfl
    rcases hwrite with ⟨-, rfl⟩ | ⟨hisw, new, hwrite⟩
    · exact Or.inr (Or.inl (hx.trans (hs₃.mcycle.trans hs₁.mcycle)))
    · by_cases hcsr : z.csr ∈ [0xB00#12, 0xB80#12]
      · exact Or.inl ⟨rfl, z, s₁, hi, hcsr, hisw, by rw [hisw] at hcheck; exact hcheck⟩
      · exact Or.inr (Or.inl (hx.trans ((mcycle_of_writeCSR hcsr hwrite).trans
          (hs₃.mcycle.trans hs₁.mcycle))))

/-- **One turn obeys the law unless a `WFI` warps the counter.** -/
theorem cycleLaw_iff {t : Turn} (h : Turns t s s') :
    CycleLaw (s, t, s') ↔ ¬ WfiWarps (s, t, s') := by
  cases t with
  | tick =>
      refine iff_of_true (cycleLaw_tick h) ?_
      rintro ⟨ht, -⟩
      cases ht
  | step =>
      obtain ⟨stepped, hstep⟩ := h
      obtain ⟨r, s₂, hout, rfl⟩ := step_cases hstep
      by_cases hwfi : ∃ s₁, Executes s (.BASE .WFI) s₁
      · obtain ⟨s₁, hi⟩ := hwfi
        exact cycleLaw_wfi hi (hout.run_of_executes hi)
      · by_cases hcsr : ∃ z s₁, Executes s (.CSR z) s₁
        · obtain ⟨z, s₁, hi⟩ := hcsr
          refine iff_of_true (cycleLaw_csr hi (hout.run_of_executes hi)) ?_
          rintro ⟨-, t, ht, -⟩
          exact hwfi ⟨t, ht⟩
        · have hsame := hout.sameCounters (fun s₁ hi => hwfi ⟨s₁, hi⟩)
            (fun z s₁ hi => hcsr ⟨z, s₁, hi⟩)
          refine cycleLaw_of_same hsame.mcycle ?_
          intro s₁ hi
          exact absurd ⟨s₁, hi⟩ hwfi

/-! ## Runs -/

variable {s₀ : State} {path : List (State × Turn × State)}

/-- **Every turn of a run obeys the law exactly if no `WFI` of the run warps the counter.** -/
theorem mcycle_law_iff (h : Trace Turns s₀ path s) :
    (∀ x ∈ path, CycleLaw x) ↔ ∀ x ∈ path, ¬ WfiWarps x := by
  have hturn : ∀ x ∈ path, CycleLaw x ↔ ¬ WfiWarps x := h.forall_of_step cycleLaw_iff
  constructor
  · intro hlaw x hx
    exact (hturn x hx).mp (hlaw x hx)
  · intro hwarp x hx
    exact (hturn x hx).mpr (hwarp x hx)

/-- While it is inhibited and not written, the counter stands still. -/
theorem mcycle_inhibited (h : Trace Turns s₀ path s)
    (hpath : ∀ x ∈ path, ¬ WfiWarps x ∧ ¬ WritesMcycle x.1 x.2.1
      ∧ Counteren.CY.get x.1.mcountinhibit ≠ 0#1) : s.mcycle = s₀.mcycle := by
  refine h.invariant (I := fun t => t.mcycle = s₀.mcycle) rfl (fun {a t b} hx ha hstep => ?_)
  obtain ⟨hwarp, hwrite, hcy⟩ := hpath _ hx
  rcases (cycleLaw_iff hstep).mpr hwarp with hw | hsame | ⟨hc, -⟩
  · exact absurd hw hwrite
  · exact hsame.trans ha
  · exact absurd hc hcy

/-- As long as it is not written and does not wrap, the counter does not decrease. -/
theorem mcycle_mono (h : Trace Turns s₀ path s)
    (hpath : ∀ x ∈ path, ¬ WfiWarps x ∧ ¬ WritesMcycle x.1 x.2.1
      ∧ x.1.mcycle ≠ BitVec.allOnes 64) : s₀.mcycle ≤ s.mcycle := by
  refine h.invariant (I := fun t => s₀.mcycle ≤ t.mcycle) (BitVec.le_refl _)
    (fun {a t b} hx ha hstep => ?_)
  obtain ⟨hwarp, hwrite, hmax⟩ := hpath _ hx
  simp only at hmax
  rcases (cycleLaw_iff hstep).mpr hwarp with hw | hsame | ⟨-, hlt | hsucc⟩
  · exact absurd hw hwrite
  · simp only at hsame
    rw [hsame]
    exact ha
  · simp only at hlt
    exact BitVec.le_trans ha (BitVec.le_of_lt hlt)
  · simp only at hsucc
    have hne : a.mcycle.toNat ≠ 2 ^ 64 - 1 := fun hn => hmax (BitVec.eq_of_toNat_eq hn)
    rw [hsucc]
    bv_omega

/-! ## A `WFI` that turns the counter back -/

/-- A machine at a `WFI`, with more cycles on the counter than the threshold of the timer. -/
def wfiAheadOfTimer : State :=
  { State.zero (Bytes.write (fun _ => 0#8) 0x80000000 4 0x10500073#32) with
    curPrivilege := .Machine
    pc := 0x80000000#_
    misa := 0x40140101#_
    mtimecmp := 1#64
    mcycle := 5#64 }

omit [Platform] [SoftFloat] in
/-- The step executes the `WFI` and completes. -/
theorem run_wfiAheadOfTimer :
    letI := rv32DirtyUpdate true
    letI : SoftFloat := default
    ∃ s₁ s', Executes wfiAheadOfTimer (.BASE .WFI) s₁ ∧ WfiAllowed s₁ ∧ s₁.mtime < s₁.mtimecmp
      ∧ s₁.mtimecmp < wfiAheadOfTimer.mcycle ∧ Turns .step wfiAheadOfTimer s' := by
  let := rv32DirtyUpdate true
  let : SoftFloat := default
  have hexec : wfiAheadOfTimer.executes 0x10500073#32 (.BASE .WFI) (fun s₁ =>
      s₁.curPrivilege == .Machine && decide (s₁.mtime < s₁.mtimecmp)
        && decide (s₁.mtimecmp < wfiAheadOfTimer.mcycle)) = true := by decide +kernel
  have hsteps : step.passes wfiAheadOfTimer (fun _ _ => true) = true := by decide
  obtain ⟨b, s', hstep, -⟩ := Exec.passes_iff.mp hsteps
  obtain ⟨s₁, hi, htest⟩ := exists_executes hexec
  simp only [Bool.and_eq_true, beq_iff_eq, decide_eq_true_eq] at htest
  obtain ⟨⟨hpriv, hlt⟩, hback⟩ := htest
  have hallow : WfiAllowed s₁ := by
    constructor
    · exact fun h => Privilege.noConfusion (hpriv.symm.trans h)
    · exact fun h => Privilege.noConfusion (hpriv.symm.trans h.1)
  exact ⟨s₁, s', hi, hallow, hlt, hback, b, hstep⟩

omit [Platform] [SoftFloat] in
/-- The counter goes back from five to one, and nothing has written it. -/
theorem wfi_turns_mcycle_back :
    ¬ ∀ [Platform] [SoftFloat] (s₀ s : State) (path : List (State × Turn × State)),
      Trace Turns s₀ path s → ∀ x ∈ path, CycleLaw x := by
  intro h
  let := rv32DirtyUpdate true
  let : SoftFloat := default
  obtain ⟨s₁, s', hi, hallow, hlt, hback, hturn⟩ := run_wfiAheadOfTimer
  have hlaw := h _ _ _ (Trace.cons .nil hturn) _ (List.mem_cons_self ..)
  exact (cycleLaw_iff hturn).mp hlaw ⟨rfl, s₁, hi, hallow, hlt, Or.inl hback⟩

omit [Platform] [SoftFloat] in
/-- This run breaks the law. -/
theorem mcycle_law_wfiAheadOfTimer :
    letI := rv32DirtyUpdate true
    ∃ s', ¬ ∀ x ∈ [(wfiAheadOfTimer, Turn.step, s')], CycleLaw x := by
  let := rv32DirtyUpdate true
  let : SoftFloat := default
  obtain ⟨s₁, s', hi, hallow, hlt, hback, hturn⟩ := run_wfiAheadOfTimer
  refine ⟨s', fun hlaw => ?_⟩
  exact (mcycle_law_iff (Trace.cons .nil hturn)).mp hlaw _ (List.mem_cons_self ..)
    ⟨rfl, s₁, hi, hallow, hlt, Or.inl hback⟩

end SailRiscv
