/-
# The fetch-execute loop

`riscv_fetch.sail` and `riscv_step.sail`: one step takes an interrupt, or fetches, decodes and
executes an instruction.  A run of the machine is any sequence of steps and ticks of the clock,
from the state that `init_model` leaves.
-/
import SailRiscv.Insts.Ast
import SailRiscv.Lib.Run

namespace SailRiscv

open Bits Platform

variable [Platform]

/-! ## Fetching -/

/-- `FetchResult`. -/
inductive FetchResult where
  | F_Base (w : BitVec 32)
  | F_RVC (h : BitVec 16)
  | F_Error (e : ExceptionType) (addr : Xlenbits)

/-- The word of 32 bits that was fetched. -/
def FetchResult.base : FetchResult → Option (BitVec 32)
  | .F_Base w => some w
  | _ => none

theorem FetchResult.base_eq_some {r : FetchResult} {w : BitVec 32} :
    r.base = some w ↔ r = .F_Base w := by
  cases r <;> simp [base]

/-- `isRVC`. -/
def isRVC (h : BitVec 16) : Bool := !(h.extractLsb' 0 2 == 0b11#2)

/-- `F_Error(e, addr)`. -/
def fetchError (addr : Xlenbits) (e : ExceptionType) : M FetchResult := pure (.F_Error e addr)

/-- The fetch of the upper half of an instruction of 32 bits. -/
def fetchUpper (pc : Xlenbits) (ilo : BitVec 16) : M FetchResult := do
  let pcHi := pc + 2#_
  onAddress (fetchError pcHi) (← translateAddr pcHi .Execute) fun ppchi => do
    onMemValue (fetchError pcHi) (← memRead .Execute ppchi 2 false false false) fun ihi =>
      pure (.F_Base (show BitVec (16 + 16) from ihi ++ ilo))

/-- The fetch of an instruction at a legal address. -/
def fetchLower (pc : Xlenbits) : M FetchResult := do
  onAddress (fetchError pc) (← translateAddr pc .Execute) fun ppclo => do
    icRead ppclo
    onMemValue (fetchError pc) (← memRead .Execute ppclo 2 false false false) fun ilo =>
      if isRVC ilo then pure (.F_RVC ilo) else fetchUpper pc ilo

/-- Whether the address of the instruction is misaligned. -/
def fetchMisaligned (s : State) : Bool :=
  s.pc.getLsbD 0 || (s.pc.getLsbD 1 && !extensionEnabled s .Zca)

/-- `fetch`. -/
def fetch : M FetchResult := do
  let pc ← Exec.reads State.pc
  if ← Exec.reads fetchMisaligned then fetchError pc .E_Fetch_Addr_Align else fetchLower pc

/-! ## One step -/

/-- `retire_instruction`, for the result of an instruction. -/
def retireInstruction (r : Retired) : M Unit :=
  Exec.update (fun s =>
    if r = .RETIRE_SUCCESS ∧ s.minstretIncrement = true then
      { s with
        minstret := s.minstret + 1#64 }
    else s)

variable [SoftFloat]

/-- `nextPC = PC + n`. -/
def State.after (s : State) (n : Xlenbits) : State :=
  { s with
    nextPC := s.pc + n }

/-- `instbits = w`. -/
def State.withBits (s : State) (w : Xlenbits) : State :=
  { s with
    instbits := w }

/-- `nextPC = PC + n; (execute(ast), true)`. -/
def executeAt (n : Xlenbits) (ast : Ast) : M (Retired × Bool) := do
  Exec.update (fun s => s.after n)
  let retired ← ast.execute
  pure (retired, true)

/-- The match on the result of `fetch`. -/
def onFetch : FetchResult → M (Retired × Bool)
  | .F_Error e addr => do
      handleMemException addr e
      pure (.RETIRE_FAIL, false)
  | .F_RVC h => do
      Exec.update (fun s => s.withBits (h.setWidth xlen))
      let ast ← Exec.reads (fun s => extDecodeCompressed s h)
      if ← Exec.reads (fun s => extensionEnabled s .Zca) then executeAt 2#_ ast
      else do
        handleIllegal
        pure (.RETIRE_FAIL, true)
  | .F_Base w => do
      Exec.update (fun s => s.withBits (w.setWidth xlen))
      let ast ← Exec.reads (fun s => extDecode s w)
      executeAt 4#_ ast

/-- The match on the result of `dispatchInterrupt`. -/
def onInterrupt : Option (InterruptType × Privilege) → M (Retired × Bool)
  | some (intr, priv) => do
      handleInterrupt intr priv
      pure (.RETIRE_FAIL, false)
  | none => do onFetch (← fetch)

/-- The state in which a step looks for interrupts. -/
def State.begin (s : State) : State :=
  { s with
    minstretIncrement := Counteren.IR.get s.mcountinhibit == 0#1 }

/-- `step`. -/
def step : M Bool := do
  Exec.update State.begin
  let r ← onInterrupt (← Exec.checks (fun s => dispatchInterrupt s s.curPrivilege))
  tickPc
  retireInstruction r.1
  pure r.2

/-- `init_model`. -/
def initModel : M Unit := do
  initPlatform
  initSys
  initTLB

/-! ## Runs -/

/-- What the loop does next. -/
inductive Turn where
  | step | tick
  deriving DecidableEq, Repr

/-- One turn of the loop. -/
def Turns (t : Turn) (s s' : State) : Prop :=
  match t with
  | .step => ∃ stepped, step.run s = .ok (stepped, s')
  | .tick => (do tickClock; tickPlatform : M Unit).run s = .ok ((), s')

/-- `s` is a state in which the machine starts at `entry`. -/
def Boots (entry : Xlenbits) (s : State) : Prop :=
  ∃ mem s₀, (initModel).run (State.zero mem) = .ok ((), s₀)
    ∧ s = { s₀ with
      pc := entry }

/-! ## Inversion of a step -/

/-- The step from `s` executes the instruction `i`, in the state `s₁`. -/
inductive Executes (s : State) : Ast → State → Prop
  | compressed {h : BitVec 16} {s₁ : State}
      (hintr : dispatchInterrupt s.begin s.curPrivilege = .ok none)
      (hfetch : fetch.run s.begin = .ok (.F_RVC h, s₁)) (hc : extensionEnabled s₁ .Zca = true) :
      Executes s (extDecodeCompressed (s₁.withBits (h.setWidth xlen)) h)
        ((s₁.withBits (h.setWidth xlen)).after 2#_)
  | base {w : BitVec 32} {s₁ : State}
      (hintr : dispatchInterrupt s.begin s.curPrivilege = .ok none)
      (hfetch : fetch.run s.begin = .ok (.F_Base w, s₁)) :
      Executes s (extDecode (s₁.withBits (w.setWidth xlen)) w)
        ((s₁.withBits (w.setWidth xlen)).after 4#_)

/-- What a step does before the program counter is updated. -/
inductive Outcome (s : State) : Retired → State → Prop
  | interrupt {i : InterruptType} {p : Privilege} {s₂ : State}
      (hintr : dispatchInterrupt s.begin s.curPrivilege = .ok (some (i, p)))
      (htrap : TrapEntry true (interruptTypeToBits i) none s.begin p s₂) :
      Outcome s .RETIRE_FAIL s₂
  | fetchFault {e : ExceptionType} {addr : Xlenbits} {s₁ s₂ : State}
      (hintr : dispatchInterrupt s.begin s.curPrivilege = .ok none)
      (hfetch : fetch.run s.begin = .ok (.F_Error e addr, s₁))
      (htrap : (handleMemException addr e).run s₁ = .ok ((), s₂)) : Outcome s .RETIRE_FAIL s₂
  | disabled {h : BitVec 16} {s₁ s₂ : State}
      (hintr : dispatchInterrupt s.begin s.curPrivilege = .ok none)
      (hfetch : fetch.run s.begin = .ok (.F_RVC h, s₁))
      (hc : extensionEnabled s₁ .Zca = false)
      (htrap : handleIllegal.run (s₁.withBits (h.setWidth xlen)) = .ok ((), s₂)) :
      Outcome s .RETIRE_FAIL s₂
  | executed {i : Ast} {r : Retired} {s₁ s₂ : State} (hi : Executes s i s₁)
      (hrun : i.execute.run s₁ = .ok (r, s₂)) : Outcome s r s₂

/-- The end of a step: the program counter and the counter of retired instructions. -/
def endStep (r : Retired) (s : State) : State :=
  { s with
    pc := s.nextPC
    minstret := if r = .RETIRE_SUCCESS ∧ s.minstretIncrement = true then s.minstret + 1#64
      else s.minstret }

/-- The instruction runs with the address of the next one in `nextPC`. -/
theorem executeAt_ok {n : Xlenbits} {ast : Ast} {s s' : State} {r : Retired × Bool}
    (h : (executeAt n ast).run s = .ok (r, s')) :
    ast.execute.run (s.after n) = .ok (r.1, s') := by
  unfold executeAt at h
  rw [Exec.run_bind_of_ok (Exec.run_update _ _)] at h
  obtain ⟨r', s₁, hrun, hret⟩ := Exec.run_bind_ok.mp h
  cases hret
  exact hrun

/-- What becomes of the result of a fetch. -/
theorem outcome_of_onFetch {s s₁ s₂ : State} {f : FetchResult} {r : Retired × Bool}
    (hintr : dispatchInterrupt s.begin s.curPrivilege = .ok none)
    (hfetch : fetch.run s.begin = .ok (f, s₁)) (h : (onFetch f).run s₁ = .ok (r, s₂)) :
    Outcome s r.1 s₂ := by
  unfold onFetch at h
  rcases f with w | hw | ⟨e, addr⟩
  · simp only at h
    rw [Exec.run_bind_of_ok (Exec.run_update _ _), Exec.run_bind_of_ok (Exec.run_reads _ _)] at h
    exact .executed (.base hintr hfetch) (executeAt_ok h)
  · simp only at h
    rw [Exec.run_bind_of_ok (Exec.run_update _ _), Exec.run_bind_of_ok (Exec.run_reads _ _),
      Exec.run_bind_of_ok (Exec.run_reads _ _)] at h
    by_cases hc : extensionEnabled s₁ .Zca = true
    · have hc' : extensionEnabled (s₁.withBits (hw.setWidth xlen)) .Zca = true := hc
      rw [if_pos hc'] at h
      exact .executed (.compressed hintr hfetch hc) (executeAt_ok h)
    · have hc' : ¬ extensionEnabled (s₁.withBits (hw.setWidth xlen)) .Zca = true := hc
      rw [if_neg hc'] at h
      obtain ⟨u, s₃, htrap, hret⟩ := Exec.run_bind_ok.mp h
      cases hret
      exact .disabled hintr hfetch (by simpa using hc) htrap
  · obtain ⟨u, s₃, htrap, hret⟩ := Exec.run_bind_ok.mp h
    cases hret
    exact .fetchFault hintr hfetch htrap

/-- **Inversion of a step.** -/
theorem step_cases {s s' : State} {stepped : Bool} (h : step.run s = .ok (stepped, s')) :
    ∃ r s₂, Outcome s r s₂ ∧ s' = endStep r s₂ := by
  unfold step at h
  rw [Exec.run_bind_of_ok (Exec.run_update _ _)] at h
  obtain ⟨intr, s₀, hcheck, hrest⟩ := Exec.run_bind_ok.mp h
  obtain ⟨hintr, rfl⟩ := Exec.run_checks_ok.mp hcheck
  obtain ⟨r, s₂, hr, hend⟩ := Exec.run_bind_ok.mp hrest
  refine ⟨r.1, s₂, ?_, ?_⟩
  · unfold onInterrupt at hr
    rcases intr with _ | ⟨i, p⟩
    · obtain ⟨f, s₁, hfetch, hr⟩ := Exec.run_bind_ok.mp hr
      exact outcome_of_onFetch hintr hfetch hr
    · obtain ⟨u, s₃, htrap, hret⟩ := Exec.run_bind_ok.mp hr
      cases hret
      exact .interrupt hintr (handleInterrupt_cases htrap)
  · unfold tickPc retireInstruction at hend
    rw [Exec.run_bind_of_ok (Exec.run_update _ _), Exec.run_bind_of_ok (Exec.run_update _ _)] at hend
    cases hend
    unfold endStep
    split_ifs <;> rfl

/-! ## Construction of a step -/

/-- The instruction that is executed is what becomes of the fetch. -/
theorem run_onFetch_of_executes {i : Ast} {r : Retired} {s s₁ s₂ : State} (hi : Executes s i s₁)
    (hrun : i.execute.run s₁ = .ok (r, s₂)) :
    ∃ f s₀, dispatchInterrupt s.begin s.curPrivilege = .ok none
      ∧ fetch.run s.begin = .ok (f, s₀) ∧ (onFetch f).run s₀ = .ok ((r, true), s₂) := by
  rcases hi with @⟨h, s₀, hintr, hfetch, hc⟩ | @⟨w, s₀, hintr, hfetch⟩
  · refine ⟨_, s₀, hintr, hfetch, ?_⟩
    have hc' : extensionEnabled (s₀.withBits (h.setWidth xlen)) .Zca = true := hc
    simp only [onFetch]
    rw [Exec.run_bind_of_ok (Exec.run_update _ _), Exec.run_bind_of_ok (Exec.run_reads _ _),
      Exec.run_bind_of_ok (Exec.run_reads _ _), if_pos hc']
    unfold executeAt
    rw [Exec.run_bind_of_ok (Exec.run_update _ _), Exec.run_bind_of_ok hrun]
    rfl
  · refine ⟨_, s₀, hintr, hfetch, ?_⟩
    simp only [onFetch]
    rw [Exec.run_bind_of_ok (Exec.run_update _ _), Exec.run_bind_of_ok (Exec.run_reads _ _)]
    unfold executeAt
    rw [Exec.run_bind_of_ok (Exec.run_update _ _), Exec.run_bind_of_ok hrun]
    rfl

/-- **Construction of a step.**  What the instruction does is what the step does. -/
theorem turns_of_executes {i : Ast} {r : Retired} {s s₁ s₂ : State} (hi : Executes s i s₁)
    (hrun : i.execute.run s₁ = .ok (r, s₂)) : Turns .step s (endStep r s₂) := by
  obtain ⟨f, s₀, hintr, hfetch, hon⟩ := run_onFetch_of_executes hi hrun
  have hcheck : (Exec.checks (fun s : State => dispatchInterrupt s s.curPrivilege)).run s.begin
      = .ok (none, s.begin) := Exec.run_checks_ok.mpr ⟨hintr, rfl⟩
  have hstep : (onInterrupt none).run s.begin = .ok ((r, true), s₂) :=
    (Exec.run_bind_of_ok hfetch).trans hon
  refine ⟨true, ?_⟩
  unfold step
  rw [Exec.run_bind_of_ok (Exec.run_update _ _), Exec.run_bind_of_ok hcheck,
    Exec.run_bind_of_ok hstep]
  unfold tickPc retireInstruction
  rw [Exec.run_bind_of_ok (Exec.run_update _ _), Exec.run_bind_of_ok (Exec.run_update _ _)]
  unfold endStep
  split_ifs <;> rfl

/-- The start of the machine at `entry` and its first `n` steps. -/
def runSteps (entry : Xlenbits) : ℕ → M Unit
  | 0 => do
      initModel
      Exec.update (fun s => { s with pc := entry })
  | n + 1 => do
      runSteps entry n
      let _ ← step
      pure ()

/-- What the steps reach is reached by a run. -/
theorem exists_trace_of_runSteps {mem : ℕ → BitVec 8} {entry : Xlenbits} :
    ∀ {n : ℕ} {s : State}, (runSteps entry n).run (State.zero mem) = .ok ((), s) →
      ∃ s₀ path, Boots entry s₀ ∧ Trace Turns s₀ path s ∧ path.length = n
  | 0, s, h => by
      obtain ⟨⟨⟩, s₀, hinit, hset⟩ := Exec.run_bind_ok.mp h
      cases hset
      exact ⟨_, [], ⟨mem, s₀, hinit, rfl⟩, .nil, rfl⟩
  | n + 1, s, h => by
      obtain ⟨⟨⟩, s₁, hrun, hrest⟩ := Exec.run_bind_ok.mp h
      obtain ⟨b, s₂, hstep, hret⟩ := Exec.run_bind_ok.mp hrest
      cases hret
      obtain ⟨s₀, path, hboot, htrace, rfl⟩ := exists_trace_of_runSteps hrun
      exact ⟨s₀, _, hboot, htrace.cons (show Turns .step s₁ s from ⟨b, hstep⟩), rfl⟩

/-- The step from `s` executes the word `w` as the instruction `i`, from a state that passes the
test. -/
def State.executes (s : State) (w : BitVec 32) (i : Ast) (test : State → Bool) : Bool :=
  (Exec.checks (fun t : State => dispatchInterrupt t t.curPrivilege)).passes s.begin
      (fun intr _ => intr.isNone)
    && fetch.passes s.begin (fun f s₁ =>
      f.base == some w && extDecode (s₁.withBits (w.setWidth xlen)) w == i
        && test ((s₁.withBits (w.setWidth xlen)).after 4#_))

omit [SoftFloat] in
/-- What the test says. -/
theorem exists_executes {s : State} {w : BitVec 32} {i : Ast} {test : State → Bool}
    (h : s.executes w i test = true) : ∃ s₁, Executes s i s₁ ∧ test s₁ = true := by
  unfold State.executes at h
  obtain ⟨hcheck, hfetches⟩ := Bool.and_eq_true_iff.mp h
  obtain ⟨intr, s₀, hcheck, hnone⟩ := Exec.passes_iff.mp hcheck
  obtain ⟨hintr, -⟩ := Exec.run_checks_ok.mp hcheck
  rw [Option.isNone_iff_eq_none.mp hnone] at hintr
  obtain ⟨f, s₁, hfetch, htest⟩ := Exec.passes_iff.mp hfetches
  simp only [Bool.and_eq_true, beq_iff_eq] at htest
  obtain ⟨⟨hbase, hdec⟩, htest⟩ := htest
  rw [FetchResult.base_eq_some.mp hbase] at hfetch
  exact ⟨_, hdec ▸ Executes.base hintr hfetch, htest⟩

end SailRiscv
