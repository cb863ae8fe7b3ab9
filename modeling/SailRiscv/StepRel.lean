/-
# Relations that every instruction respects

`InstRel R` says that `R` allows for what instructions do to the registers, the memory and the
devices, apart from the cycle counter, the reservation, the calls of the cache simulator, the
returns from traps and the CSRs.  Every instruction then does an `R`-step, if `R` allows for
what this instruction does to these (`Ast.keeps_of`).  With what the loop does before it executes
an instruction (`StepRel R`) every step of the loop does one too (`Outcome.rel_of`).
-/
import SailRiscv.PmpRegs
import SailRiscv.Step
import SailRiscv.VextFpSteps

namespace SailRiscv

open Bits Platform

variable [Platform]

/-! ## The relations -/

/-- The relation allows for what instructions do, apart from a few. -/
class InstRel (R : State → State → Prop) : Prop extends CoreRel R where
  trap : ∀ {intr c info s p s'}, TrapEntry intr c info s p s' → R s s'
  vec : ∀ s p, R s (State.withVec s p)
  dirtyV : ∀ s, R s s.dirtyV
  fp : ∀ s f fcsr, R s (State.withFp s f fcsr)
  dirtyFd : sysEnableFdext = true → ∀ s, R s s.dirtyFd

/-- The relation allows for what the loop does before an instruction, too. -/
class StepRel (R : State → State → Prop) : Prop extends InstRel R where
  after : ∀ s n, R s (s.after n)
  bits : ∀ s w, R s (s.withBits w)

/-- The state after `MRET` to the privilege `prev`, continuing at `n`. -/
def State.mret (s : State) (prev : Privilege) (n : Xlenbits) : State :=
  { s with
    mstatus := mstatusMret s.mstatus prev (lowestSupportedPrivLevel s)
    curPrivilege := prev
    nextPC := n }

/-- The state after `SRET`, continuing at `n`. -/
def State.sret (s : State) (n : Xlenbits) : State :=
  { s with
    mstatus := mstatusSret s.mstatus (sretPrivilege s.mstatus)
    curPrivilege := sretPrivilege s.mstatus
    nextPC := n }

/-- The relation allows for returns from traps. -/
class RetClosed (R : State → State → Prop) : Prop where
  mret : ∀ s prev n, R s (s.mret prev n)
  sret : ∀ s n, R s (s.sret n)

instance keeps_mret {R : State → State → Prop} [h : RetClosed R] :
    Exec.Keeps R (xret .CTL_MRET) where
  rel {s r s'} hr := by
    unfold xret exceptionHandler at hr
    rw [Exec.run_bind_of_ok (Exec.run_reads _ _), Exec.run_bind_of_ok (Exec.run_reads _ _)] at hr
    obtain ⟨target, s₁, hexc, hset⟩ := Exec.run_bind_ok.mp hr
    obtain ⟨prev, s₂, hprev, hupd⟩ := Exec.run_bind_ok.mp hexc
    obtain ⟨-, rfl⟩ := Exec.run_checks_ok.mp hprev
    cases hupd
    cases hset
    exact h.mret s₂ prev _

instance keeps_sret {R : State → State → Prop} [h : RetClosed R] :
    Exec.Keeps R (xret .CTL_SRET) where
  rel {s r s'} hr := by
    unfold xret exceptionHandler at hr
    rw [Exec.run_bind_of_ok (Exec.run_reads _ _), Exec.run_bind_of_ok (Exec.run_reads _ _)] at hr
    obtain ⟨target, s₁, hexc, hset⟩ := Exec.run_bind_ok.mp hr
    cases hexc
    cases hset
    exact h.sret s _

/-- Returns from traps do steps of the relation. -/
class RetKeeps (R : State → State → Prop) : Prop where
  mret : Exec.Keeps R (xret .CTL_MRET)
  sret : Exec.Keeps R (xret .CTL_SRET)

instance {R : State → State → Prop} [RetClosed R] : RetKeeps R := ⟨keeps_mret, keeps_sret⟩

section

variable {R : State → State → Prop} [InstRel R]

/-- An exception is a step of the relation. -/
theorem SyncTrap.rel {s s' : State} (h : SyncTrap s s') : R s s' := by
  obtain ⟨e, h⟩ := h
  exact InstRel.trap (handleSync_cases h)

instance keeps_step_handleSync (e : SyncException) : Exec.Keeps R (handleSync e) where
  rel h := InstRel.trap (handleSync_cases h)

instance keeps_step_handleIllegal : Exec.Keeps R handleIllegal where
  rel h := by
    obtain ⟨info, h⟩ := handleIllegal_cases h
    exact InstRel.trap (handleSync_cases h)

/-! ## The view -/

/-- The view that asks for steps of the relation only. -/
def stepView (R : State → State → Prop) : View := ⟨R, False, False⟩

instance : InstRel (stepView R).rel := ‹InstRel R›

instance : CoreClosed (stepView R) where
  toCoreRel := InstRel.toCoreRel

instance : TrapClosed (stepView R) := ⟨SyncTrap.rel⟩

instance : VecClosed (stepView R) where
  vec := InstRel.vec
  dirty := InstRel.dirtyV

instance : FpClosed (stepView R) where
  sees := not_false
  fp := InstRel.fp
  dirty := InstRel.dirtyFd

omit [Platform] in
instance (P : Prop) : Ready (stepView R) P := ⟨False.elim⟩

omit [InstRel R] in
/-- What the view asks for are steps of the relation. -/
theorem keeps_of_stepView {α : Type} {m : M α} (h : FpFree (stepView R) m) : Exec.Keeps R m :=
  h.keeps

/-! ## Instructions -/

omit [InstRel R] in
/-- The instructions that call the cache simulator. -/
def Ast.Traced : Ast → Prop
  | .BASE i => i.Traced
  | .ZCA i => i.Traced
  | .ZCB i => i.Traced
  | _ => False

/-- The instructions that change the reservation. -/
def Ast.Reserves : Ast → Prop
  | .ATOMIC (.LOADRES ..) => True
  | .ATOMIC (.STORECON ..) => True
  | _ => False

/-- The offsets of jumps are even, as the decoder makes them. -/
def Ast.EvenOffset : Ast → Prop
  | .BASE i => i.EvenOffset
  | _ => True

omit [InstRel R] in
/-- What the decoder makes has even offsets. -/
theorem evenOffset_extDecode (s : State) (w : BitVec 32) : (extDecode s w).EvenOffset := by
  unfold extDecode
  cases hd : decodeLegal s w with
  | none => exact trivial
  | some i =>
      unfold decodeLegal at hd
      refine firstClause_some ?_ hd
      simp only [List.mem_cons, forall_eq_or_imp, Option.map_eq_some_iff, List.not_mem_nil,
        false_imp_iff, implies_true, and_true]
      refine ⟨?_, ?_⟩
      · rintro _ ⟨i, hi, rfl⟩
        exact BaseInst.evenOffset_of_decode hi
      · and_intros <;> rintro _ ⟨i, -, rfl⟩ <;> trivial

omit [InstRel R] in
/-- Instructions of 16 bits are not base instructions. -/
theorem evenOffset_extDecodeCompressed (s : State) (h : BitVec 16) :
    (extDecodeCompressed s h).EvenOffset := by
  unfold extDecodeCompressed
  cases hd : decodeLegalCompressed s h with
  | none => exact trivial
  | some i =>
      unfold decodeLegalCompressed at hd
      refine firstClause_some ?_ hd
      simp only [List.mem_cons, forall_eq_or_imp, Option.map_eq_some_iff, List.not_mem_nil,
        false_imp_iff, implies_true, and_true]
      and_intros <;> rintro _ ⟨i, -, rfl⟩ <;> trivial

omit [InstRel R] in
/-- The instructions that a step executes have even offsets. -/
theorem Executes.evenOffset [SoftFloat] {s s₁ : State} {i : Ast} (h : Executes s i s₁) :
    i.EvenOffset := by
  rcases h with _ | _
  · exact evenOffset_extDecodeCompressed _ _
  · exact evenOffset_extDecode _ _

/-- **Instructions do steps of the relation**, the exceptions being left to the caller. -/
theorem Ast.keeps_of [SoftFloat] {i : Ast} (ht : i.Traced → TraceClosed R)
    (hr : i.Reserves → ReservationClosed R) (heven : i.EvenOffset)
    (hw : i = .BASE .WFI → ClockClosed R)
    (hx : i = .BASE .MRET ∨ i = .BASE .SRET → RetKeeps R)
    (hcsr : ∀ z, i = .CSR z → Exec.Keeps R z.execute) : Exec.Keeps R i.execute := by
  rcases i with i | i | i | i | i | i | i | i | i | i | i | i | i | i | i | i | i | i | i | i | i
    | i | i | i | i | i | i | i | i | i | i | i
  case BASE =>
    change Exec.Keeps R i.execute
    have hill : Exec.Keeps R illegal := keeps_of_stepView inferInstance
    by_cases hm : i = .MRET
    · have := (hx (Or.inl (congrArg Ast.BASE hm))).mret
      rw [hm]
      change Exec.Keeps R (do
        if (← Exec.reads State.curPrivilege) ≠ .Machine then illegal
        else xret .CTL_MRET : M Retired)
      infer_instance
    · by_cases hs : i = .SRET
      · have := (hx (Or.inr (congrArg Ast.BASE hs))).sret
        rw [hs]
        change Exec.Keeps R (do
          if (← Exec.reads sretIllegal) then illegal else xret .CTL_SRET : M Retired)
        infer_instance
      · exact keeps_of_stepView (BaseInst.fpFree ht hm hs
          (fun h => hw (congrArg Ast.BASE h)) heven)
  case ZCA => exact keeps_of_stepView (ZcaInst.fpFree (i := i) ht)
  case ZCB => exact keeps_of_stepView (ZcbInst.fpFree (i := i) ht)
  case FP => exact keeps_of_stepView (FpInst.fpFree (i := i) False.elim)
  case ZCF => exact keeps_of_stepView (ZcfInst.fpFree i False.elim)
  case ZFA => exact keeps_of_stepView (ZfaInst.fpFree (i := i) False.elim False.elim)
  case VEXT_FP => exact keeps_of_stepView (VextFpInst.fpFree (i := i) False.elim)
  case CSR => exact hcsr i rfl
  case ATOMIC =>
    rcases i with ⟨aq, rl, rs1, width, rd⟩ | ⟨aq, rl, rs2, rs1, width, rd⟩ | _
    · have : ReservationClosed (stepView R).rel := hr trivial
      change Exec.Keeps R (AtomicInst.LOADRES aq rl rs1 width rd).execute
      exact keeps_of_stepView (AtomicInst.fpFree _)
    · have : ReservationClosed (stepView R).rel := hr trivial
      change Exec.Keeps R (AtomicInst.STORECON aq rl rs2 rs1 width rd).execute
      exact keeps_of_stepView (AtomicInst.fpFree _)
    · change Exec.Keeps R (executeAmo _ _ _ _ _ _ _)
      exact keeps_of_stepView inferInstance
  case ILLEGAL =>
    change Exec.Keeps R illegal
    exact keeps_of_stepView inferInstance
  case C_ILLEGAL =>
    change Exec.Keeps R illegal
    exact keeps_of_stepView inferInstance
  all_goals
    change Exec.Keeps R i.execute
    exact keeps_of_stepView inferInstance

omit [InstRel R] in
/-- Reads of CSRs change the entropy source only. -/
theorem keeps_readCSR_of [Std.Refl R] [IsTrans State R]
    (hent : ∀ s, R s { s with entropy := fun n => s.entropy (n + 1) }) (csr : BitVec 12) :
    Exec.Keeps R (readCSR csr) := by
  have := Exec.keeps_update (R := R) (ε := ModelError) (f := fun s => { s with
    entropy := fun n => s.entropy (n + 1) }) hent
  unfold readCSR readSeedCsr
  repeat' first
    | infer_instance
    | refine @Exec.keeps_ite _ _ _ _ _ _ _ _ ?_ ?_

/-- An access to a CSR is a read, a write and the write of an integer register. -/
theorem keeps_zicsr {i : ZicsrInst} (hread : Exec.Keeps R (readCSR i.csr))
    (hwrite : ∀ v, Exec.Keeps R (writeCSR i.csr v)) : Exec.Keeps R i.execute := by
  have hthen (isWrite : Bool) (csrVal rs1Val : Xlenbits) : Exec.Keeps R (do
      if isWrite then
        let _ ← writeCSR i.csr (i.newVal csrVal rs1Val)
      wX i.rd csrVal
      pure .RETIRE_SUCCESS : M Retired) := by
    dsimp only
    infer_instance
  unfold ZicsrInst.execute
  infer_instance

end

/-! ## Turns of the loop -/

/-- A fetch translates its addresses and calls the cache simulator. -/
instance keeps_step_fetch {R : State → State → Prop} [TlbClosed R] [TraceClosed R] :
    Exec.Keeps R fetch := by
  have (a : Xlenbits) : Exec.Keeps R (icRead a) :=
    Exec.keeps_update (fun s => TraceClosed.trace s _)
  have (a : Xlenbits) (e : ExceptionType) : Exec.Keeps R (fetchError a e) := by
    unfold fetchError
    infer_instance
  have (pc : Xlenbits) (ilo : BitVec 16) : Exec.Keeps R (fetchUpper pc ilo) := by
    unfold fetchUpper
    dsimp only
    infer_instance
  have hlo (pc : Xlenbits) (r : MemoryOpResult (BitVec (8 * 2))) : Exec.Keeps R
      (onMemValue (fetchError pc) r fun ilo =>
        if isRVC ilo then pure (.F_RVC ilo) else fetchUpper pc ilo) := by
    infer_instance
  have (pc : Xlenbits) : Exec.Keeps R (fetchLower pc) := by
    unfold fetchLower
    refine @Exec.keeps_bind _ _ _ _ _ _ _ _ inferInstance (fun _ => ?_)
    infer_instance
  unfold fetch
  infer_instance

section

variable {R : State → State → Prop} [StepRel R]

/-- What precedes the execution of an instruction. -/
theorem Executes.rel_of [SoftFloat] [TraceClosed R] {s s₁ : State} {i : Ast}
    (h : Executes s i s₁) : R s.begin s₁ := by
  rcases h with @⟨w, s₁, -, hfetch, -⟩ | @⟨w, s₁, -, hfetch⟩
  · exact IsTrans.trans _ _ _ (keeps_step_fetch.rel hfetch)
      (IsTrans.trans _ _ _ (StepRel.bits _ _) (StepRel.after _ _))
  · exact IsTrans.trans _ _ _ (keeps_step_fetch.rel hfetch)
      (IsTrans.trans _ _ _ (StepRel.bits _ _) (StepRel.after _ _))

/-- A step does a step of the relation, if the instruction that it executes does. -/
theorem Outcome.rel_of [SoftFloat] [TraceClosed R] {s s' : State} {r : Retired}
    (h : Outcome s r s')
    (hexec : ∀ {i s₁}, Executes s i s₁ → i.execute.run s₁ = .ok (r, s') → R s₁ s') :
    R s.begin s' := by
  rcases h with @⟨_, _, _, _, htrap⟩ | @⟨_, _, _, _, _, hfetch, htrap⟩
    | @⟨_, s₁, _, _, hfetch, _, htrap⟩ | @⟨_, _, _, _, hi, hrun⟩
  · exact InstRel.trap htrap
  · exact IsTrans.trans _ _ _ (keeps_step_fetch.rel hfetch) ((keeps_step_handleSync _).rel htrap)
  · exact IsTrans.trans _ _ _ (keeps_step_fetch.rel hfetch)
      (IsTrans.trans _ _ _ (StepRel.bits _ _) (keeps_step_handleIllegal.rel htrap))
  · exact IsTrans.trans _ _ _ hi.rel_of (hexec hi hrun)

/-- A tick of the clock does a step of the relation. -/
theorem Turns.rel_of_tick [SoftFloat] [ClockClosed R] {s s' : State} (h : Turns .tick s s') :
    R s s' := by
  have : Exec.Keeps R tickPlatform := keeps_devices (fun _ => rfl)
  have hkeeps : Exec.Keeps R (do tickClock; tickPlatform : M Unit) := inferInstance
  exact hkeeps.rel h

/-- **Turns of the loop do steps of the relation**, if the instructions for the CSRs do. -/
theorem Turns.rel_of [SoftFloat] [TraceClosed R] [ReservationClosed R] [ClockClosed R]
    [RetKeeps R] {t : Turn} {s s' : State} (h : Turns t s s') (hbegin : ∀ s, R s s.begin)
    (hend : ∀ r s, R s (endStep r s)) (hcsr : ∀ z : ZicsrInst, Exec.Keeps R z.execute) :
    R s s' := by
  cases t with
  | tick => exact h.rel_of_tick
  | step =>
      obtain ⟨stepped, hstep⟩ := h
      obtain ⟨r, s₂, hout, rfl⟩ := step_cases hstep
      refine IsTrans.trans _ _ _ (hbegin s) (IsTrans.trans _ _ _ ?_ (hend r s₂))
      refine hout.rel_of (fun {i s₁} hi hrun => ?_)
      have hkeeps : Exec.Keeps R i.execute :=
        Ast.keeps_of (fun _ => inferInstance) (fun _ => inferInstance) hi.evenOffset
          (fun _ => inferInstance) (fun _ => inferInstance) (fun z _ => hcsr z)
      exact hkeeps.rel hrun

end

/-! ## Actions -/

/-- The instructions that write privileged registers: the returns from traps and the accesses to
CSRs. -/
def Ast.IsSystem (i : Ast) : Prop := i = .BASE .MRET ∨ i = .BASE .SRET ∨ ∃ z, i = .CSR z

section

variable [SoftFloat]

/-- The actions of which the turns of the loop are made. -/
inductive Action (s : State) : State → Prop
  | devices (d : DeviceRegs) : Action s (s.withDevices d)
  | store {a : Xlenbits} {n : ℕ} (v : BitVec (8 * n)) (h : StoreAllowed s a n) :
      Action s { s with mem := Bytes.write s.mem a.toNat n v }
  | tlb {t : Fin 64 → Option TLBEntry} (h : TlbLegal s.tlb → TlbLegal t) :
      Action s { s with tlb := t }
  | x (v : Fin 32 → Xlenbits) : Action s { s with x := v }
  | jump {n : Xlenbits} (h : JumpTarget s n) : Action s { s with nextPC := n }
  | trap {intr : Bool} {c : BitVec 8} {info : Option Xlenbits} {p : Privilege} {s' : State}
      (h : TrapEntry intr c info s p s') : Action s s'
  | vec (p : VecRegs) : Action s (State.withVec s p)
  | dirtyV : Action s s.dirtyV
  | fp (f : Fin 32 → BitVec flen) (fcsr : BitVec 32) : Action s (State.withFp s f fcsr)
  | dirtyFd : Action s s.dirtyFd
  | reservation (pa : Xlenbits) (valid : Bool) :
      Action s { s with reservation := pa, reservationValid := valid }
  | trace (t : List CacheEvent) : Action s { s with cacheTrace := t }
  | clock (c : BitVec 64) : Action s { s with mcycle := c }
  | begin : Action s s.begin
  | bits (w : Xlenbits) : Action s (s.withBits w)
  | after (n : Xlenbits) : Action s (s.after n)
  | endStep (r : Retired) : Action s (endStep r s)
  | system {i : Ast} {r : Retired} {s' : State} (hi : i.IsSystem)
      (hrun : i.execute.run s = .ok (r, s')) : Action s s'

/-- Actions one after the other. -/
abbrev Actions : State → State → Prop := Relation.ReflTransGen Action

instance : StepRel Actions where
  devices _ d := .single (.devices d)
  store _ _ _ v h := .single (.store v h)
  tlb _ _ h := .single (.tlb h)
  x _ v := .single (.x v)
  jump _ _ h := .single (.jump h)
  trap h := .single (.trap h)
  vec _ p := .single (.vec p)
  dirtyV _ := .single .dirtyV
  fp _ f fcsr := .single (.fp f fcsr)
  dirtyFd _ _ := .single .dirtyFd
  after _ n := .single (.after n)
  bits _ w := .single (.bits w)

instance : TraceClosed Actions := ⟨fun _ t => .single (.trace t)⟩

instance : ReservationClosed Actions := ⟨fun _ pa valid => .single (.reservation pa valid)⟩

instance : ClockClosed Actions := ⟨fun _ c => .single (.clock c)⟩

/-- What precedes the execution of an instruction is made of actions. -/
theorem Executes.actions {i : Ast} {s s₁ : State} (h : Executes s i s₁) : Actions s s₁ :=
  .head .begin h.rel_of

/-- Instructions are made of actions. -/
theorem Ast.actions {i : Ast} {r : Retired} {s s' : State} (heven : i.EvenOffset)
    (hrun : i.execute.run s = .ok (r, s')) : Actions s s' := by
  by_cases hsys : i.IsSystem
  · exact .single (.system hsys hrun)
  · have hkeeps : Exec.Keeps Actions i.execute := by
      refine Ast.keeps_of (fun _ => inferInstance) (fun _ => inferInstance) heven
        (fun _ => inferInstance) (fun hret => absurd ?_ hsys) (fun z hz => absurd ?_ hsys)
      · exact hret.imp id Or.inl
      · exact Or.inr (Or.inr ⟨z, hz⟩)
    exact hkeeps.rel hrun

/-- **Turns of the loop are made of actions.** -/
theorem Turns.actions {t : Turn} {s s' : State} (h : Turns t s s') : Actions s s' := by
  cases t with
  | tick => exact h.rel_of_tick
  | step =>
      obtain ⟨stepped, hstep⟩ := h
      obtain ⟨r, s₂, hout, rfl⟩ := step_cases hstep
      have hturn : Actions s.begin s₂ :=
        hout.rel_of (fun hi hrun => Ast.actions hi.evenOffset hrun)
      exact .head .begin (hturn.tail (.endStep r))

end

end SailRiscv
