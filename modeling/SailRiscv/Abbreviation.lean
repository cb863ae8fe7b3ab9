/-
# Steps of compressed instructions

A step that fetches a compressed instruction of Zca or Zcb does what a step that fetches its
expansion does.  The states after them differ in `instbits`, in the program counter where it is that
of the following instruction, and in the link of `c.jal` and `c.jalr`.
-/
import SailRiscv.Aside
import SailRiscv.Expansion
import SailRiscv.Step

namespace SailRiscv

open Bits Platform

variable [Platform]

/-! ## States that differ in the length of the instruction -/

/-- What the states after an instruction at `pc` have in common: `u` is reached with the word `b`
of two bytes, and `t` with the word `c` of four bytes. -/
structure Differs (links : Prop) (pc b c : Xlenbits) (u t : State) : Prop where
  instbits : u.instbits = b ∧ t.instbits = c
  nextPC : t.nextPC = u.nextPC ∨ u.nextPC = pc + 2#_ ∧ t.nextPC = pc + 4#_
  link : t.x = u.x ∨ links ∧ u.X ra = pc + 2#_ ∧ t.x = Function.update u.x ra.toFin (pc + 4#_)
  rest : t = { u with
    nextPC := t.nextPC
    instbits := t.instbits
    x := t.x }

/-- The registers of `Aside` before the instructions. -/
structure Starts (pc b c : Xlenbits) (z a : Aside) : Prop where
  instbits : z.instbits = b ∧ a.instbits = c
  nextPC : z.nextPC = pc + 2#_ ∧ a.nextPC = pc + 4#_
  vtype : a.vtype = z.vtype
  vl : a.vl = z.vl

section

variable {links : Prop} {pc b c : Xlenbits} {z a : Aside}

/-- Both go on to the following instruction. -/
theorem Starts.sequential (h : Starts pc b c z a) {u : State} (hu : u.aside = z) :
    Differs links pc b c u (u.withAside a) := by
  subst hu
  refine ⟨h.instbits, Or.inr h.nextPC, Or.inl rfl, ?_⟩
  unfold State.withAside
  rw [h.vtype, h.vl]
  rfl

/-- Both go on to the same instruction. -/
theorem Starts.jumped (h : Starts pc b c z a) {u : State} {n : Xlenbits}
    (hu : u.aside = { z with nextPC := n }) :
    Differs links pc b c u (u.withAside { a with nextPC := n }) := by
  have hn : n = u.nextPC := congrArg Aside.nextPC hu.symm
  have hvtype : a.vtype = u.vtype := h.vtype.trans (congrArg Aside.vtype hu.symm)
  have hvl : a.vl = u.vl := h.vl.trans (congrArg Aside.vl hu.symm)
  have hword : u.instbits = b := (congrArg Aside.instbits hu).trans h.instbits.1
  refine ⟨⟨hword, h.instbits.2⟩, Or.inl hn, Or.inl rfl, ?_⟩
  unfold State.withAside
  rw [hvtype, hvl]

/-! ## Instructions side by side -/

/-- The runs of `m` behind the compressed instruction and behind its expansion end with the
same result and with states that differ as above. -/
def Twin (links : Prop) (pc b c : Xlenbits) (z a : Aside) (m : M Retired) : Prop :=
  ∀ s : State, s.aside = z →
    Exec.Alike (fun r u r' t => r = r' ∧ Differs links pc b c u t) m s m (s.withAside a)

theorem twin_of_unaware (h : Starts pc b c z a) {m : M Retired} (hm : Unaware m) :
    Twin links pc b c z a m := by
  intro s hs
  refine (hm.alike s a).mono ?_
  rintro r u _ _ ⟨rfl, hu, rfl⟩
  exact ⟨rfl, h.sequential (hu.trans hs)⟩

theorem twin_bind {α : Type} {m : M α} {k : α → M Retired} (hm : Unaware m)
    (hk : ∀ x, Twin links pc b c z a (k x)) : Twin links pc b c z a (m >>= k) := by
  intro s hs
  refine Exec.alike_bind (hm.alike s a) ?_
  rintro x t _ _ - - ⟨rfl, ht, rfl⟩
  exact hk x t (ht.trans hs)

theorem twin_ite {p : Prop} [Decidable p] {m n : M Retired} (hm : Twin links pc b c z a m)
    (hn : Twin links pc b c z a n) : Twin links pc b c z a (if p then m else n) := by
  split_ifs
  · exact hm
  · exact hn

/-- An exception ends both instructions in the same way. -/
theorem twin_memFault (h : Starts pc b c z a) (v : Xlenbits) (e : ExceptionType) :
    Twin links pc b c z a (memFault v e) := by
  intro s hs
  unfold memFault handleMemException
  refine Exec.alike_bind (alike_handleSync _ s a) ?_
  rintro - t - - - - ⟨ht, rfl⟩
  rw [hs] at ht
  exact Exec.alike_pure ⟨rfl, h.jumped ht⟩

theorem twin_onAddress (h : Starts pc b c z a) {v : Xlenbits}
    {r : TRResult Xlenbits ExceptionType} {k : Xlenbits → M Retired}
    (hk : ∀ pa, Twin links pc b c z a (k pa)) :
    Twin links pc b c z a (onAddress (memFault v) r k) := by
  cases r with
  | TR_Address pa => exact hk pa
  | TR_Failure e => exact twin_memFault h v e

theorem twin_onMemValue (h : Starts pc b c z a) {α : Type} {v : Xlenbits} {r : MemoryOpResult α}
    {k : α → M Retired} (hk : ∀ x, Twin links pc b c z a (k x)) :
    Twin links pc b c z a (onMemValue (memFault v) r k) := by
  cases r with
  | MemValue x => exact hk x
  | MemException e => exact twin_memFault h v e

/-- A jump to the same target, with the address of the following instruction as a link. -/
theorem twin_linkTo (h : Starts pc b c z a) {rd : Regidx} (hrd : rd = zreg ∨ links ∧ rd = ra)
    (target : Xlenbits) : Twin links pc b c z a (linkTo rd target) := by
  intro s hs
  subst hs
  have hnext : s.nextPC = pc + 2#_ := h.nextPC.1
  rcases hrd with rfl | ⟨hl, rfl⟩
  · exact Or.inr ⟨_, _, _, _, rfl, rfl, rfl, h.jumped (u := { s with nextPC := target }) rfl⟩
  · have hrun (t : State) : (linkTo ra target).run t = .ok (.RETIRE_SUCCESS, { t with
        x := Function.update t.x ra.toFin t.nextPC
        nextPC := target }) := by
      have hset : t.setX ra t.nextPC = { t with
          x := Function.update t.x ra.toFin t.nextPC } := if_neg (by decide)
      change Except.ok (_, { t.setX ra t.nextPC with nextPC := target }) = _
      rw [hset]
    refine Or.inr ⟨_, _, _, _, hrun s, hrun (s.withAside a), rfl, h.instbits, Or.inl rfl,
      Or.inr ⟨hl, ?_, ?_⟩, ?_⟩
    · have hself : Function.update s.x ra.toFin s.nextPC ra.toFin = s.nextPC :=
        Function.update_self ..
      unfold State.X
      rw [if_neg (by decide)]
      exact hself.trans hnext
    · rw [Function.update_idem, ← h.nextPC.2]
      rfl
    · unfold State.withAside
      rw [h.vtype, h.vl]
      rfl

theorem twin_checkTarget (h : Starts pc b c z a) (target : Xlenbits) {k : M Retired}
    (hk : Twin links pc b c z a k) : Twin links pc b c z a (checkTarget target k) := by
  unfold checkTarget
  exact twin_bind (unaware_reads (fun _ _ => rfl)) (fun _ => twin_ite (twin_memFault h _ _) hk)

/-- A branch to the same target. -/
theorem twin_setNextPc (h : Starts pc b c z a) (target : Xlenbits) :
    Twin links pc b c z a (do setNextPc target; pure .RETIRE_SUCCESS) := by
  intro s hs
  subst hs
  exact Or.inr ⟨_, _, _, _, rfl, rfl, rfl, h.jumped (u := { s with nextPC := target }) rfl⟩

theorem twin_executeLoad (h : Starts pc b c z a) (imm : BitVec 12) (rs1 rd : Regidx)
    (isUnsigned : Bool) (width : WordWidth) (aq rl : Bool) :
    Twin links pc b c z a (executeLoad imm rs1 rd isUnsigned width aq rl) := by
  unfold executeLoad
  refine twin_bind inferInstance (fun _ => twin_bind inferInstance (fun v => ?_))
  refine twin_ite (twin_memFault h _ _) (twin_bind inferInstance (fun r => ?_))
  refine twin_onAddress h (fun pa => twin_bind inferInstance (fun r => ?_))
  exact twin_onMemValue h (fun x => twin_of_unaware h inferInstance)

theorem twin_executeStore (h : Starts pc b c z a) (imm : BitVec 12) (rs2 rs1 : Regidx)
    (width : WordWidth) (aq rl : Bool) :
    Twin links pc b c z a (executeStore imm rs2 rs1 width aq rl) := by
  unfold executeStore
  refine twin_bind inferInstance (fun _ => twin_bind inferInstance (fun v => ?_))
  refine twin_ite (twin_memFault h _ _) (twin_bind inferInstance (fun r => ?_))
  refine twin_onAddress h (fun pa => twin_bind inferInstance (fun _ => ?_))
  refine twin_bind inferInstance (fun r => twin_onMemValue h (fun _ => ?_))
  refine twin_bind inferInstance (fun v => twin_bind inferInstance (fun r => ?_))
  exact twin_onMemValue h (fun stored => twin_of_unaware h inferInstance)

theorem twin_itype (h : Starts pc b c z a) (imm : BitVec 12) (rs1 rd : Regidx) (op : Iop) :
    Twin links pc b c z a (BaseInst.ITYPE imm rs1 rd op).execute :=
  twin_bind inferInstance (fun _ => twin_of_unaware h inferInstance)

end

/-! ## Expansions -/

/-- The instructions that link. -/
def Ast.Links : Ast → Prop
  | .ZCA (.C_JAL _) | .ZCA (.C_JALR _) => True
  | _ => False

section

variable {pc b c : Xlenbits} {z a : Aside}

/-- The expansion of an instruction of Zca behind it and in its place. -/
theorem ZcaInst.twin (h : Starts pc b c z a) (i : ZcaInst) :
    Twin (Ast.Links (.ZCA i)) pc b c z a i.expansion.execute := by
  have hretire (rd : Regidx) (v : Xlenbits) :
      Twin (Ast.Links (.ZCA i)) pc b c z a (retireX rd v) := twin_of_unaware h inferInstance
  have hrX {k : Xlenbits → M Retired} (rs : Regidx)
      (hk : ∀ v, Twin (Ast.Links (.ZCA i)) pc b c z a (k v)) :
      Twin (Ast.Links (.ZCA i)) pc b c z a (rX rs >>= k) := twin_bind inferInstance hk
  have hpc {k : Xlenbits → M Retired} (hk : ∀ v, Twin (Ast.Links (.ZCA i)) pc b c z a (k v)) :
      Twin (Ast.Links (.ZCA i)) pc b c z a (Exec.reads State.pc >>= k) :=
    twin_bind inferInstance hk
  have hjal (imm : BitVec 21) (rd : Regidx) (hrd : rd = zreg ∨ Ast.Links (.ZCA i) ∧ rd = ra) :
      Twin (Ast.Links (.ZCA i)) pc b c z a (BaseInst.RISCV_JAL imm rd).execute :=
    hpc (fun _ => twin_checkTarget h _ (twin_linkTo h hrd _))
  have hjalr (imm : BitVec 12) (rs1 rd : Regidx) (hrd : rd = zreg ∨ Ast.Links (.ZCA i) ∧ rd = ra) :
      Twin (Ast.Links (.ZCA i)) pc b c z a (BaseInst.RISCV_JALR imm rs1 rd).execute :=
    hrX rs1 (fun _ => twin_checkTarget h _ (twin_linkTo h hrd _))
  have hbranch (imm : BitVec 13) (rs2 rs1 : Regidx) (op : Bop) :
      Twin (Ast.Links (.ZCA i)) pc b c z a (BaseInst.BTYPE imm rs2 rs1 op).execute :=
    hrX rs1 (fun _ => hrX rs2 (fun _ => hpc (fun _ => twin_ite
      (twin_checkTarget h _ (twin_setNextPc h _)) (twin_of_unaware h inferInstance))))
  cases i with
  | C_LW | C_LD | C_LWSP | C_LDSP => apply twin_executeLoad h
  | C_SW | C_SD | C_SWSP | C_SDSP => apply twin_executeStore h
  | C_NOP | C_ADDI4SPN | C_ADDI | C_LI | C_ADDI16SP | C_ANDI => apply twin_itype h
  | C_JAL | C_J => exact hjal _ _ (by first | exact Or.inl rfl | exact Or.inr ⟨trivial, rfl⟩)
  | C_JALR | C_JR => exact hjalr _ _ _ (by first | exact Or.inl rfl | exact Or.inr ⟨trivial, rfl⟩)
  | C_BEQZ | C_BNEZ => apply hbranch
  | C_LUI => exact twin_bind unaware_getArchPc (fun _ => hretire _ _)
  | C_EBREAK => exact hpc (fun v => twin_memFault h v _)
  | C_ADDIW | C_SRLI | C_SRAI | C_SLLI => exact hrX _ (fun _ => hretire _ _)
  | C_SUB | C_XOR | C_OR | C_AND | C_SUBW | C_ADDW | C_MV | C_ADD =>
      exact hrX _ (fun _ => hrX _ (fun _ => hretire _ _))

/-- The expansion of an instruction of Zcb behind it and in its place. -/
theorem ZcbInst.twin [SoftFloat] (h : Starts pc b c z a) (i : ZcbInst) :
    Twin False pc b c z a i.expansion.execute := by
  have hretire (rd : Regidx) (v : Xlenbits) : Twin False pc b c z a (retireX rd v) :=
    twin_of_unaware h inferInstance
  have hrX {k : Xlenbits → M Retired} (rs : Regidx) (hk : ∀ v, Twin False pc b c z a (k v)) :
      Twin False pc b c z a (rX rs >>= k) := twin_bind inferInstance hk
  cases i with
  | C_LBU | C_LHU | C_LH => apply twin_executeLoad h
  | C_SB | C_SH => apply twin_executeStore h
  | C_ZEXT_B | C_NOT => apply twin_itype h
  | C_SEXT_B | C_ZEXT_H | C_SEXT_H => exact hrX _ (fun _ => hretire _ _)
  | C_ZEXT_W | C_MUL => exact hrX _ (fun _ => hrX _ (fun _ => hretire _ _))

/-- The expansion of an instruction behind it and in its place. -/
theorem Ast.twin [SoftFloat] (h : Starts pc b c z a) {i e : Ast} (he : i.expansion = some e) :
    Twin i.Links pc b c z a e.execute := by
  cases i with
  | ZCA i =>
      cases he
      exact i.twin h
  | ZCB i =>
      cases he
      exact i.twin h
  | _ => cases he

end

/-! ## Widths -/

/-- The condition on the width of the access that the execute clause asserts. -/
def Ast.asserted : Ast → Bool
  | .BASE (.LOAD _ _ _ _ width _ _) => decide (sizeBytes width ≤ xlenBytes)
  | .BASE (.STORE _ _ _ width _ _) => decide (sizeBytes width ≤ xlenBytes)
  | _ => true

/-- An instruction that has an encoding passes the assertion on its width. -/
theorem Ast.asserted_of_encode {s : State} {e : Ast} {w : BitVec 32} (h : e.encode s = some w) :
    e.asserted = true := by
  cases e with
  | BASE b =>
      cases b with
      | LOAD imm rs1 rd isUnsigned width aq rl =>
          obtain ⟨hc, -⟩ := clause_eq_some.mp h
          simp only [Bool.and_eq_true, Bool.or_eq_true, decide_eq_true_eq] at hc
          refine decide_eq_true ?_
          rcases hc.2 with hlt | hle
          · exact hlt.le
          · exact hle.2
      | STORE imm rs2 rs1 width aq rl =>
          obtain ⟨hc, -⟩ := clause_eq_some.mp h
          exact (Bool.and_eq_true_iff.mp hc).2
      | _ => rfl
  | _ => rfl

/-! ## Steps -/

section

variable [SoftFloat]

/-- The rest of a step, after the fetch. -/
def afterFetch (f : FetchResult) : M Bool := do
  let r ← onFetch f
  tickPc
  retireInstruction r.1
  pure r.2

/-- A step without an interrupt fetches and goes on. -/
theorem run_step_of_fetch {s s₁ : State} {f : FetchResult}
    (hintr : dispatchInterrupt s.begin s.curPrivilege = .ok none)
    (hfetch : fetch.run s.begin = .ok (f, s₁)) : step.run s = (afterFetch f).run s₁ := by
  have hcheck : (Exec.checks (fun s : State => dispatchInterrupt s s.curPrivilege)).run s.begin
      = .ok (none, s.begin) := Exec.run_checks_ok.mpr ⟨hintr, rfl⟩
  have hon : (onInterrupt none).run s.begin = (onFetch f).run s₁ := Exec.run_bind_of_ok hfetch
  unfold step afterFetch
  rw [Exec.run_bind_of_ok (Exec.run_update _ _), Exec.run_bind_of_ok hcheck]
  cases hr : (onFetch f).run s₁ with
  | error e => rw [Exec.run_bind_of_error (hon.trans hr), Exec.run_bind_of_error hr]
  | ok p => rw [Exec.run_bind_of_ok (hon.trans hr), Exec.run_bind_of_ok hr]

/-- What the states after the steps from `start` have in common: `u` is reached with the word `b` of
two bytes, and `t` with the word `c` of four bytes. -/
structure StepDiffers (links : Prop) (start b c : Xlenbits) (u t : State) : Prop where
  instbits : u.instbits = b ∧ t.instbits = c
  nextPC : u.nextPC = u.pc ∧ t.nextPC = t.pc
  pc : t.pc = u.pc ∨ u.pc = start + 2#_ ∧ t.pc = start + 4#_
  link : t.x = u.x
    ∨ links ∧ u.X ra = start + 2#_ ∧ t.x = Function.update u.x ra.toFin (start + 4#_)
  rest : t = { u with
    pc := t.pc
    nextPC := t.nextPC
    instbits := t.instbits
    x := t.x }

omit [SoftFloat] in
/-- The end of the step. -/
theorem Differs.retire {links : Prop} {pc b c : Xlenbits} {u t : State}
    (h : Differs links pc b c u t) (r : Retired) :
    Exec.Alike (fun _ u' _ t' => StepDiffers links pc b c u' t')
      (do tickPc; retireInstruction r : M Unit) u (do tickPc; retireInstruction r) t := by
  refine Exec.alike_bind (R := fun _ u' _ t' => StepDiffers links pc b c u' t') ?_ ?_
  · refine Exec.alike_update ⟨h.instbits, ⟨rfl, rfl⟩, h.nextPC, h.link, ?_⟩
    rw [h.rest]
  · rintro - u' - t' - - h'
    refine Exec.alike_update ?_
    have hinc : t'.minstretIncrement = u'.minstretIncrement := by rw [h'.rest]
    have hret : t'.minstret = u'.minstret := by rw [h'.rest]
    rw [hinc, hret]
    split_ifs
    · refine ⟨h'.instbits, h'.nextPC, h'.pc, h'.link, ?_⟩
      conv_lhs => rw [h'.rest]
    · exact h'

omit [SoftFloat] in
/-- The instructions of Zca and Zcb are decoded when compressed instructions are enabled. -/
theorem zca_of_decode {s : State} {h : BitVec 16} {i e : Ast}
    (hdec : decodeLegalCompressed s h = some i) (he : i.expansion = some e) :
    extensionEnabled s .Zca = true := by
  unfold decodeLegalCompressed at hdec
  revert he
  refine firstClause_some (P := fun i : Ast => i.expansion = some e →
    extensionEnabled s .Zca = true) ?_ hdec
  simp only [List.mem_cons, forall_eq_or_imp, Option.map_eq_some_iff, List.not_mem_nil,
    false_imp_iff, implies_true, and_true]
  refine ⟨?_, ?_, ?_, ?_⟩
  · rintro _ ⟨i, hi, rfl⟩ -
    unfold ZcaInst.decode at hi
    refine firstClause_some (P := fun _ => extensionEnabled s .Zca = true) ?_ hi
    simp only [List.mem_cons, forall_eq_or_imp, clause_eq_some, List.not_mem_nil, false_imp_iff,
      implies_true, and_true]
    and_intros
    all_goals
      rintro _ ⟨hc, -⟩
      simp only [Bool.and_eq_true] at hc
      tauto
  · rintro _ ⟨i, -, rfl⟩ he
    cases he
  · rintro _ ⟨i, -, rfl⟩ he
    cases he
  · rintro _ ⟨i, hi, rfl⟩ -
    have hzcb : extensionEnabled s .Zcb = true := by
      unfold ZcbInst.decode at hi
      refine firstClause_some (P := fun _ => extensionEnabled s .Zcb = true) ?_ hi
      simp only [List.mem_cons, forall_eq_or_imp, clause_eq_some, List.not_mem_nil, false_imp_iff,
        implies_true, and_true]
      and_intros
      all_goals
        rintro _ ⟨hc, -⟩
        simp only [Bool.and_eq_true] at hc
        tauto
    exact (Bool.and_eq_true_iff.mp hzcb).2

/-- A step with a compressed instruction and one with its expansion. -/
theorem alike_afterFetch {s : State} {h : BitVec 16} {w : BitVec 32} {i e : Ast}
    (hdec : decodeLegalCompressed s h = some i) (he : i.expansion = some e)
    (hw : decodeLegal s w = some e) :
    Exec.Alike (fun x u y t => x = y
        ∧ StepDiffers i.Links s.pc (h.setWidth xlen) (w.setWidth xlen) u t)
      (afterFetch (.F_RVC h)) s (afterFetch (.F_Base w)) s := by
  have hcompressed : (onFetch (.F_RVC h)).run s
      = (executeAt 2#_ i).run (s.withBits (h.setWidth xlen)) := by
    have hi : extDecodeCompressed (s.withBits (h.setWidth xlen)) h = i := by
      change (decodeLegalCompressed s h).getD _ = i
      rw [hdec]
      rfl
    have hzca : extensionEnabled (s.withBits (h.setWidth xlen)) .Zca = true :=
      zca_of_decode hdec he
    unfold onFetch
    rw [Exec.run_bind_of_ok (Exec.run_update _ _), Exec.run_bind_of_ok (Exec.run_reads _ _),
      Exec.run_bind_of_ok (Exec.run_reads _ _), if_pos hzca, hi]
  have hbase : (onFetch (.F_Base w)).run s
      = (executeAt 4#_ e).run (s.withBits (w.setWidth xlen)) := by
    have hi : extDecode (s.withBits (w.setWidth xlen)) w = e := by
      change (decodeLegal s w).getD _ = e
      rw [hw]
      rfl
    unfold onFetch
    rw [Exec.run_bind_of_ok (Exec.run_update _ _), Exec.run_bind_of_ok (Exec.run_reads _ _), hi]
  have hfetched : Exec.Alike (fun r u r' t => r = r'
        ∧ Differs i.Links s.pc (h.setWidth xlen) (w.setWidth xlen) u t)
      (onFetch (.F_RVC h)) s (onFetch (.F_Base w)) s := by
    unfold Exec.Alike
    rw [hcompressed, hbase]
    let a : Aside := ⟨s.pc + 4#_, w.setWidth xlen, s.vtype, s.vl⟩
    refine Exec.alike_bind (R := fun _ u _ t => u = (s.withBits (h.setWidth xlen)).after 2#_
      ∧ t = u.withAside a) (Exec.alike_update ⟨rfl, rfl⟩) ?_
    rintro - _ - _ - - ⟨rfl, rfl⟩
    have hstart : Starts s.pc (h.setWidth xlen) (w.setWidth xlen)
        ((s.withBits (h.setWidth xlen)).after 2#_).aside a :=
      ⟨⟨rfl, rfl⟩, ⟨rfl, rfl⟩, rfl, rfl⟩
    refine Exec.alike_bind (R := fun r u r' t => r = r'
      ∧ Differs i.Links s.pc (h.setWidth xlen) (w.setWidth xlen) u t) ?_ ?_
    · unfold Exec.Alike
      rw [Ast.run_expansion he]
      exact Ast.twin hstart he _ rfl
    · rintro r u _ t - - ⟨rfl, hdiff⟩
      exact Exec.alike_pure ⟨rfl, hdiff⟩
  unfold afterFetch
  refine Exec.alike_bind hfetched ?_
  rintro r u _ t - - ⟨rfl, hdiff⟩
  have hend := hdiff.retire r.1
  rw [← bind_assoc]
  refine Exec.alike_bind hend ?_
  rintro - u' - t' - - hdiff'
  exact Exec.alike_pure ⟨rfl, hdiff'⟩

/-- **Compressed instructions are abbreviations.**  An instruction of Zca or Zcb that is decoded
has an expansion to an instruction of 32 bits, whose encoding is decoded to it with the same
extensions and whose width passes the assertion.  It executes as its expansion in every state; and
a step with it is like a step with its expansion, but for `instbits`, the address of the following
instruction and the link. -/
theorem compressed_abbreviates {s : State} {h : BitVec 16} {i : Ast}
    (hdec : decodeLegalCompressed s h = some i)
    (hi : (∃ j, i = .ZCA j) ∨ ∃ j, i = .ZCB j) :
    ∃ e w, i.expansion = some e ∧ e.encode s = some w ∧ decodeLegal s w = some e
      ∧ e.asserted = true ∧ (∀ t, i.execute.run t = e.execute.run t)
      ∧ Exec.Alike (fun x u y t => x = y
          ∧ StepDiffers i.Links s.pc (h.setWidth xlen) (w.setWidth xlen) u t)
        (afterFetch (.F_RVC h)) s (afterFetch (.F_Base w)) s := by
  obtain ⟨e, he⟩ : ∃ e, i.expansion = some e := by
    rcases hi with ⟨j, rfl⟩ | ⟨j, rfl⟩ <;> exact ⟨_, rfl⟩
  obtain ⟨w, henc, hw⟩ := exists_encode_of_decode hdec he
  exact ⟨e, w, he, henc, hw, Ast.asserted_of_encode henc, Ast.run_expansion he,
    alike_afterFetch hdec he hw⟩

end

omit [Platform] in
/-- `c.jalr t0` with the C extension. -/
theorem compressed_abbreviates_jalr :
    letI := rv64Pmp 16 (by decide)
    letI : SoftFloat := default
    let s := { State.zero (fun _ => 0#8) with misa := BitVec.allOnes _ }
    ∃ w, Ast.encode s (.BASE (.RISCV_JALR 0#12 5#5 ra)) = some w
      ∧ Exec.Alike (fun x u y t => x = y ∧ StepDiffers True s.pc 0x9282#_ (w.setWidth _) u t)
        (afterFetch (.F_RVC 0x9282#16)) s (afterFetch (.F_Base w)) s := by
  let := rv64Pmp 16 (by decide)
  let : SoftFloat := default
  let s := { State.zero (fun _ => 0#8) with misa := BitVec.allOnes _ }
  have hdec : decodeLegalCompressed s 0x9282#16 = some (.ZCA (.C_JALR 5#5)) := by decide +kernel
  obtain ⟨e, w, he, henc, -, -, -, halike⟩ := compressed_abbreviates hdec (Or.inl ⟨_, rfl⟩)
  cases he
  exact ⟨w, henc, halike⟩

end SailRiscv
