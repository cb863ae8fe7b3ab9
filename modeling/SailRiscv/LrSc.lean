/-
# Load-reserved and store-conditional

The reservation is one address under the model.  Over every run of the loop it holds exactly when
the last LR or SC that retired is an LR, of the address of that LR (`Reserved`), so an SC
that retires stores exactly if that LR is of its own physical address (`storecon_law`).
-/
import SailRiscv.AstSteps
import SailRiscv.DataAccess
import SailRiscv.VmemWriteback

namespace SailRiscv

open Bits Platform

variable [Platform]

/-! ## The instructions that leave the reservation alone -/

/-- The reservation is the same. -/
structure SameReservation (s s' : State) : Prop where
  reservation : s'.reservation = s.reservation
  reservationValid : s'.reservationValid = s.reservationValid

instance : Std.Refl SameReservation := ⟨fun _ => ⟨rfl, rfl⟩⟩

instance : IsTrans State SameReservation where
  trans _ _ _ h h' :=
    ⟨h'.reservation.trans h.reservation, h'.reservationValid.trans h.reservationValid⟩

instance : OuterRel SameReservation := ⟨fun h => ⟨h.reservation, h.reservationValid⟩⟩

instance : TraceClosed SameReservation := ⟨fun _ _ => ⟨rfl, rfl⟩⟩

/-- What matches the reservation in the same reservation. -/
theorem SameReservation.matches {s s' : State} (h : SameReservation s s') (a : Xlenbits) :
    matchReservation s' a = matchReservation s a := by
  unfold matchReservation
  rw [h.reservation, h.reservationValid]

/-- The integer registers are the same. -/
def SameX (s s' : State) : Prop := s'.x = s.x

instance : Std.Refl SameX := ⟨fun _ => rfl⟩

instance : IsTrans State SameX := ⟨fun _ _ _ h h' => Eq.trans h' h⟩

instance : TlbClosed SameX where
  devices _ _ := rfl
  store _ _ _ _ _ := rfl
  tlb _ _ _ := rfl

/-- An exception changes neither the integer registers nor the memory. -/
theorem TrapEntry.sameX {intr : Bool} {c : BitVec 8} {info : Option Xlenbits} {s s' : State}
    {p : Privilege} (h : TrapEntry intr c info s p s') : SameX s s' ∧ SameMem s s' := by
  rcases h with _ | _ <;> exact ⟨rfl, rfl⟩

theorem SyncTrap.sameX {s s' : State} (h : SyncTrap s s') : SameX s s' ∧ SameMem s s' := by
  obtain ⟨e, h⟩ := h
  exact (handleSync_cases h).sameX

/-! ## What a write returns -/

/-- **A write that does not fault succeeds**: `MemValue(false)` is returned nowhere. -/
theorem stored_of_memWriteValue {pa : Xlenbits} {n : ℕ} {v : BitVec (8 * n)} {aq rl con b : Bool}
    {s s' : State} (h : (memWriteValue pa n v aq rl con).run s = .ok (.MemValue b, s')) :
    b = true := by
  have hthen {f : State → State} {m : M Unit} {s : State}
      (h : (do Exec.update f; m; pure (.MemValue true) : M (MemoryOpResult Bool)).run s
        = .ok (.MemValue b, s')) : b = true := by
    obtain ⟨_, _, -, h₁⟩ := Exec.run_bind_ok.mp h
    obtain ⟨_, _, -, h₂⟩ := Exec.run_bind_ok.mp h₁
    cases h₂
    rfl
  unfold memWriteValue memWriteValuePrivMeta at h
  obtain ⟨priv, s₁, -, hmeta⟩ := Exec.run_bind_ok.mp h
  split at hmeta
  · cases hmeta
  · unfold checkedMemWrite at hmeta
    obtain ⟨c, s₂, -, hdo⟩ := Exec.run_bind_ok.mp hmeta
    rcases c with _ | e
    · simp only at hdo
      split at hdo
      · unfold mmioWrite at hdo
        split at hdo
        · unfold clintStore at hdo
          simp only at hdo
          split_ifs at hdo
          all_goals first | exact hthen hdo | cases hdo
        · split at hdo
          · exact hthen hdo
          · cases hdo
      · split at hdo
        · obtain ⟨_, s₃, -, hphys⟩ := Exec.run_bind_ok.mp hdo
          obtain ⟨_, _, -, hend⟩ := Exec.run_bind_ok.mp hphys
          cases hend
          rfl
        · cases hdo
    · cases hdo

/-! ## One instruction -/

section Instructions

variable {s s' : State} {r : Retired} {aq rl : Bool} {rs2 rs1 rd : Regidx} {width : WordWidth}

/-- The address of an LR or SC. -/
theorem run_extDataGetAddr_zero :
    (extDataGetAddr rs1 0#_).run s = .ok (s.X rs1, s) := by
  unfold extDataGetAddr
  rw [Exec.run_reads, BitVec.add_zero]

/-- A fault does not retire. -/
theorem run_memFault {vaddr : Xlenbits} {e : ExceptionType}
    (h : (memFault vaddr e).run s = .ok (r, s')) : r = .RETIRE_FAIL ∧ SyncTrap s s' := by
  unfold memFault at h
  obtain ⟨u, s₁, htrap, hend⟩ := Exec.run_bind_ok.mp h
  cases hend
  exact ⟨rfl, _, htrap⟩

/-- **What an LR does to the reservation.** -/
theorem executeLoadres_cases (h : (executeLoadres aq rl rs1 width rd).run s = .ok (r, s')) :
    (r = .RETIRE_FAIL ∧ SameReservation s s')
      ∨ (r = .RETIRE_SUCCESS ∧ ∃ pa st,
          (translateAddr (s.X rs1) .Read).run s = .ok (.TR_Address pa, st)
            ∧ s'.reservation = pa ∧ s'.reservationValid = true) := by
  have hfault {s₁ : State} {vaddr : Xlenbits} {e : ExceptionType} (hs₁ : SameReservation s s₁)
      (h : (memFault vaddr e).run s₁ = .ok (r, s')) :
      r = .RETIRE_FAIL ∧ SameReservation s s' := by
    obtain ⟨hr, htrap⟩ := run_memFault h
    exact ⟨hr, IsTrans.trans _ _ _ hs₁ (OuterRel.outer htrap.sameOuter)⟩
  unfold executeLoadres at h
  obtain ⟨u, s₀, hassert, haddr⟩ := Exec.run_bind_ok.mp h
  obtain ⟨-, rfl⟩ := run_assert_ok.mp hassert
  rw [Exec.run_bind_of_ok run_extDataGetAddr_zero] at haddr
  split at haddr
  · exact Or.inl (hfault (Std.Refl.refl _) haddr)
  · obtain ⟨tr, st, htr, hmem⟩ := Exec.run_bind_ok.mp haddr
    have hst : SameReservation s₀ st := (keeps_translateAddr _ _).rel htr
    rcases tr with pa | e
    · simp only [onAddress] at hmem
      obtain ⟨m, s₁, hread, hend⟩ := Exec.run_bind_ok.mp hmem
      obtain ⟨-, rfl⟩ := Exec.run_checks_ok.mp hread
      rcases m with v | e
      · simp only [onMemValue, loadReservation] at hend
        rw [Exec.run_bind_of_ok (Exec.run_update _ _)] at hend
        obtain ⟨u, s₂, hwrite, hret⟩ := Exec.run_bind_ok.mp hend
        cases hret
        have hsame : SameReservation _ s' := (keeps_wX _ _).rel hwrite
        exact Or.inr ⟨rfl, pa, s₁, htr, hsame.reservation, hsame.reservationValid⟩
      · exact Or.inl (hfault hst hend)
    · exact Or.inl (hfault hst hmem)

/-- The state at the end of an SC that writes `v` to `rd`: the reservation is lost. -/
def State.endSc (s : State) (rd : Regidx) (v : Xlenbits) : State :=
  { s.setX rd v with reservationValid := false }

theorem run_endStorecon {failed : Bool} (h : (endStorecon rd failed).run s = .ok (r, s')) :
    r = .RETIRE_SUCCESS ∧ s' = s.endSc rd (boolToXlen failed) := by
  unfold endStorecon wX cancelReservation at h
  rw [Exec.run_bind_of_ok (Exec.run_update _ _), Exec.run_bind_of_ok (Exec.run_update _ _)] at h
  cases h
  exact ⟨rfl, rfl⟩

/-- An SC stores: after its translation to `pa` in the state `st` it writes the low bytes of `rs2`
at `pa`, and 0 to `rd`. -/
def Stores (aq rl : Bool) (rs2 : Regidx) (width : WordWidth) (rd : Regidx) (st : State)
    (pa : Xlenbits) (s' : State) : Prop :=
  ∃ u, (memWriteValue pa (sizeBytes width) ((st.X rs2).extractLsb' 0 (8 * sizeBytes width))
      (aq && rl) rl true).run st = .ok (.MemValue true, u) ∧ s' = u.endSc rd 0#_

/-- An instruction traps: it takes one exception, and it changes neither the registers nor, apart
from the write-back of the PTE of its address, the memory. -/
structure Traps (vaddr : Xlenbits) (ac : AccessType) (s s' : State) : Prop where
  x : s'.x = s.x
  mem : WritesBack s s' vaddr ac
  reservation : SameReservation s s'

/-- A fault after the translation. -/
theorem traps_of_memFault {vaddr : Xlenbits} {ac : AccessType}
    {tr : TRResult Xlenbits ExceptionType} {st s₁ : State} {e : ExceptionType}
    (htr : (translateAddr vaddr ac).run s = .ok (tr, st)) (hx : SameX st s₁)
    (hmem : SameMem st s₁) (hres : SameReservation st s₁)
    (h : (memFault vaddr e).run s₁ = .ok (r, s')) :
    r = .RETIRE_FAIL ∧ Traps vaddr ac s s' := by
  obtain ⟨hr, htrap⟩ := run_memFault h
  have hst : SameX s st := (keeps_translateAddr _ _).rel htr
  have hres' : SameReservation s st := (keeps_translateAddr _ _).rel htr
  refine ⟨hr, Eq.trans htrap.sameX.1 (Eq.trans hx hst), ?_, ?_⟩
  · have heq : s'.mem = st.mem := Eq.trans htrap.sameX.2 hmem
    exact (translateAddr_writesBack htr).congr heq
  · exact IsTrans.trans _ _ _ hres' (IsTrans.trans _ _ _ hres (OuterRel.outer htrap.sameOuter))

/-- **What an SC does.** -/
theorem executeStorecon_cases
    (h : (executeStorecon aq rl rs2 rs1 width rd).run s = .ok (r, s')) :
    (r = .RETIRE_FAIL ∧ Traps (s.X rs1) .Write s s')
      ∨ (r = .RETIRE_SUCCESS ∧ ∃ pa st,
          (translateAddr (s.X rs1) .Write).run s = .ok (.TR_Address pa, st)
            ∧ (matchReservation s pa = true ∧ Stores aq rl rs2 width rd st pa s'
              ∨ matchReservation s pa = false ∧ s' = st.endSc rd 1#_)) := by
  have hone : boolToXlen true = 1#_ := by
    unfold boolToXlen boolToBits
    have hx := xlen_ge
    exact BitVec.setWidth_ofNat_of_le_of_lt (by omega) (by decide)
  have hzero : boolToXlen false = 0#_ := by
    exact BitVec.setWidth_zero xlen 1
  unfold executeStorecon at h
  obtain ⟨u, s₀, hassert, haddr⟩ := Exec.run_bind_ok.mp h
  obtain ⟨-, rfl⟩ := run_assert_ok.mp hassert
  rw [Exec.run_bind_of_ok run_extDataGetAddr_zero] at haddr
  split at haddr
  · obtain ⟨hr, htrap⟩ := run_memFault haddr
    exact Or.inl ⟨hr, htrap.sameX.1, .of_mem_eq htrap.sameX.2, OuterRel.outer htrap.sameOuter⟩
  · obtain ⟨tr, st, htr, hmem⟩ := Exec.run_bind_ok.mp haddr
    have hst : SameReservation s₀ st := (keeps_translateAddr _ _).rel htr
    rcases tr with pa | e
    · simp only [onAddress] at hmem
      rw [Exec.run_bind_of_ok (Exec.run_reads _ _), hst.matches] at hmem
      rcases hm : matchReservation s₀ pa
      · rw [hm, if_pos (by rfl)] at hmem
        obtain ⟨hr, hend⟩ := run_endStorecon hmem
        rw [hone] at hend
        exact Or.inr ⟨hr, pa, st, htr, Or.inr ⟨hm, hend⟩⟩
      · rw [hm, if_neg (by simp)] at hmem
        obtain ⟨ea, s₁, hea, hwrite⟩ := Exec.run_bind_ok.mp hmem
        obtain ⟨-, rfl⟩ := Exec.run_checks_ok.mp hea
        rcases ea with _ | e
        · simp only [onMemValue] at hwrite
          unfold rX at hwrite
          rw [Exec.run_bind_of_ok (Exec.run_reads _ _)] at hwrite
          obtain ⟨w, s₂, hstore, hend⟩ := Exec.run_bind_ok.mp hwrite
          rcases w with b | e
          · obtain rfl := stored_of_memWriteValue hstore
            obtain ⟨hr, hend⟩ := run_endStorecon hend
            rw [Bool.not_true, hzero] at hend
            exact Or.inr ⟨hr, pa, s₁, htr, Or.inl ⟨hm, s₂, hstore, hend⟩⟩
          · exact Or.inl (traps_of_memFault htr ((keeps_memWriteValue _ _ _ _ _ _).rel hstore)
              (sameMem_of_memWriteValue hstore) ((keeps_memWriteValue _ _ _ _ _ _).rel hstore)
              hend)
        · exact Or.inl (traps_of_memFault htr rfl rfl (Std.Refl.refl _) hwrite)
    · exact Or.inl (traps_of_memFault htr rfl rfl (Std.Refl.refl _) hmem)

end Instructions

/-! ## The history of a run -/

/-- An LR or SC that retired: the physical address, and whether the SC stored. -/
inductive Reserving where
  | lr (pa : Xlenbits)
  | sc (pa : Xlenbits) (stored : Bool)

variable [SoftFloat]

/-- The instruction `i`, executed from `s`, is an LR or SC that retires. -/
inductive Retires (s s' : State) : Ast → Reserving → Prop
  | lr {aq rl : Bool} {rs1 rd : Regidx} {width : WordWidth} {pa : Xlenbits} {st : State}
      (hrun : (executeLoadres aq rl rs1 width rd).run s = .ok (.RETIRE_SUCCESS, s'))
      (htr : (translateAddr (s.X rs1) .Read).run s = .ok (.TR_Address pa, st)) :
      Retires s s' (.ATOMIC (.LOADRES aq rl rs1 width rd)) (.lr pa)
  | stored {aq rl : Bool} {rs2 rs1 rd : Regidx} {width : WordWidth} {pa : Xlenbits} {st : State}
      (hrun : (executeStorecon aq rl rs2 rs1 width rd).run s = .ok (.RETIRE_SUCCESS, s'))
      (htr : (translateAddr (s.X rs1) .Write).run s = .ok (.TR_Address pa, st))
      (hm : matchReservation st pa = true) (hs : Stores aq rl rs2 width rd st pa s') :
      Retires s s' (.ATOMIC (.STORECON aq rl rs2 rs1 width rd)) (.sc pa true)
  | refused {aq rl : Bool} {rs2 rs1 rd : Regidx} {width : WordWidth} {pa : Xlenbits} {st : State}
      (hrun : (executeStorecon aq rl rs2 rs1 width rd).run s = .ok (.RETIRE_SUCCESS, s'))
      (htr : (translateAddr (s.X rs1) .Write).run s = .ok (.TR_Address pa, st))
      (hm : matchReservation st pa = false) :
      Retires s s' (.ATOMIC (.STORECON aq rl rs2 rs1 width rd)) (.sc pa false)

/-- The turn of the loop retires an LR or SC. -/
def TurnRetires (t : Turn) (s s' : State) (e : Reserving) : Prop :=
  t = .step ∧ ∃ i s₁ s₂, Executes s i s₁ ∧ Retires s₁ s₂ i e ∧ s' = endStep .RETIRE_SUCCESS s₂

/-- A turn of the loop, beside the LR and SC that have retired so far, the last one first. -/
def HistoryTurn (t : Turn) (p p' : State × List Reserving) : Prop :=
  Turns t p.1 p'.1
    ∧ ((∃ e, TurnRetires t p.1 p'.1 e ∧ p'.2 = e :: p.2)
      ∨ ((∀ e, ¬ TurnRetires t p.1 p'.1 e) ∧ p'.2 = p.2))

/-- Every run has a history. -/
theorem exists_history {s₀ s : State} (h : Run Turns Run.Free s₀ s) :
    ∃ hist, Run HistoryTurn Run.Free (s₀, []) (s, hist) := by
  induction h with
  | start => exact ⟨[], .start⟩
  | @next s s' t _ _ hturn ih =>
      obtain ⟨hist, hrun⟩ := ih
      by_cases he : ∃ e, TurnRetires t s s' e
      · obtain ⟨e, he⟩ := he
        exact ⟨e :: hist, .next hrun trivial ⟨hturn, Or.inl ⟨e, he, rfl⟩⟩⟩
      · exact ⟨hist, .next hrun trivial ⟨hturn, Or.inr ⟨fun e h => he ⟨e, h⟩, rfl⟩⟩⟩

/-- The last LR or SC that retired is an LR of `a`. -/
def LastIsLr (hist : List Reserving) (a : Xlenbits) : Prop := ∃ older, hist = .lr a :: older

omit [SoftFloat] in
theorem not_lastIsLr_sc {pa a : Xlenbits} {b : Bool} {hist : List Reserving} :
    ¬ LastIsLr (.sc pa b :: hist) a := nofun

omit [SoftFloat] in
theorem lastIsLr_lr {pa a : Xlenbits} {hist : List Reserving} :
    LastIsLr (.lr pa :: hist) a ↔ pa = a := by
  constructor
  · rintro ⟨older, h⟩
    cases h
    rfl
  · rintro rfl
    exact ⟨hist, rfl⟩

/-- The SCs that store come right after an LR of their address. -/
def Paired (hist : List Reserving) : Prop :=
  ∀ newer pa older, hist = newer ++ .sc pa true :: older → LastIsLr older pa

/-- The invariant of a run: an address is reserved exactly if the last LR or SC that retired is an
LR of it, and this held for the SCs before. -/
structure Reserved (p : State × List Reserving) : Prop where
  matches_iff : ∀ a, matchReservation p.1 a = true ↔ LastIsLr p.2 a
  paired : Paired p.2

/-! ## What one turn does -/

section Turns

variable {s s' : State} {t : Turn} {e : Reserving}

/-- A turn that retires neither an LR nor an SC leaves the reservation alone. -/
theorem sameReservation_of_turn (hturn : Turns t s s') (hno : ∀ e, ¬ TurnRetires t s s' e) :
    SameReservation s s' := by
  rcases t
  · obtain ⟨stepped, hstep⟩ := hturn
    obtain ⟨r, s₂, hout, rfl⟩ := step_cases hstep
    have hend : SameReservation s₂ (endStep r s₂) := ⟨rfl, rfl⟩
    refine IsTrans.trans _ _ _ (hout.rel (fun {i s₁} hi hrun => ?_)) hend
    by_cases hres : i.Reserves
    · rcases i with _ | _ | i | _
      case ATOMIC =>
        rcases i with ⟨aq, rl, rs1, width, rd⟩ | ⟨aq, rl, rs2, rs1, width, rd⟩ | _
        · rcases executeLoadres_cases hrun with ⟨-, hsame⟩ | ⟨rfl, pa, st, htr, -⟩
          · exact hsame
          · exact absurd ⟨rfl, _, s₁, s₂, hi, .lr hrun htr, rfl⟩ (hno (.lr pa))
        · rcases executeStorecon_cases hrun with ⟨-, htrap⟩ | ⟨rfl, pa, st, htr, hcase⟩
          · exact htrap.reservation
          · have hst : SameReservation s₁ st := (keeps_translateAddr _ _).rel htr
            rw [← hst.matches] at hcase
            rcases hcase with ⟨hm, hs⟩ | ⟨hm, -⟩
            · exact absurd ⟨rfl, _, s₁, s₂, hi, .stored hrun htr hm hs, rfl⟩ (hno _)
            · exact absurd ⟨rfl, _, s₁, s₂, hi, .refused hrun htr hm, rfl⟩ (hno _)
        · exact hres.elim
      all_goals exact hres.elim
    · have hkeeps : Exec.Keeps SameReservation i.execute :=
        Ast.keeps (fun _ => inferInstance) (fun h => absurd h hres) hi.evenOffset
      exact hkeeps.rel hrun
  · exact Turns.rel_tick hturn

/-- After an LR its address is reserved; an SC loses the reservation, and it stores exactly if its
address was reserved before the turn. -/
theorem reserved_of_turnRetires (h : TurnRetires t s s' e) :
    (∀ a, matchReservation s' a = true ↔ e = .lr a)
      ∧ ∀ pa b, e = .sc pa b → matchReservation s pa = b := by
  obtain ⟨-, i, s₁, s₂, hi, hret, rfl⟩ := h
  have hs₁ : SameReservation s s₁ := hi.rel
  have hend (r : Retired) : SameReservation s₂ (endStep r s₂) := ⟨rfl, rfl⟩
  have hlost {aq rl : Bool} {rs2 rs1 rd : Regidx} {width : WordWidth}
      (hrun : (executeStorecon aq rl rs2 rs1 width rd).run s₁ = .ok (.RETIRE_SUCCESS, s₂))
      (a : Xlenbits) : matchReservation (endStep .RETIRE_SUCCESS s₂) a = false := by
    rw [(hend _).matches]
    rcases executeStorecon_cases hrun with ⟨hfail, -⟩ | ⟨-, pa', st', -, hcase⟩
    · cases hfail
    · rcases hcase with ⟨-, u, -, rfl⟩ | ⟨-, rfl⟩ <;> rfl
  have hfound {rs1 : Regidx} {pa : Xlenbits} {st : State}
      (htr : (translateAddr (s₁.X rs1) .Write).run s₁ = .ok (.TR_Address pa, st)) :
      matchReservation s pa = matchReservation st pa := by
    have hst : SameReservation s₁ st := (keeps_translateAddr _ _).rel htr
    rw [hst.matches, hs₁.matches]
  rcases hret with @⟨aq, rl, rs1, rd, width, pa, st, hrun, htr⟩ | ⟨hrun, htr, hm, -⟩
    | ⟨hrun, htr, hm⟩
  · refine ⟨fun a => ?_, nofun⟩
    rcases executeLoadres_cases hrun with ⟨hfail, -⟩ | ⟨-, pa', st', htr', hpa, hvalid⟩
    · cases hfail
    · rw [htr] at htr'
      cases htr'
      rw [(hend _).matches]
      unfold matchReservation
      simp [hpa, hvalid]
  · refine ⟨fun a => iff_of_false (by simp [hlost hrun a]) nofun, ?_⟩
    rintro _ _ ⟨⟩
    exact (hfound htr).trans hm
  · refine ⟨fun a => iff_of_false (by simp [hlost hrun a]) nofun, ?_⟩
    rintro _ _ ⟨⟩
    exact (hfound htr).trans hm

/-- **A turn keeps the invariant.** -/
theorem Reserved.turn {p p' : State × List Reserving} (hinv : Reserved p)
    (hturn : HistoryTurn t p p') : Reserved p' := by
  obtain ⟨s, hist⟩ := p
  obtain ⟨s', hist'⟩ := p'
  obtain ⟨hturn, ⟨e, he, heq⟩ | ⟨hno, heq⟩⟩ := hturn
  · simp only at heq
    subst heq
    obtain ⟨hmatch, hsc⟩ := reserved_of_turnRetires he
    refine ⟨fun a => ?_, ?_⟩
    · rw [hmatch a]
      rcases e with pa | ⟨pa, b⟩
      · rw [lastIsLr_lr, Reserving.lr.injEq]
      · exact iff_of_false nofun not_lastIsLr_sc
    · rintro (_ | ⟨x, newer⟩) pa older hsplit
      · cases hsplit
        exact (hinv.matches_iff pa).mp (hsc pa true rfl)
      · cases hsplit
        exact hinv.paired newer pa older rfl
  · simp only at heq
    subst heq
    have hsame := sameReservation_of_turn hturn hno
    refine ⟨fun a => ?_, hinv.paired⟩
    rw [hsame.matches]
    exact hinv.matches_iff a

end Turns

/-! ## The law of LR and SC -/

section Law

variable {s₀ s s₁ s₂ : State} {hist : List Reserving}

omit [SoftFloat] in
/-- The machine starts without a reservation. -/
theorem Boots.reservationValid {entry : Xlenbits} {s : State} (h : Boots entry s) :
    s.reservationValid = false := by
  obtain ⟨mem, s₀, hinit, rfl⟩ := h
  have hsame : SameReservation (State.zero mem) s₀ := keeps_outer_initModel.rel hinit
  exact hsame.reservationValid

/-- The invariant holds in every run from a state without a reservation. -/
theorem reserved_of_run (hstart : s₀.reservationValid = false)
    (hrun : Run HistoryTurn Run.Free (s₀, []) (s, hist)) : Reserved (s, hist) := by
  refine hrun.invariant ?_ (fun hinv _ hturn => hinv.turn hturn)
  refine ⟨fun a => ?_, ?_⟩
  · unfold matchReservation
    rw [hstart]
    exact iff_of_false Bool.false_ne_true nofun
  · rintro (_ | _) _ _ ⟨⟩

omit [SoftFloat] in
/-- Between two SCs that store there is an LR. -/
theorem Paired.lr_between {newer older oldest : List Reserving} {pa pb : Xlenbits}
    (h : Paired (newer ++ .sc pa true :: (older ++ .sc pb true :: oldest))) :
    .lr pa ∈ older := by
  obtain ⟨rest, heq⟩ := h newer pa _ rfl
  rcases older with _ | ⟨x, older⟩
  · cases heq
  · cases heq
    exact List.mem_cons_self

/-- What an SC may do after the history `hist`.  If it retires, then it stores and writes 0 to `rd`
exactly if the last LR or SC that retired is an LR of its physical address; otherwise it writes 1
to `rd` and the memory stays as its translation leaves it.  If it does not retire, it
traps. -/
def ScLawful (hist : List Reserving) (aq rl : Bool) (rs2 rs1 : Regidx) (width : WordWidth)
    (rd : Regidx) (s : State) (r : Retired) (s' : State) : Prop :=
  (r = .RETIRE_FAIL ∧ Traps (s.X rs1) .Write s s')
    ∨ (r = .RETIRE_SUCCESS ∧ ∃ pa st,
        (translateAddr (s.X rs1) .Write).run s = .ok (.TR_Address pa, st)
          ∧ WritesBack s st (s.X rs1) .Write
          ∧ (LastIsLr hist pa ∧ Stores aq rl rs2 width rd st pa s'
            ∨ ¬ LastIsLr hist pa ∧ s' = st.endSc rd 1#_))

/-- **LR and SC.**  Over every run from a state without a reservation, every SC obeys the
law, and between two SCs that store there is an LR. -/
theorem storecon_law (hstart : s₀.reservationValid = false)
    (hrun : Run HistoryTurn Run.Free (s₀, []) (s, hist)) :
    (∀ {aq rl : Bool} {rs2 rs1 rd : Regidx} {width : WordWidth} {r : Retired} {s₁ s₂ : State},
        Executes s (.ATOMIC (.STORECON aq rl rs2 rs1 width rd)) s₁ →
        (AtomicInst.STORECON aq rl rs2 rs1 width rd).execute.run s₁ = .ok (r, s₂) →
        ScLawful hist aq rl rs2 rs1 width rd s₁ r s₂)
      ∧ ∀ {newer older oldest : List Reserving} {pa pb : Xlenbits},
        hist = newer ++ .sc pa true :: (older ++ .sc pb true :: oldest) → .lr pa ∈ older := by
  have hinv := reserved_of_run hstart hrun
  refine ⟨?_, ?_⟩
  · intro aq rl rs2 rs1 rd width r s₁ s₂ hi hexec
    have hs₁ : SameReservation s s₁ := hi.rel
    rcases executeStorecon_cases hexec with htrap | ⟨hr, pa, st, htr, hcase⟩
    · exact Or.inl htrap
    · refine Or.inr ⟨hr, pa, st, htr, translateAddr_writesBack htr, ?_⟩
      rw [← hinv.matches_iff pa]
      simp only
      rw [← hs₁.matches]
      rcases hcase with ⟨hm, hstores⟩ | ⟨hm, hrefuses⟩
      · exact Or.inl ⟨hm, hstores⟩
      · exact Or.inr ⟨by simp [hm], hrefuses⟩
  · rintro newer older oldest pa pb rfl
    exact hinv.paired.lr_between

end Law

/-! ## A store-conditional that writes a PTE -/

/-- An SC at the virtual address 0, which `MPRV` sends through a superpage that lacks D. -/
def scOnCleanPage : State :=
  let mem := Bytes.write (fun _ => 0#8) 0x80000000 4 0x20000047#32
  { State.zero (Bytes.write mem 0x80002000 4 0x1821A0AF#32) with
    curPrivilege := .Machine
    pc := 0x80002000#_
    misa := 0x40140101#_
    mstatus := 0x20800#_
    satp := 0x80080000#_ }

omit [Platform] [SoftFloat] in
/-- The SC retires, and it sets the bit D of the PTE. -/
theorem run_scOnCleanPage :
    letI := rv32DirtyUpdate true
    ∃ s₁ s₂, Executes scOnCleanPage (.ATOMIC (.STORECON false false 2#5 3#5 .WORD 1#5)) s₁
      ∧ (AtomicInst.STORECON false false 2#5 3#5 .WORD 1#5).execute.run s₁
        = .ok (.RETIRE_SUCCESS, s₂)
      ∧ s₂.mem 0x80000000 ≠ s₁.mem 0x80000000 := by
  let := rv32DirtyUpdate true
  let : SoftFloat := default
  have hexec : scOnCleanPage.executes 0x1821A0AF#32
      (.ATOMIC (.STORECON false false 2#5 3#5 .WORD 1#5)) (fun s₁ =>
        (executeStorecon false false 2#5 3#5 .WORD 1#5).passes s₁ (fun r s₂ =>
          r == .RETIRE_SUCCESS && s₂.mem 0x80000000 != s₁.mem 0x80000000)) = true := by
    decide +kernel
  obtain ⟨s₁, hi, hsc⟩ := exists_executes hexec
  obtain ⟨r, s₂, hsc, htest⟩ := Exec.passes_iff.mp hsc
  simp only [Bool.and_eq_true, beq_iff_eq, bne_iff_ne] at htest
  obtain ⟨rfl, hne⟩ := htest
  exact ⟨s₁, s₂, hi, hsc, hne⟩

omit [Platform] [SoftFloat] in
/-- Nothing is reserved, the SC does not store, and the memory changes. -/
theorem storecon_changes_memory :
    ¬ ∀ [Platform] [SoftFloat] (s₀ s s₁ s₂ : State) (hist : List Reserving) (aq rl : Bool)
      (rs2 rs1 rd : Regidx) (width : WordWidth) (r : Retired),
      s₀.reservationValid = false → Run HistoryTurn Run.Free (s₀, []) (s, hist) →
      Executes s (.ATOMIC (.STORECON aq rl rs2 rs1 width rd)) s₁ →
      (AtomicInst.STORECON aq rl rs2 rs1 width rd).execute.run s₁ = .ok (r, s₂) →
        (∃ pa st, (translateAddr (s₁.X rs1) .Write).run s₁ = .ok (.TR_Address pa, st)
            ∧ LastIsLr hist pa ∧ r = .RETIRE_SUCCESS)
          ∨ s₂.mem = s₁.mem := by
  intro h
  let := rv32DirtyUpdate true
  let : SoftFloat := default
  obtain ⟨s₁, s₂, hi, hrun, hne⟩ := run_scOnCleanPage
  rcases h scOnCleanPage scOnCleanPage s₁ s₂ [] _ _ _ _ _ _ _ rfl .start hi hrun with
    ⟨pa, st, -, ⟨older, hnil⟩, -⟩ | hmem
  · cases hnil
  · exact hne (congrFun hmem _)

/-- An LR at the virtual address `0x3000`, which `MPRV` sends through the same superpage, before an
SC of the value 7. -/
def lrThenSc : State :=
  { scOnCleanPage with
    mem := Bytes.write scOnCleanPage.mem 0x80002000 8 (0x1821A0AF#32 ++ 0x1001A22F#32)
    x := Function.update (Function.update (fun _ => 0#_) 3 0x3000#_) 2 7#_ }

omit [Platform] [SoftFloat] in
/-- The LR and the SC retire, and the SC sets the bit D of the PTE and stores. -/
theorem run_lrThenSc :
    letI := rv32DirtyUpdate true
    ∃ s₁ s₂ s₃ s₄, Executes lrThenSc (.ATOMIC (.LOADRES false false 3#5 .WORD 4#5)) s₁
      ∧ Retires s₁ s₂ (.ATOMIC (.LOADRES false false 3#5 .WORD 4#5)) (.lr 0x80003000#_)
      ∧ Executes (endStep .RETIRE_SUCCESS s₂) (.ATOMIC (.STORECON false false 2#5 3#5 .WORD 1#5)) s₃
      ∧ (AtomicInst.STORECON false false 2#5 3#5 .WORD 1#5).execute.run s₃
        = .ok (.RETIRE_SUCCESS, s₄)
      ∧ s₄.X 1#5 = 0#_ ∧ s₄.mem 0x80003000 = 7#8 ∧ s₄.mem 0x80000000 ≠ s₃.mem 0x80000000 := by
  let := rv32DirtyUpdate true
  let : SoftFloat := default
  have hexec : lrThenSc.executes 0x1001A22F#32 (.ATOMIC (.LOADRES false false 3#5 .WORD 4#5))
      (fun s₁ =>
        (translateAddr (s₁.X 3#5) .Read).passes s₁ (fun r _ => r == .TR_Address 0x80003000#_)
        && (executeLoadres false false 3#5 .WORD 4#5).passes s₁ (fun r s₂ =>
          r == .RETIRE_SUCCESS && (endStep .RETIRE_SUCCESS s₂).executes 0x1821A0AF#32
            (.ATOMIC (.STORECON false false 2#5 3#5 .WORD 1#5)) (fun s₃ =>
              (executeStorecon false false 2#5 3#5 .WORD 1#5).passes s₃ (fun r s₄ =>
                r == .RETIRE_SUCCESS && s₄.X 1#5 == 0#_ && s₄.mem 0x80003000 == 7#8
                  && s₄.mem 0x80000000 != s₃.mem 0x80000000)))) = true := by
    decide +kernel
  obtain ⟨s₁, hlr, htest⟩ := exists_executes hexec
  obtain ⟨htr, htest⟩ := Bool.and_eq_true_iff.mp htest
  obtain ⟨tr, st, htr, hpa⟩ := Exec.passes_iff.mp htr
  obtain ⟨r, s₂, hload, htest⟩ := Exec.passes_iff.mp htest
  obtain ⟨hr, hnext⟩ := Bool.and_eq_true_iff.mp htest
  obtain rfl := beq_iff_eq.mp hr
  obtain ⟨s₃, hi, hsc⟩ := exists_executes hnext
  obtain ⟨r, s₄, hsc, htest⟩ := Exec.passes_iff.mp hsc
  simp only [Bool.and_eq_true, beq_iff_eq, bne_iff_ne] at htest
  obtain ⟨⟨⟨rfl, hx⟩, hmem⟩, hne⟩ := htest
  rw [beq_iff_eq.mp hpa] at htr
  exact ⟨s₁, s₂, s₃, s₄, hlr, .lr hload htr, hi, hsc, hx, hmem, hne⟩

omit [Platform] [SoftFloat] in
/-- After the LR has retired the SC obeys the law. -/
theorem storecon_law_lrThenSc :
    letI := rv32DirtyUpdate true
    letI : SoftFloat := default
    ∃ s s₁ s₂, Run HistoryTurn Run.Free (lrThenSc, []) (s, [.lr 0x80003000#_])
      ∧ Executes s (.ATOMIC (.STORECON false false 2#5 3#5 .WORD 1#5)) s₁
      ∧ s₂.X 1#5 = 0#_ ∧ s₂.mem 0x80003000 = 7#8 ∧ s₂.mem 0x80000000 ≠ s₁.mem 0x80000000
      ∧ ScLawful [.lr 0x80003000#_] false false 2#5 3#5 .WORD 1#5 s₁ .RETIRE_SUCCESS s₂ := by
  let := rv32DirtyUpdate true
  let : SoftFloat := default
  obtain ⟨s₁, s₂, s₃, s₄, hlr, hret, hi, hsc, hx, hmem, hne⟩ := run_lrThenSc
  have hload : (AtomicInst.LOADRES false false 3#5 .WORD 4#5).execute.run s₁
      = .ok (.RETIRE_SUCCESS, s₂) := by
    cases hret with
    | lr hrun htr => exact hrun
  have hturn : Turns .step lrThenSc (endStep .RETIRE_SUCCESS s₂) := turns_of_executes hlr hload
  have hrun : Run HistoryTurn Run.Free (lrThenSc, [])
      (endStep .RETIRE_SUCCESS s₂, [.lr 0x80003000#_]) :=
    .next .start trivial ⟨hturn, Or.inl ⟨_, ⟨rfl, _, s₁, s₂, hlr, hret, rfl⟩, rfl⟩⟩
  exact ⟨_, s₃, s₄, hrun, hi, hx, hmem, hne, (storecon_law rfl hrun).1 hi hsc⟩

end SailRiscv
