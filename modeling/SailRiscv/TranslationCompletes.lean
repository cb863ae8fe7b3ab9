/-
# The translation of an address completes

In a reachable state the registers name a privilege and a mode of translation, so a translation
returns an address or a failure for every access to every address.  One case is left where the
model aborts: the address hits an entry of the look-aside buffer that grants the access, and
the PTE with A and D set cannot be written back.
-/
import SailRiscv.ChecksLegal

namespace SailRiscv

open Bits Platform

variable [Platform]

/-! ## Registers of reachable states -/

section Registers

variable {s : State}

/-- `MPP` names a privilege. -/
theorem LegalMstatus.privilege {m : Xlenbits} (h : LegalMstatus m) :
    ∃ q, privLevelOfBits (Mstatus.MPP.get m) = .ok q := by
  have hmpp := h.mpp
  have hcases : ∀ b : BitVec 2, b = 0b00#2 ∨ b = 0b01#2 ∨ b = 0b10#2 ∨ b = 0b11#2 := by decide
  rcases hcases (Mstatus.MPP.get m) with hb | hb | hb | hb
  · rw [hb]
    exact ⟨.User, rfl⟩
  · rw [hb]
    exact ⟨.Supervisor, rfl⟩
  · exact absurd hb hmpp
  · rw [hb]
    exact ⟨.Machine, rfl⟩

/-- Every access has an effective privilege. -/
theorem effectivePrivilege_ok (h : LegalMstatus s.mstatus) (ac : AccessType) (p : Privilege) :
    ∃ q, effectivePrivilege ac s.mstatus p = .ok q := by
  unfold effectivePrivilege
  split
  · exact h.privilege
  · exact ⟨p, rfl⟩

/-- Every privilege has a mode of translation. -/
theorem ChecksLegal.translationMode (h : ChecksLegal s) (q : Privilege) :
    ∃ m, translationMode s q = .ok m := by
  unfold SailRiscv.translationMode
  split
  · exact ⟨_, rfl⟩
  · split
    · exact ⟨_, rfl⟩
    · rename_i h32
      have hx : xlen = 64 := by
        rcases Platform.xlen_eq with hx | hx
        · exact absurd hx h32
        · exact hx
      have harch : architecture (getMstatusSXL s.mstatus) = some .RV64 := by
        unfold getMstatusSXL
        rw [if_neg h32, h.sxl hx]
        rfl
      obtain ⟨m, hm⟩ := Option.isSome_iff_exists.mp (h.mode hx)
      rw [harch]
      simp only [hm]
      exact ⟨m, rfl⟩

/-- The checks of an access to data complete. -/
theorem ChecksLegal.dataLegal (h : ChecksLegal s) (hm : LegalMstatus s.mstatus) :
    DataLegal s where
  priv := effectivePrivilege_ok hm _ _
  mode q _ := h.translationMode q
  pmp := h.pmp
  readable := h.readable
  tlb := h.tlb

end Registers

/-! ## The case that aborts -/

/-- The access hits an entry that grants it, and whose PTE, with A and D set, cannot be written
back. -/
def HitRefused (s : State) (va : Xlenbits) (ac : AccessType) : Prop :=
  platEnableDirtyUpdate = true ∧ ∃ p q i e x, Translates s va ac p q
    ∧ lookupIn s va = some (i, e)
    ∧ checkPTEPermission ac q (Mstatus.MXR.get s.mstatus == 1#1)
        (Mstatus.SUM.get s.mstatus == 1#1) (pteFlags e.pte) = .ok true
    ∧ updatePTEBits e.pte ac = some x
    ∧ ∃ err s', (writePte p (e.pteAddr.setWidth xlen) x).run (updatedEntry s i e x)
        = .ok (.MemException err, s')

section Completes

variable {s : State} {p : SVParams} {va : Xlenbits} {ac : AccessType} {q : Privilege}

/-- A miss completes. -/
theorem translateIn_ok_of_miss (h : PmpLegal s) (htr : Translates s va ac p q)
    (hlook : lookupIn s va = none) : ∃ r s', (translateIn s p va ac q).run s = .ok (r, s') := by
  have hp := htr.valid
  unfold translateIn
  rw [run_translate_miss hlook]
  obtain ⟨r, hwalk⟩ : ∃ r, walkIn s p va ac q = .ok r :=
    ptWalk_ok h hp htr.ne_machine htr.lsb_lt
  cases r with
  | PTW_Failure f => exact ⟨_, _, run_miss_of_failure hwalk⟩
  | PTW_Success o =>
      cases hx : updatePTEBits o.pte ac with
      | none => exact ⟨_, _, run_miss_clean hp hwalk hx⟩
      | some x =>
          cases hd : platEnableDirtyUpdate with
          | false => exact ⟨_, _, run_miss_fixed hwalk hx hd⟩
          | true =>
              rw [run_miss_of_success hwalk, hx]
              simp only [hd, Bool.not_true, Bool.false_eq_true, if_false]
              rcases decided_writePte h hp (o.pteAddr.setWidth xlen) with hw | hw
              · obtain ⟨e, s', hrun⟩ := hw x
                rw [Exec.run_bind_of_ok hrun]
                exact ⟨_, _, rfl⟩
              · obtain ⟨b, s', hrun⟩ := hw x
                rw [Exec.run_bind_of_ok hrun]
                simp only
                rw [Exec.run_bind_of_ok (run_addToTLB hp (level_le_of_ptWalk hwalk) x)]
                exact ⟨_, _, rfl⟩

/-- A hit completes, or its write-back is refused and the model aborts. -/
theorem translateIn_of_hit (h : PmpLegal s) (htr : Translates s va ac p q) {i : Fin 64}
    {e : TLBEntry} (hlook : lookupIn s va = some (i, e)) :
    (∃ r s', (translateIn s p va ac q).run s = .ok (r, s'))
      ∨ HitRefused s va ac ∧ (translateIn s p va ac q).run s
          = .error (.internalError "invalid physical address in TLB") := by
  unfold translateIn
  rw [run_translate_hit hlook]
  obtain ⟨b, hb, -⟩ := checkPTEPermission_eq ac htr.ne_machine
    (Mstatus.MXR.get s.mstatus == 1#1) (Mstatus.SUM.get s.mstatus == 1#1) e.pte
  cases b with
  | false => exact Or.inl ⟨_, _, run_hit_of_denied hb⟩
  | true =>
      cases hx : updatePTEBits e.pte ac with
      | none => exact Or.inl ⟨_, _, run_hit_clean hb hx⟩
      | some x =>
          cases hd : platEnableDirtyUpdate with
          | false => exact Or.inl ⟨_, _, run_hit_fixed hb hx hd⟩
          | true =>
              rw [run_hit_of_allowed hb, hx]
              simp only [hd, Bool.not_true, Bool.false_eq_true, if_false]
              have htlb : (writeTLB i { e with pte := x }).run s = .ok ((), updatedEntry s i e x) :=
                rfl
              rw [Exec.run_bind_of_ok htlb]
              have hlegal : PmpLegal (updatedEntry s i e x) := h.of_samePmp ⟨rfl, rfl⟩
              rcases decided_writePte hlegal htr.valid (e.pteAddr.setWidth xlen) with hw | hw
              · obtain ⟨err, s', hrun⟩ := hw x
                refine Or.inr ⟨⟨hd, p, q, i, e, x, htr, hlook, hb, hx, err, s', hrun⟩, ?_⟩
                rw [Exec.run_bind_of_ok hrun]
                rfl
              · obtain ⟨b, s', hrun⟩ := hw x
                rw [Exec.run_bind_of_ok hrun]
                exact Or.inl ⟨_, _, rfl⟩

/-- A hit that is refused aborts. -/
theorem HitRefused.run (h : HitRefused s va ac) :
    (translateAddr va ac).run s = .error (.internalError "invalid physical address in TLB") := by
  obtain ⟨hd, p, q, i, e, x, htr, hlook, hperm, hx, err, s', hrun⟩ := h
  rw [run_translateAddr_of_translates htr]
  apply Exec.run_bind_of_error
  unfold translateIn
  rw [run_translate_hit hlook, run_hit_of_allowed hperm, hx]
  simp only [hd, Bool.not_true, Bool.false_eq_true, if_false]
  have htlb : (writeTLB i { e with pte := x }).run s = .ok ((), updatedEntry s i e x) := rfl
  rw [Exec.run_bind_of_ok htlb, Exec.run_bind_of_ok hrun]
  rfl

/-- **The translation of an address completes, or aborts because a hit is refused.** -/
theorem translateAddr_completes (h : ChecksLegal s) (hm : LegalMstatus s.mstatus) (va : Xlenbits)
    (ac : AccessType) :
    (∃ r s', (translateAddr va ac).run s = .ok (r, s')) ∨ HitRefused s va ac := by
  obtain ⟨q, hq⟩ := effectivePrivilege_ok hm ac s.curPrivilege
  obtain ⟨m, hmode⟩ := h.translationMode q
  cases hp : svParams m with
  | none => exact Or.inl ⟨_, _, run_translateAddr_of_off ⟨q, m, hq, hmode, hp⟩ va⟩
  | some p =>
      cases hvalid : (m == .Sv32 || isValidVAddr p (va.setWidth 64)) with
      | false =>
          have hpriv : (Exec.checks (fun s : State => effectivePrivilege ac s.mstatus
              s.curPrivilege)).run s = .ok (q, s) := Exec.run_checks_ok.mpr ⟨hq, rfl⟩
          have htrans : (Exec.checks (fun s : State => SailRiscv.translationMode s q)).run s
              = .ok (m, s) := Exec.run_checks_ok.mpr ⟨hmode, rfl⟩
          unfold translateAddr
          rw [Exec.run_bind_of_ok hpriv, Exec.run_bind_of_ok htrans]
          simp only [hp, hvalid]
          exact Or.inl ⟨_, _, rfl⟩
      | true =>
          have htr : Translates s va ac p q := ⟨hq, m, hmode, hp, hvalid⟩
          have hdone (hin : ∃ r s', (translateIn s p va ac q).run s = .ok (r, s')) :
              ∃ r s', (translateAddr va ac).run s = .ok (r, s') := by
            obtain ⟨r, s', hrun⟩ := hin
            rw [run_translateAddr_of_translates htr, Exec.run_bind_of_ok hrun]
            exact ⟨_, _, rfl⟩
          cases hlook : lookupIn s va with
          | none => exact Or.inl (hdone (translateIn_ok_of_miss h.pmp htr hlook))
          | some ie =>
              obtain ⟨i, e⟩ := ie
              rcases translateIn_of_hit h.pmp htr hlook with hin | ⟨hrefused, -⟩
              · exact Or.inl (hdone hin)
              · exact Or.inr hrefused

end Completes

/-! ## Reachable states -/

/-- **Translations complete in every reachable state.**  Whatever the machine has run, the
translation of every address for every access returns an address or a failure, unless the
access hits an entry whose PTE cannot be written back: then, and only then, the model aborts. -/
theorem translation_completes [SoftFloat] {entry : Xlenbits} {s₀ s : State}
    {path : List (State × Turn × State)} (hboot : Boots entry s₀)
    (hrun : Trace Turns s₀ path s) (va : Xlenbits) (ac : AccessType) :
    ((∃ r s', (translateAddr va ac).run s = .ok (r, s')) ↔ ¬ HitRefused s va ac)
      ∧ (HitRefused s va ac ↔ (translateAddr va ac).run s
          = .error (.internalError "invalid physical address in TLB")) := by
  have hlegal := checksLegal_of_trace hboot hrun
  have hm := (mstatusLegal_of_trace hboot hrun).mstatus
  have habort (h : HitRefused s va ac) : ¬ ∃ r s', (translateAddr va ac).run s = .ok (r, s') := by
    rintro ⟨r, s', hok⟩
    rw [h.run] at hok
    cases hok
  have hcomplete := translateAddr_completes hlegal hm va ac
  constructor
  · constructor
    · intro hok hrefused
      exact habort hrefused hok
    · intro hno
      exact hcomplete.resolve_right hno
  · constructor
    · exact HitRefused.run
    · intro herr
      rcases hcomplete with ⟨r, s', hok⟩ | hrefused
      · rw [herr] at hok
        cases hok
      · exact hrefused

/-- A memory with a superpage for the address 0, and with a program that sets `satp`, sends its data
accesses through the translation of Supervisor mode and loads from the address 0. -/
def loadThroughMem : ℕ → BitVec 8 :=
  Bytes.write (Bytes.write (fun _ => 0#8) 0x80000000 4 0x20000047#32) 0x80002000 24
    (0x00002203#32 ++ 0x30019073#32 ++ 0x80018193#32 ++ 0x000211B7#32 ++ 0x18009073#32
      ++ 0x800800B7#32)

omit [Platform] in
/-- After the program a write to the address 0 hits the entry that the load has made, and its
translation completes. -/
theorem translation_completes_loadThrough :
    letI := rv32DirtyUpdate true
    letI : SoftFloat := default
    ∃ s₀ path s s', Boots 0x80002000#_ s₀ ∧ Trace Turns s₀ path s ∧ path.length = 6
      ∧ (lookupIn s 0#_).isSome = true
      ∧ (translateAddr 0#_ .Write).run s = .ok (.TR_Address 0x80000000#_, s')
      ∧ ¬ HitRefused s 0#_ .Write := by
  let := rv32DirtyUpdate true
  let : SoftFloat := default
  have hall : (runSteps 0x80002000#_ 6).passes (State.zero loadThroughMem) (fun _ s =>
      (lookupIn s 0#_).isSome && (translateAddr 0#_ .Write).passes s (fun r _ =>
        r == .TR_Address 0x80000000#_)) = true := by
    decide +kernel
  obtain ⟨⟨⟩, s, hrun, htest⟩ := Exec.passes_iff.mp hall
  obtain ⟨hhit, htranslates⟩ := Bool.and_eq_true_iff.mp htest
  obtain ⟨r, s', htr, hr⟩ := Exec.passes_iff.mp htranslates
  rw [beq_iff_eq.mp hr] at htr
  obtain ⟨s₀, path, hboot, htrace, hlen⟩ := exists_trace_of_runSteps hrun
  exact ⟨s₀, path, s, s', hboot, htrace, hlen, hhit, htr,
    (translation_completes hboot htrace _ _).1.mp ⟨_, s', htr⟩⟩

end SailRiscv
