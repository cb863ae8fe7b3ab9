/-
# Commands to the host

A store to `tohost` is executed if the port has seen a command and its payload was written, which
a counter of four bits records.  The counter is reset with the port, and only then: after
fifteen writes of commands that leave the port as it is the next command wraps the counter to
zero and is dropped (`htif_command_iff`).
-/
import SailRiscv.Devices
import SailRiscv.Lib.Run

namespace SailRiscv

open Bits Platform

variable [Platform]

/-! ## Stores -/

/-- A call of `htif_store`, for at most eight bytes. -/
structure HtifCall where
  paddr : Xlenbits
  width : ℕ
  data : BitVec (8 * width)
  pos : 0 < width
  le : width ≤ 8

/-- A completed call. -/
def HtifStep (c : HtifCall) (s s' : State) : Prop :=
  ∃ r, (htifStore c.paddr c.width c.data).run s = .ok (r, s')

/-- The state after a store. -/
def htifStored (paddr : Xlenbits) (n : ℕ) (data : BitVec (8 * n)) (s : State) : State :=
  if htifReady (htifWritePort paddr n data s) then htifExecute (htifWritePort paddr n data s)
  else htifWritePort paddr n data s

/-- Stores always complete. -/
theorem run_htifStore (paddr : Xlenbits) (n : ℕ) (data : BitVec (8 * n)) (s : State) :
    (htifStore paddr n data).run s = .ok (.MemValue true, htifStored paddr n data s) := rfl

/-- The store of a command of 64 bits to `tohost`. -/
def htifCommand (v : BitVec 64) (s : State) : State := htifStored platHtifTohost 8 v s

/-! ## Complete commands -/

omit [Platform] in
/-- Write a character to the terminal. -/
def IsTerminalWrite (v : BitVec 64) : Prop :=
  HtifCmd.device.get v = 0x01#8 ∧ HtifCmd.cmd.get v = 0x01#8

omit [Platform] in
/-- Stop the machine. -/
def IsExit (v : BitVec 64) : Prop :=
  HtifCmd.device.get v = 0x00#8 ∧ (HtifCmd.payload.get v).getLsbD 0 = true

/-- The port holds no command. -/
structure PortReset (s : State) : Prop where
  cmdWrite : s.htifCmdWrite = false
  payloadWrites : s.htifPayloadWrites = 0x0#4
  tohost : s.htifTohost = 0#64

/-- The machine has stopped with the exit code in the command. -/
def Stopped (v : BitVec 64) (s : State) : Prop :=
  s.htifDone = true ∧ s.htifExitCode = (HtifCmd.payload.get v).setWidth 64 >>> 1

/-- The command has been executed between the two states. -/
structure CommandDone (v : BitVec 64) (s s' : State) : Prop where
  terminal : IsTerminalWrite v →
    s'.termOutput = s.termOutput ++ [(HtifCmd.payload.get v).extractLsb' 0 8] ∧ PortReset s'
  exit : IsExit v → Stopped v s'

/-- The port after a command is written. -/
theorem htifWritePort_command (v : BitVec 64) (s : State) :
    htifWritePort platHtifTohost 8 v s
      = { s with
        htifCmdWrite := true
        htifPayloadWrites := s.htifPayloadWrites + 1#4
        htifTohost := v } := by
  unfold htifWritePort
  rw [if_pos rfl, BitVec.setWidth_eq]

omit [Platform] in
/-- The counter after a command is positive unless it wraps. -/
theorem counter_ready (n : BitVec 4) :
    (decide (0 < (n + 1#4).toNat) || decide (2 < (n + 1#4).toNat)) = decide (n ≠ 0xF#4) := by
  revert n
  decide

/-- A command is executed unless it makes the counter wrap. -/
theorem htifReady_command (v : BitVec 64) (s : State) :
    htifReady (htifWritePort platHtifTohost 8 v s) = decide (s.htifPayloadWrites ≠ 0xF#4) := by
  rw [htifWritePort_command]
  unfold htifReady
  exact counter_ready s.htifPayloadWrites

/-- A command that is executed is done. -/
theorem commandDone_of_execute (v : BitVec 64) (s : State) :
    CommandDone v s (htifExecute (htifWritePort platHtifTohost 8 v s)) := by
  rw [htifWritePort_command]
  unfold htifExecute
  constructor
  · rintro ⟨hdev, hcmd⟩
    dsimp only
    rw [if_neg (by rw [hdev]; decide), if_pos hdev, if_pos hcmd]
    exact ⟨rfl, rfl, rfl, rfl⟩
  · rintro ⟨hdev, hbit⟩
    dsimp only
    rw [if_pos hdev, if_pos hbit]
    exact ⟨rfl, rfl⟩

omit [Platform] in
/-- The two commands are for different devices. -/
theorem not_isExit_of_isTerminalWrite {v : BitVec 64} (h : IsTerminalWrite v) : ¬ IsExit v := by
  intro hexit
  exact absurd (h.1.symm.trans hexit.1) (by decide)

/-- A command that is dropped is not done, unless it asks for an exit that is recorded. -/
theorem commandDone_of_drop {v : BitVec 64} (hv : IsTerminalWrite v ∨ IsExit v) (s : State) :
    CommandDone v s (htifWritePort platHtifTohost 8 v s) ↔ IsExit v ∧ Stopped v s := by
  rw [htifWritePort_command]
  constructor
  · intro h
    rcases hv with hv | hv
    · have hlen := congrArg List.length (h.terminal hv).1
      simp at hlen
    · exact ⟨hv, h.exit hv⟩
  · rintro ⟨hexit, hstop⟩
    exact ⟨fun hterm => absurd hexit (not_isExit_of_isTerminalWrite hterm), fun _ => hstop⟩

/-! ## The law -/

section Law

variable {v : BitVec 64} {s s' : State} {r : MemoryOpResult Bool}
  (h : (htifStore platHtifTohost 8 v).run s = .ok (r, s'))

include h

/-- A store that does not make the counter wrap does its command. -/
theorem commandDone_of_ready (hwrap : s.htifPayloadWrites ≠ 0xF#4) : CommandDone v s s' := by
  rw [run_htifStore] at h
  cases h
  unfold htifStored
  rw [htifReady_command, if_pos (by simpa using hwrap)]
  exact commandDone_of_execute v s

/-- A store that makes the counter wrap is dropped. -/
theorem commandDone_of_wrap (hv : IsTerminalWrite v ∨ IsExit v)
    (hwrap : s.htifPayloadWrites = 0xF#4) : CommandDone v s s' ↔ IsExit v ∧ Stopped v s := by
  rw [run_htifStore] at h
  cases h
  unfold htifStored
  rw [htifReady_command, if_neg (by simpa using hwrap)]
  exact commandDone_of_drop hv s

end Law

/-- **A complete command is executed except when it makes the counter wrap**, in whatever state
earlier stores have left the port. -/
theorem htif_command_iff {v : BitVec 64} {s s' : State} {r : MemoryOpResult Bool}
    (hv : IsTerminalWrite v ∨ IsExit v)
    (h : (htifStore platHtifTohost 8 v).run s = .ok (r, s')) :
    CommandDone v s s' ↔ s.htifPayloadWrites ≠ 0xF#4 ∨ (IsExit v ∧ Stopped v s) := by
  by_cases hwrap : s.htifPayloadWrites = 0xF#4
  · rw [commandDone_of_wrap h hv hwrap]
    simp only [hwrap, ne_eq, not_true_eq_false, false_or]
  · exact iff_of_true (commandDone_of_ready h hwrap) (Or.inl hwrap)

/-! ## Histories -/

/-- A store adds at most one to the counter, or restarts it. -/
theorem payloadWrites_step {c : HtifCall} {s s' : State} (h : HtifStep c s s') :
    s'.htifPayloadWrites.toNat ≤ s.htifPayloadWrites.toNat + 1 := by
  have hport : (htifWritePort c.paddr c.width c.data s).htifPayloadWrites.toNat
      ≤ s.htifPayloadWrites.toNat + 1 := by
    have hinc : (s.htifPayloadWrites + 1#4).toNat ≤ s.htifPayloadWrites.toNat + 1 := by
      rw [BitVec.toNat_add]
      exact Nat.mod_le _ _
    have hone : (0x1#4).toNat ≤ s.htifPayloadWrites.toNat + 1 := Nat.le_add_left _ _
    unfold htifWritePort
    split
    · exact hinc
    · split
      · dsimp only
        split
        · exact hinc
        · exact hone
      · split
        · dsimp only
          split
          · exact hinc
          · exact hone
        · exact Nat.le_succ _
  have hexec (t : State) : (htifExecute t).htifPayloadWrites = t.htifPayloadWrites
      ∨ (htifExecute t).htifPayloadWrites = 0x0#4 := by
    unfold htifExecute resetHtif
    dsimp only
    split_ifs <;> first | exact Or.inl rfl | exact Or.inr rfl
  obtain ⟨r, hrun⟩ := h
  rw [run_htifStore] at hrun
  cases hrun
  unfold htifStored
  split
  · rcases hexec (htifWritePort c.paddr c.width c.data s) with he | he
    · rw [he]
      exact hport
    · rw [he]
      exact Nat.zero_le _
  · exact hport

/-- The state after a history of stores. -/
inductive HtifHistory (s₀ : State) : List HtifCall → State → Prop
  | nil : HtifHistory s₀ [] s₀
  | cons {c : HtifCall} {hist : List HtifCall} {s s' : State} : HtifHistory s₀ hist s →
      HtifStep c s s' → HtifHistory s₀ (c :: hist) s'

/-- The counter is at most the number of stores since the port was reset. -/
theorem payloadWrites_le {s₀ s : State} {hist : List HtifCall} (h₀ : PortReset s₀)
    (h : HtifHistory s₀ hist s) : s.htifPayloadWrites.toNat ≤ hist.length := by
  induction h with
  | nil => rw [h₀.payloadWrites]; rfl
  | cons _ hstep ih => exact (payloadWrites_step hstep).trans (Nat.succ_le_succ ih)

/-- Fewer than fifteen stores after a reset, no command is dropped. -/
theorem commandDone_of_short {v : BitVec 64} {s₀ s s' : State} {r : MemoryOpResult Bool}
    {hist : List HtifCall} (h₀ : PortReset s₀) (hist_run : HtifHistory s₀ hist s)
    (hlen : hist.length < 15) (h : (htifStore platHtifTohost 8 v).run s = .ok (r, s')) :
    CommandDone v s s' := by
  refine commandDone_of_ready h (fun hwrap => ?_)
  have hle := payloadWrites_le h₀ hist_run
  rw [hwrap] at hle
  exact absurd hle (by change ¬ 15 ≤ _; omega)

/-! ## The sixteenth command -/

/-- The store of a command that asks the host for nothing. -/
def nullCall : HtifCall := ⟨platHtifTohost, 8, 0#64, by decide, by decide⟩

/-- A history of such stores. -/
theorem htifHistory_null (s₀ : State) (n : ℕ) :
    HtifHistory s₀ (List.replicate n nullCall) ((htifCommand 0#64)^[n] s₀) := by
  induction n with
  | zero => exact .nil
  | succ n ih =>
      rw [Function.iterate_succ_apply', List.replicate_succ]
      exact .cons ih ⟨_, run_htifStore _ _ _ _⟩

omit [Platform] in
/-- The sixteenth of sixteen commands is not executed, and the terminal misses a character. -/
theorem htif_drops_sixteenth :
    ¬ ∀ [Platform] (s₁ s₀ s s' : State) (hist : List HtifCall) (v : BitVec 64)
      (r : MemoryOpResult Bool), initPlatform.run s₁ = .ok ((), s₀) → HtifHistory s₀ hist s →
      IsTerminalWrite v ∨ IsExit v → (htifStore platHtifTohost 8 v).run s = .ok (r, s') →
        CommandDone v s s' := by
  intro h
  let := rv64Pmp 16 (by decide)
  have hterm : IsTerminalWrite 0x0101000000000041#64 := by
    constructor <;> decide
  have hcount : ((htifCommand 0#64)^[15] (State.zero (fun _ => 0#8))).htifPayloadWrites = 0xF#4 :=
    by decide +kernel
  have hdone := h (State.zero (fun _ => 0#8)) (State.zero (fun _ => 0#8)) _ _ _ _ _ rfl
    (htifHistory_null _ 15) (Or.inl hterm) (run_htifStore _ _ _ _)
  obtain ⟨hexit, -⟩ := (commandDone_of_wrap (run_htifStore _ _ _ _) (Or.inl hterm) hcount).mp hdone
  exact not_isExit_of_isTerminalWrite hterm hexit

omit [Platform] in
/-- The first command is executed. -/
theorem htif_command_iff_first :
    letI := rv64Pmp 16 (by decide)
    ∃ s', CommandDone 0x0101000000000041#64 (State.zero (fun _ => 0#8)) s' := by
  let := rv64Pmp 16 (by decide)
  have hterm : IsTerminalWrite 0x0101000000000041#64 := by
    constructor <;> decide
  exact ⟨_, (htif_command_iff (s := State.zero (fun _ => 0#8)) (Or.inl hterm)
    (run_htifStore _ _ _ _)).mpr (Or.inl (by decide))⟩

end SailRiscv
