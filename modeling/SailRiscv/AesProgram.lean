/-
# AES on RV64

The instructions for a round, put together to a program for any number of rounds: the program
that encrypts a block and the one that decrypts it run on registers of the caller's choice, and
run one after the other they give the block back.
-/
import SailRiscv.Aes
import SailRiscv.Insts.Base
import SailRiscv.Lib.RoundCipher

namespace SailRiscv

open Bits Platform

/-! ## The cipher on blocks -/

/-- A block, or the key of a round, in two halves. -/
structure AesBlock where
  hi : BitVec 64
  lo : BitVec 64

namespace AesBlock

/-- A round that the instructions `f` compute, before the key is added. -/
def round (f : AesRound) (b : AesBlock) : AesBlock := ⟨f.value b.lo b.hi, f.value b.hi b.lo⟩

/-- Both columns of both halves mixed. -/
def mapColumns (g : BitVec 32 → BitVec 32) (b : AesBlock) : AesBlock :=
  ⟨g (bits b.hi 32 32) ++ g (bits b.hi 0 32), g (bits b.lo 32 32) ++ g (bits b.lo 0 32)⟩

/-- A key added to a block. -/
def addKey (b k : AesBlock) : AesBlock := ⟨b.hi ^^^ k.hi, b.lo ^^^ k.lo⟩

/-- The halves of a half that is mixed. -/
theorem mixHalf_inv_fwd (x : BitVec 64) :
    aesMixcolumnInv (bits (aesMixcolumnFwd (bits x 32 32) ++ aesMixcolumnFwd (bits x 0 32)) 32 32)
      ++ aesMixcolumnInv (bits (aesMixcolumnFwd (bits x 32 32) ++ aesMixcolumnFwd (bits x 0 32))
        0 32) = x := by
  have hlow (a b : BitVec 32) : bits (a ++ b) 0 32 = b := BitVec.extractLsb'_append_eq_right
  have hhigh (a b : BitVec 32) : bits (a ++ b) 32 32 = a := BitVec.extractLsb'_append_eq_left
  rw [hlow, hhigh, aesMixcolumnInv_fwd, aesMixcolumnInv_fwd]
  exact BitVec.extractLsb'_append_extractLsb'

/-- The inverse mixing of a column is linear. -/
theorem aesMixcolumnInv_xor (x y : BitVec 32) :
    aesMixcolumnInv (x ^^^ y) = aesMixcolumnInv x ^^^ aesMixcolumnInv y := by
  refine eq_of_lane_eq (show 32 ≤ 8 * 4 by omega) ?_
  intro j hj
  rw [lane_aesMixcolumnInv _ hj, lane_xor, lane_aesMixcolumnInv _ hj, lane_aesMixcolumnInv _ hj,
    ← mixed_mixInv_xor]
  refine mixed_congr ?_ j
  intro a ha
  rw [lane_xor]

/-- So is that of a half. -/
theorem mixHalf_inv_xor (x y : BitVec 64) :
    aesMixcolumnInv (bits (x ^^^ y) 32 32) ++ aesMixcolumnInv (bits (x ^^^ y) 0 32)
      = (aesMixcolumnInv (bits x 32 32) ++ aesMixcolumnInv (bits x 0 32))
        ^^^ (aesMixcolumnInv (bits y 32 32) ++ aesMixcolumnInv (bits y 0 32)) := by
  have hbits (lo : ℕ) : bits (x ^^^ y) lo 32 = bits x lo 32 ^^^ bits y lo 32 :=
    BitVec.extractLsb'_xor
  rw [hbits, hbits, aesMixcolumnInv_xor, aesMixcolumnInv_xor, BitVec.xor_append]

/-- A key added twice. -/
theorem xor_xor_key (x k : BitVec 64) : x ^^^ k ^^^ k = x := by
  rw [BitVec.xor_assoc, BitVec.xor_self, BitVec.xor_zero]

/-- The cipher whose parts the instructions compute. -/
def cipher : RoundCipher AesBlock where
  sub := round .ES
  subInv := round .DS
  mix := mapColumns aesMixcolumnFwd
  mixInv := mapColumns aesMixcolumnInv
  add := addKey
  subInv_sub b := congrArg₂ mk (AesRound.ds_es b.lo b.hi) (AesRound.ds_es b.hi b.lo)
  mixInv_mix b := congrArg₂ mk (mixHalf_inv_fwd b.hi) (mixHalf_inv_fwd b.lo)
  mixInv_add b k := congrArg₂ mk (mixHalf_inv_xor b.hi k.hi) (mixHalf_inv_xor b.lo k.lo)
  add_add b k := congrArg₂ mk (xor_xor_key b.hi k.hi) (xor_xor_key b.lo k.lo)

end AesBlock

/-! ## The programs -/

section

variable [Platform]

/-- The registers of the program: the halves of the block, those of the next block and those of
the key of the round.  They are different, and none is `x0`. -/
structure AesRegs where
  lo : Regidx
  hi : Regidx
  nextLo : Regidx
  nextHi : Regidx
  keyLo : Regidx
  keyHi : Regidx
  nodup : [0#5, lo, hi, nextLo, nextHi, keyLo, keyHi].Nodup

/-- The instructions retire one after the other. -/
def RetireAll : List (M Retired) → State → State → Prop
  | [], s, s' => s' = s
  | m :: ms, s, s' => ∃ s₁, m.run s = .ok (.RETIRE_SUCCESS, s₁) ∧ RetireAll ms s₁ s'

theorem RetireAll.append {ms ns : List (M Retired)} {s s₁ s' : State} (h : RetireAll ms s s₁)
    (h' : RetireAll ns s₁ s') : RetireAll (ms ++ ns) s s' := by
  induction ms generalizing s with
  | nil =>
      cases h
      exact h'
  | cons m ms ih =>
      obtain ⟨s₂, hm, hrest⟩ := h
      exact ⟨s₂, hm, ih hrest⟩

/-- Two registers hold the halves of a block. -/
structure BlockIn (lo hi : Regidx) (s : State) (b : AesBlock) : Prop where
  lo : s.X lo = b.lo.setWidth xlen
  hi : s.X hi = b.hi.setWidth xlen

namespace AesRegs

variable (ρ : AesRegs)

/-- The key of the round comes to its registers, as the loads before a round bring it. -/
def loadKey (k : AesBlock) : M Retired := do
  wX ρ.keyLo (k.lo.setWidth xlen)
  wX ρ.keyHi (k.hi.setWidth xlen)
  pure .RETIRE_SUCCESS

/-- `xor` of both halves with those of the key. -/
def addKey (srcLo srcHi : Regidx) : List (M Retired) :=
  [(BaseInst.RTYPE ρ.keyLo srcLo ρ.lo .RISCV_XOR).execute,
    (BaseInst.RTYPE ρ.keyHi srcHi ρ.hi .RISCV_XOR).execute]

/-- A round that the instructions `f` compute. -/
def round (f : AesRound) : List (M Retired) :=
  [(f.aes64 ρ.hi ρ.lo ρ.nextLo).execute, (f.aes64 ρ.lo ρ.hi ρ.nextHi).execute]

/-- `aes64im` of both halves of the key. -/
def mixKey : List (M Retired) :=
  [(ZknInst.AES64IM ρ.keyLo ρ.keyLo).execute, (ZknInst.AES64IM ρ.keyHi ρ.keyHi).execute]

/-- A round and its key. -/
def forwardRound (f : AesRound) (k : AesBlock) : List (M Retired) :=
  ρ.loadKey k :: (ρ.round f ++ ρ.addKey ρ.nextLo ρ.nextHi)

/-- A round of the decryption, with its key mixed. -/
def backwardRound (k : AesBlock) : List (M Retired) :=
  ρ.loadKey k :: (ρ.mixKey ++ (ρ.round .DSM ++ ρ.addKey ρ.nextLo ρ.nextHi))

/-- The program that encrypts. -/
def encrypt (first : AesBlock) (keys : List AesBlock) (last : AesBlock) : List (M Retired) :=
  (ρ.loadKey first :: ρ.addKey ρ.lo ρ.hi)
    ++ (keys.flatMap (ρ.forwardRound .ESM) ++ ρ.forwardRound .ES last)

/-- The program that decrypts. -/
def decrypt (first : AesBlock) (keys : List AesBlock) (last : AesBlock) : List (M Retired) :=
  (ρ.loadKey last :: ρ.addKey ρ.lo ρ.hi)
    ++ (keys.reverse.flatMap ρ.backwardRound ++ ρ.forwardRound .DS first)

/-! ## What the programs compute -/

variable {ρ} {s : State} {b k : AesBlock}

omit [Platform] in
/-- The registers are different. -/
theorem ne_of_nodup (ρ : AesRegs) :
    [ρ.lo, ρ.hi, ρ.nextLo, ρ.nextHi, ρ.keyLo, ρ.keyHi].Nodup
      ∧ ∀ r ∈ [ρ.lo, ρ.hi, ρ.nextLo, ρ.nextHi, ρ.keyLo, ρ.keyHi], r ≠ 0#5 := by
  obtain ⟨hzero, hrest⟩ := List.nodup_cons.mp ρ.nodup
  refine ⟨hrest, ?_⟩
  rintro r hr rfl
  exact hzero hr

/-- The key comes to its registers, and the block stays where it is. -/
theorem retire_loadKey (h : BlockIn ρ.lo ρ.hi s b) (k : AesBlock) :
    ∃ s', (ρ.loadKey k).run s = .ok (.RETIRE_SUCCESS, s') ∧ BlockIn ρ.lo ρ.hi s' b
      ∧ BlockIn ρ.keyLo ρ.keyHi s' k := by
  obtain ⟨hne, hzero⟩ := ρ.ne_of_nodup
  refine ⟨_, rfl, ⟨?_, ?_⟩, ⟨?_, ?_⟩⟩
  all_goals
    simp only [State.X_setX]
    grind [BlockIn]

/-- The key is added to the halves in `srcLo` and `srcHi`. -/
theorem retire_addKey {srcLo srcHi : Regidx} (hsrc : srcHi ≠ ρ.lo) (h : BlockIn srcLo srcHi s b)
    (hk : BlockIn ρ.keyLo ρ.keyHi s k) :
    ∃ s', RetireAll (ρ.addKey srcLo srcHi) s s' ∧ BlockIn ρ.lo ρ.hi s' (b.addKey k) := by
  obtain ⟨hne, hzero⟩ := ρ.ne_of_nodup
  refine ⟨_, ⟨_, rfl, _, rfl, rfl⟩, ?_, ?_⟩
  all_goals
    unfold AesBlock.addKey
    simp only [State.X_setX, BitVec.setWidth_xor, Rop.result]
    grind [BlockIn]

/-- A round goes to the registers of the next block, and the key stays where it is. -/
theorem retire_round (h64 : xlen = 64) (f : AesRound) (h : BlockIn ρ.lo ρ.hi s b)
    (hk : BlockIn ρ.keyLo ρ.keyHi s k) :
    ∃ s', RetireAll (ρ.round f) s s' ∧ BlockIn ρ.nextLo ρ.nextHi s' (b.round f)
      ∧ BlockIn ρ.keyLo ρ.keyHi s' k := by
  obtain ⟨hne, hzero⟩ := ρ.ne_of_nodup
  have hlo := f.writes_aes64 h64 b.hi b.lo ρ.hi ρ.lo ρ.nextLo s h.hi h.lo
  -- the block is still there for the second instruction, as the first writes the next block
  have hhi := f.writes_aes64 h64 b.lo b.hi ρ.lo ρ.hi ρ.nextHi
    (s.setX ρ.nextLo ((f.value b.hi b.lo).setWidth xlen))
    (by simp only [State.X_setX]; grind [BlockIn]) (by simp only [State.X_setX]; grind [BlockIn])
  refine ⟨_, ⟨_, hlo, _, hhi, rfl⟩, ⟨?_, ?_⟩, ⟨?_, ?_⟩⟩
  all_goals
    simp only [State.X_setX, AesBlock.round]
    grind [BlockIn]

/-- The key is mixed, and the block stays where it is. -/
theorem retire_mixKey (h64 : xlen = 64) (h : BlockIn ρ.lo ρ.hi s b)
    (hk : BlockIn ρ.keyLo ρ.keyHi s k) :
    ∃ s', RetireAll ρ.mixKey s s' ∧ BlockIn ρ.lo ρ.hi s' b
      ∧ BlockIn ρ.keyLo ρ.keyHi s' (k.mapColumns aesMixcolumnInv) := by
  obtain ⟨hne, hzero⟩ := ρ.ne_of_nodup
  have hlo := writes_aes64im h64 k.lo ρ.keyLo ρ.keyLo s hk.lo
  have hhi := writes_aes64im h64 k.hi ρ.keyHi ρ.keyHi
    (s.setX ρ.keyLo ((aesMixcolumnInv (bits k.lo 32 32)
      ++ aesMixcolumnInv (bits k.lo 0 32)).setWidth xlen))
    (by simp only [State.X_setX]; grind [BlockIn])
  refine ⟨_, ⟨_, hlo, _, hhi, rfl⟩, ⟨?_, ?_⟩, ⟨?_, ?_⟩⟩
  all_goals
    simp only [State.X_setX, AesBlock.mapColumns]
    grind [BlockIn]

/-- A round and its key. -/
theorem retire_forwardRound (h64 : xlen = 64) (f : AesRound) (k : AesBlock)
    (h : BlockIn ρ.lo ρ.hi s b) :
    ∃ s', RetireAll (ρ.forwardRound f k) s s' ∧ BlockIn ρ.lo ρ.hi s' ((b.round f).addKey k) := by
  obtain ⟨hne, hzero⟩ := ρ.ne_of_nodup
  obtain ⟨s₁, hload, hb, hk⟩ := retire_loadKey h k
  obtain ⟨s₂, hround, hnext, hk⟩ := retire_round h64 f hb hk
  obtain ⟨s₃, hadd, hend⟩ := retire_addKey (by grind) hnext hk
  exact ⟨s₃, ⟨s₁, hload, hround.append hadd⟩, hend⟩

/-- A round of the decryption. -/
theorem retire_backwardRound (h64 : xlen = 64) (k : AesBlock) (h : BlockIn ρ.lo ρ.hi s b) :
    ∃ s', RetireAll (ρ.backwardRound k) s s'
      ∧ BlockIn ρ.lo ρ.hi s' (AesBlock.cipher.backward b k) := by
  obtain ⟨hne, hzero⟩ := ρ.ne_of_nodup
  obtain ⟨s₁, hload, hb, hk⟩ := retire_loadKey h k
  obtain ⟨s₂, hmix, hb, hk⟩ := retire_mixKey h64 hb hk
  obtain ⟨s₃, hround, hnext, hk⟩ := retire_round h64 .DSM hb hk
  obtain ⟨s₄, hadd, hend⟩ := retire_addKey (by grind) hnext hk
  exact ⟨s₄, ⟨s₁, hload, hmix.append (hround.append hadd)⟩, hend⟩

/-- The rounds for a list of keys. -/
theorem retire_rounds {program : AesBlock → List (M Retired)}
    {step : AesBlock → AesBlock → AesBlock}
    (hstep : ∀ {s b} k, BlockIn ρ.lo ρ.hi s b →
      ∃ s', RetireAll (program k) s s' ∧ BlockIn ρ.lo ρ.hi s' (step b k))
    (keys : List AesBlock) (h : BlockIn ρ.lo ρ.hi s b) :
    ∃ s', RetireAll (keys.flatMap program) s s' ∧ BlockIn ρ.lo ρ.hi s' (keys.foldl step b) := by
  induction keys generalizing s b with
  | nil => exact ⟨s, rfl, h⟩
  | cons k keys ih =>
      obtain ⟨s₁, hround, hb⟩ := hstep k h
      obtain ⟨s₂, hrest, hend⟩ := ih hb
      exact ⟨s₂, hround.append hrest, hend⟩

/-- The first key. -/
theorem retire_firstKey (k : AesBlock) (h : BlockIn ρ.lo ρ.hi s b) :
    ∃ s', RetireAll (ρ.loadKey k :: ρ.addKey ρ.lo ρ.hi) s s'
      ∧ BlockIn ρ.lo ρ.hi s' (b.addKey k) := by
  obtain ⟨hne, hzero⟩ := ρ.ne_of_nodup
  obtain ⟨s₁, hload, hb, hk⟩ := retire_loadKey h k
  obtain ⟨s₂, hadd, hend⟩ := retire_addKey (by grind) hb hk
  exact ⟨s₂, ⟨s₁, hload, hadd⟩, hend⟩

/-- What the program that encrypts computes. -/
theorem retire_encrypt (h64 : xlen = 64) (first : AesBlock) (keys : List AesBlock)
    (last : AesBlock) (h : BlockIn ρ.lo ρ.hi s b) :
    ∃ s', RetireAll (ρ.encrypt first keys last) s s'
      ∧ BlockIn ρ.lo ρ.hi s' (AesBlock.cipher.encrypt first keys last b) := by
  obtain ⟨s₁, hfirst, hb⟩ := retire_firstKey first h
  obtain ⟨s₂, hrounds, hb⟩ := retire_rounds (fun k h => retire_forwardRound h64 .ESM k h) keys hb
  obtain ⟨s₃, hlast, hb⟩ := retire_forwardRound h64 .ES last hb
  exact ⟨s₃, hfirst.append (hrounds.append hlast), hb⟩

/-- What the program that decrypts computes. -/
theorem retire_decrypt (h64 : xlen = 64) (first : AesBlock) (keys : List AesBlock)
    (last : AesBlock) (h : BlockIn ρ.lo ρ.hi s b) :
    ∃ s', RetireAll (ρ.decrypt first keys last) s s'
      ∧ BlockIn ρ.lo ρ.hi s' (AesBlock.cipher.decrypt first keys last b) := by
  obtain ⟨s₁, hfirst, hb⟩ := retire_firstKey last h
  obtain ⟨s₂, hrounds, hb⟩ := retire_rounds (fun k h => retire_backwardRound h64 k h)
    keys.reverse hb
  obtain ⟨s₃, hlast, hb⟩ := retire_forwardRound h64 .DS first hb
  exact ⟨s₃, hfirst.append (hrounds.append hlast), hb⟩

end AesRegs

/-- **AES of any number of rounds.**  Whatever the keys, the registers and the state, the program
that encrypts and then the one that decrypts retire, and the block is back in its registers. -/
theorem aes_program_inverse (h64 : xlen = 64) (ρ : AesRegs) (first : AesBlock)
    (keys : List AesBlock) (last : AesBlock) {s : State} {b : AesBlock}
    (h : BlockIn ρ.lo ρ.hi s b) :
    ∃ s₁ s₂, RetireAll (ρ.encrypt first keys last) s s₁
      ∧ RetireAll (ρ.decrypt first keys last) s₁ s₂ ∧ BlockIn ρ.lo ρ.hi s₂ b := by
  obtain ⟨s₁, hencrypt, hcipher⟩ := AesRegs.retire_encrypt h64 first keys last h
  obtain ⟨s₂, hdecrypt, hblock⟩ := AesRegs.retire_decrypt h64 first keys last hcipher
  rw [RoundCipher.decrypt_encrypt] at hblock
  exact ⟨s₁, s₂, hencrypt, hdecrypt, hblock⟩

end

/-- The registers `x1` to `x6`. -/
def AesRegs.first : AesRegs := ⟨1#5, 2#5, 3#5, 4#5, 5#5, 6#5, by decide⟩

/-- Two rounds on RV64 as it is built. -/
theorem aes_program_inverse_built :
    letI := rv64Pmp 0 (by decide)
    ∃ s₁ s₂ : State,
      RetireAll (AesRegs.first.encrypt ⟨3#64, 4#64⟩ [⟨5#64, 6#64⟩] ⟨7#64, 8#64⟩)
        (((State.zero fun _ => 0#8).setX 1#5 1#64).setX 2#5 2#64) s₁
      ∧ RetireAll (AesRegs.first.decrypt ⟨3#64, 4#64⟩ [⟨5#64, 6#64⟩] ⟨7#64, 8#64⟩) s₁ s₂
      ∧ s₂.X 1#5 = 1#64 ∧ s₂.X 2#5 = 2#64 := by
  let := rv64Pmp 0 (by decide)
  have hstart : BlockIn AesRegs.first.lo AesRegs.first.hi
      (((State.zero fun _ => 0#8).setX 1#5 1#64).setX 2#5 2#64) ⟨2#64, 1#64⟩ := ⟨rfl, rfl⟩
  obtain ⟨s₁, s₂, hencrypt, hdecrypt, hblock⟩ :=
    aes_program_inverse rfl AesRegs.first ⟨3#64, 4#64⟩ [⟨5#64, 6#64⟩] ⟨7#64, 8#64⟩ hstart
  exact ⟨s₁, s₂, hencrypt, hdecrypt, hblock.lo, hblock.hi⟩

end SailRiscv
