/-
# Overlapping clauses of the decoder

A word that two clauses of `encdec` match is one of `zext.h` and one of `pack` or `packw` whose
second operand is `x0`; they execute in the same way.  All other clauses exclude each other, the
fences and their reserved forms included.
-/
import SailRiscv.RoundTripInsts
import SailRiscv.SysControl

namespace SailRiscv

open Bits Platform

variable [Platform]

/-! ## Clauses that match a word -/

/-- What the right-hand side of a clause requires and the left-hand side does not. -/
def Ast.Decodable : Ast → Prop
  | .BASE i => i.Decodable
  | _ => True

/-- A clause of `encdec` matches the word `w` and gives `t`. -/
def Ast.Matches (s : State) (w : BitVec 32) (t : Ast) : Prop :=
  t.encode s = some w ∧ t.Decodable

/-- The family of an instruction. -/
def Ast.owner : Ast → Owner
  | .ZIFENCEI _ => .ZIFENCEI
  | .ATOMIC _ => .ATOMIC
  | .MUL _ => .MUL
  | .CSR _ => .CSR
  | .FENCE_HINT _ => .FENCE_HINT
  | .SVINVAL _ => .SVINVAL
  | .ZBA _ => .ZBA
  | .ZBB _ => .ZBB
  | .ZBC _ => .ZBC
  | .ZKN _ => .ZKN
  | .ZBKB _ => .ZBKB
  | .CACHE_BLOCK _ => .CACHE_BLOCK
  | _ => .BASE

/-- What a family decodes from a word. -/
def decodeIn (s : State) (w : BitVec 32) : Owner → Option Ast
  | .BASE => (BaseInst.decode w).map .BASE
  | .ZIFENCEI => (ZifenceiInst.decode s w).map .ZIFENCEI
  | .ATOMIC => (AtomicInst.decode s w).map .ATOMIC
  | .MUL => (MulInst.decode s w).map .MUL
  | .CSR => (ZicsrInst.decode w).map .CSR
  | .FENCE_HINT => (FenceHintInst.decode w).map .FENCE_HINT
  | .SVINVAL => (SvinvalInst.decode s w).map .SVINVAL
  | .ZBA => (ZbaInst.decode s w).map .ZBA
  | .ZBB => (ZbbInst.decode s w).map .ZBB
  | .ZBC => (ZbcInst.decode s w).map .ZBC
  | .ZKN => (ZknInst.decode s w).map .ZKN
  | .ZBKB => (ZbkbInst.decode s w).map .ZBKB
  | .CACHE_BLOCK => (CacheBlockInst.decode s w).map .CACHE_BLOCK
  | .PACKS => none

/-- The clauses of `zext.h`, `pack` and `packw`. -/
def Ast.FromPacks (w : BitVec 32) : Ast → Prop
  | .ZBB i => i.FromPacks w
  | .ZBKB i => i.FromPacks w
  | _ => False

/-- A clause that matches a word is the one that its family decodes. -/
theorem Ast.Matches.decodeIn {s : State} {w : BitVec 32} {t : Ast} (h : t.Matches s w) :
    decodeIn s w t.owner = some t := by
  obtain ⟨henc, hdec⟩ := h
  cases t with
  | BASE i => exact congrArg (Option.map Ast.BASE) (BaseInst.decode_of_encode henc hdec)
  | ZIFENCEI i => exact congrArg (Option.map Ast.ZIFENCEI) (ZifenceiInst.decode_of_encode henc)
  | ATOMIC i => exact congrArg (Option.map Ast.ATOMIC) (AtomicInst.decode_of_encode henc)
  | MUL i => exact congrArg (Option.map Ast.MUL) (MulInst.decode_of_encode henc)
  | CSR i => exact congrArg (Option.map Ast.CSR) (ZicsrInst.decode_of_encode henc)
  | FENCE_HINT i =>
      exact congrArg (Option.map Ast.FENCE_HINT) (FenceHintInst.decode_of_encode henc)
  | SVINVAL i => exact congrArg (Option.map Ast.SVINVAL) (SvinvalInst.decode_of_encode henc)
  | ZBA i => exact congrArg (Option.map Ast.ZBA) (ZbaInst.decode_of_encode henc)
  | ZBB i => exact congrArg (Option.map Ast.ZBB) (ZbbInst.decode_of_encode henc)
  | ZBC i => exact congrArg (Option.map Ast.ZBC) (ZbcInst.decode_of_encode henc)
  | ZKN i => exact congrArg (Option.map Ast.ZKN) (ZknInst.decode_of_encode henc)
  | ZBKB i => exact congrArg (Option.map Ast.ZBKB) (ZbkbInst.decode_of_encode henc)
  | CACHE_BLOCK i =>
      exact congrArg (Option.map Ast.CACHE_BLOCK) (CacheBlockInst.decode_of_encode henc)
  | _ => exact absurd henc nofun

/-- What a family decodes from a word encodes to it, and the word belongs to the family. -/
theorem encode_of_decodeIn {s : State} {w : BitVec 32} {o : Owner} {t : Ast}
    (h : decodeIn s w o = some t) :
    t.encode s = some w ∧ (owner w = t.owner ∨ t.FromPacks w) := by
  cases o with
  | BASE =>
      obtain ⟨i, hi, rfl⟩ := Option.map_eq_some_iff.mp h
      exact (BaseInst.encode_of_decode hi).imp_right Or.inl
  | ZIFENCEI =>
      obtain ⟨i, hi, rfl⟩ := Option.map_eq_some_iff.mp h
      exact (ZifenceiInst.encode_of_decode hi).imp_right Or.inl
  | ATOMIC =>
      obtain ⟨i, hi, rfl⟩ := Option.map_eq_some_iff.mp h
      exact (AtomicInst.encode_of_decode hi).imp_right Or.inl
  | MUL =>
      obtain ⟨i, hi, rfl⟩ := Option.map_eq_some_iff.mp h
      exact (MulInst.encode_of_decode hi).imp_right Or.inl
  | CSR =>
      obtain ⟨i, hi, rfl⟩ := Option.map_eq_some_iff.mp h
      exact (ZicsrInst.encode_of_decode hi).imp_right Or.inl
  | FENCE_HINT =>
      obtain ⟨i, hi, rfl⟩ := Option.map_eq_some_iff.mp h
      exact (FenceHintInst.encode_of_decode hi).imp_right Or.inl
  | SVINVAL =>
      obtain ⟨i, hi, rfl⟩ := Option.map_eq_some_iff.mp h
      exact (SvinvalInst.encode_of_decode hi).imp_right Or.inl
  | ZBA =>
      obtain ⟨i, hi, rfl⟩ := Option.map_eq_some_iff.mp h
      exact (ZbaInst.encode_of_decode hi).imp_right Or.inl
  | ZBB =>
      obtain ⟨i, hi, rfl⟩ := Option.map_eq_some_iff.mp h
      exact ZbbInst.encode_of_decode hi
  | ZBC =>
      obtain ⟨i, hi, rfl⟩ := Option.map_eq_some_iff.mp h
      exact (ZbcInst.encode_of_decode hi).imp_right Or.inl
  | ZKN =>
      obtain ⟨i, hi, rfl⟩ := Option.map_eq_some_iff.mp h
      exact (ZknInst.encode_of_decode hi).imp_right Or.inl
  | ZBKB =>
      obtain ⟨i, hi, rfl⟩ := Option.map_eq_some_iff.mp h
      exact ZbkbInst.encode_of_decode hi
  | CACHE_BLOCK =>
      obtain ⟨i, hi, rfl⟩ := Option.map_eq_some_iff.mp h
      exact (CacheBlockInst.encode_of_decode hi).imp_right Or.inl
  | PACKS => exact absurd h nofun

/-- The decoder gives shift amounts below `xlen` only. -/
theorem BaseInst.decodable_of_decode {w : BitVec 32} {i : BaseInst}
    (h : BaseInst.decode w = some i) : i.Decodable := by
  have hshamt (h₂₅ : (decide (xlen = 64) || bits w 25 1 == 0#1) = true) :
      xlen = 64 ∨ bits (bits w 20 6) 5 1 = 0b0#1 := by
    rw [bits_bits w 20 6 5 1 (by decide)]
    simpa using h₂₅
  unfold BaseInst.decode at h
  refine firstClause_some (P := fun i => BaseInst.Decodable i) ?_ h
  clear h
  simp only [List.mem_cons, forall_eq_or_imp, clause_eq_some, Option.map_eq_some_iff,
    List.not_mem_nil, false_imp_iff, implies_true, and_true, Option.ite_none_right_eq_some]
  and_intros
  all_goals
    first
      | rintro _ ⟨-, rfl⟩; trivial
      | rintro _ ⟨hc, rfl⟩; exact hshamt (Bool.and_eq_true_iff.mp hc).2
      | rintro _ ⟨_, -, rfl⟩; trivial
      | rintro _ ⟨-, _, -, rfl⟩; trivial

/-- The clauses that match a word are what the families decode from it. -/
theorem Ast.matches_iff {s : State} {w : BitVec 32} {t : Ast} :
    t.Matches s w ↔ SailRiscv.decodeIn s w t.owner = some t := by
  constructor
  · intro h
    exact h.decodeIn
  · intro h
    refine ⟨(encode_of_decodeIn h).1, ?_⟩
    cases t with
    | BASE i =>
        obtain ⟨j, hj, hji⟩ := Option.map_eq_some_iff.mp h
        cases hji
        exact BaseInst.decodable_of_decode hj
    | _ => trivial

/-! ## `zext.h` and the packing instructions -/

/-- Packing with zero on RV32 extends with zeros. -/
theorem pack_zero (hx : xlen = 32) (v : Xlenbits) :
    BropZbkb.result .RISCV_PACK v 0#_ = ExtopZbb.result .RISCV_ZEXTH v := by
  have hhalf : xlenBytes * 4 = 16 := by rw [xlenBytes_mul_four, hx]
  unfold BropZbkb.result ExtopZbb.result
  apply BitVec.eq_of_getLsbD_eq
  intro k hk
  simp only [bits, BitVec.getLsbD_setWidth, BitVec.getLsbD_append, BitVec.getLsbD_extractLsb',
    BitVec.getLsbD_zero, hk, decide_true, Bool.true_and, Bool.and_false, hhalf, Nat.zero_add]
  by_cases h : k < 16
  · simp [h]
  · simp [h]

/-- Packing a word with zero on RV64 extends with zeros. -/
theorem packw_zero (v : Xlenbits) :
    (bits (0#_ : Xlenbits) 0 16 ++ bits v 0 16).signExtend xlen = ExtopZbb.result .RISCV_ZEXTH v := by
  unfold ExtopZbb.result
  have hx := xlen_ge
  have hmsb : (bits (0#_ : Xlenbits) 0 16 ++ bits v 0 16).msb = false := by
    rw [BitVec.msb_append]
    simp [bits]
  rw [BitVec.signExtend_eq_setWidth_of_msb_false hmsb]
  apply BitVec.eq_of_getLsbD_eq
  intro k hk
  simp only [bits, BitVec.getLsbD_setWidth, BitVec.getLsbD_append, BitVec.getLsbD_extractLsb',
    BitVec.getLsbD_zero, hk, decide_true, Bool.true_and, Bool.and_false, Nat.zero_add]
  by_cases h : k < 16
  · simp [h]
  · simp [h]

theorem run_zbbExtop (rs1 rd : Regidx) (op : ExtopZbb) (u : State) :
    (ZbbInst.ZBB_EXTOP rs1 rd op).execute.run u = (retireX rd (op.result (u.X rs1))).run u := by
  unfold ZbbInst.execute
  exact Exec.run_bind_of_ok (Exec.run_reads _ _)

theorem run_zbkbRtype (rs2 rs1 rd : Regidx) (op : BropZbkb) (u : State) :
    (ZbkbInst.ZBKB_RTYPE rs2 rs1 rd op).execute.run u
      = (retireX rd (op.result (u.X rs1) (u.X rs2))).run u := by
  unfold ZbkbInst.execute
  exact (Exec.run_bind_of_ok (Exec.run_reads _ _)).trans
    (Exec.run_bind_of_ok (Exec.run_reads _ _))

theorem run_packw (hx : xlen = 64) (rs2 rs1 rd : Regidx) (u : State) :
    (ZbkbInst.ZBKB_PACKW rs2 rs1 rd).execute.run u
      = (retireX rd ((bits (u.X rs2) 0 16 ++ bits (u.X rs1) 0 16).signExtend xlen)).run u := by
  unfold ZbkbInst.execute
  have hassert : (assert (decide (xlen = 64)) "" : M Unit).run u = .ok ((), u) := by
    rw [decide_eq_true hx]
    rfl
  exact (Exec.run_bind_of_ok hassert).trans ((Exec.run_bind_of_ok (Exec.run_reads _ _)).trans
    (Exec.run_bind_of_ok (Exec.run_reads _ _)))

/-- `zext.h` and the packing instruction with the same word execute in the same way. -/
theorem run_packs {w : BitVec 32} {i : ZbbInst} {j : ZbkbInst} (hi : i.FromPacks w)
    (hj : j.FromPacks w) (u : State) : i.execute.run u = j.execute.run u := by
  obtain ⟨rfl, hrs2, -, hop⟩ := hi
  have hX : u.X (rs2Of w) = (0#_ : Xlenbits) := by
    rw [hrs2]
    exact if_pos rfl
  rw [run_zbbExtop]
  rcases hj.2 with ⟨rfl, h₀⟩ | ⟨rfl, h₀⟩
  · rcases hop with ⟨-, hx⟩ | ⟨h₀', -⟩
    · rw [run_zbkbRtype, hX, pack_zero hx]
    · exact absurd (h₀.symm.trans h₀') (by decide)
  · rcases hop with ⟨h₀', -⟩ | ⟨-, hx⟩
    · exact absurd (h₀.symm.trans h₀') (by decide)
    · rw [run_packw hx, hX, packw_zero]

/-! ## Confluence -/

/-- Two clauses that match a word are the same, or one is of `zext.h` and one packs. -/
theorem Ast.Matches.eq_or_packs {s : State} {w : BitVec 32} {t t' : Ast} (h : t.Matches s w)
    (h' : t'.Matches s w) : t = t' ∨ t.FromPacks w ∧ t'.FromPacks w := by
  have hpacks {t : Ast} (hp : t.FromPacks w) : SailRiscv.owner w = .PACKS := by
    cases t with
    | ZBB i => exact hp.2.2.1
    | ZBKB i => exact hp.1
    | _ => exact hp.elim
  have hne (t : Ast) : t.owner ≠ .PACKS := by
    cases t <;> rintro ⟨⟩
  rcases (encode_of_decodeIn h.decodeIn).2 with ho | hp
  · rcases (encode_of_decodeIn h'.decodeIn).2 with ho' | hp'
    · have heq := h.decodeIn
      rw [← ho, ho', h'.decodeIn] at heq
      exact Or.inl (Option.some.inj heq).symm
    · exact absurd (ho.symm.trans (hpacks hp')) (hne t)
  · rcases (encode_of_decodeIn h'.decodeIn).2 with ho' | hp'
    · exact absurd (ho'.symm.trans (hpacks hp)) (hne t')
    · exact Or.inr ⟨hp, hp'⟩

/-- Two clauses that match a word execute in the same way. -/
theorem Ast.Matches.run_eq [SoftFloat] {s : State} {w : BitVec 32} {t t' : Ast}
    (h : t.Matches s w) (h' : t'.Matches s w) (u : State) : t.execute.run u = t'.execute.run u := by
  rcases h.eq_or_packs h' with rfl | ⟨hp, hp'⟩
  · rfl
  · cases t with
    | ZBB i =>
        cases t' with
        | ZBB j =>
            have heq := h.decodeIn.symm.trans h'.decodeIn
            rw [Option.some.inj heq]
        | ZBKB j => exact run_packs hp hp' u
        | _ => exact hp'.elim
    | ZBKB i =>
        cases t' with
        | ZBB j => exact (run_packs hp' hp u).symm
        | ZBKB j =>
            have heq := h.decodeIn.symm.trans h'.decodeIn
            rw [Option.some.inj heq]
        | _ => exact hp'.elim
    | _ => exact hp.elim

/-- What the decoder yields, one of the families decodes, if the instruction can be encoded. -/
theorem decodeIn_of_decodeLegal {s : State} {w : BitVec 32} {t : Ast}
    (h : decodeLegal s w = some t) (ht : t.Encodable) : decodeIn s w t.owner = some t := by
  unfold decodeLegal at h
  refine firstClause_some (P := fun t => t.Encodable → decodeIn s w t.owner = some t) ?_ h ht
  simp only [List.mem_cons, forall_eq_or_imp, Option.map_eq_some_iff, List.not_mem_nil,
    false_imp_iff, implies_true, and_true]
  and_intros
  all_goals
    rintro _ ⟨i, hi, rfl⟩ henc
    first
      | exact henc.elim
      | exact Option.map_eq_some_iff.mpr ⟨i, hi, rfl⟩

/-- Encoding inverts decoding, and clauses that match the same word execute in the same way. -/
theorem encdec_round_trip [SoftFloat] (s : State) (w : BitVec 32) :
    (∀ t : Ast, decodeLegal s w = some t → t.Encodable →
      t.Matches s w ∧ ∃ w' t', t.encode s = some w' ∧ w' = w ∧ decodeLegal s w' = some t'
        ∧ ∀ u, t'.execute.run u = t.execute.run u)
      ∧ ∀ t t' : Ast, t.Matches s w → t'.Matches s w →
        ∀ u, t.execute.run u = t'.execute.run u := by
  constructor
  · intro t h henc
    have hmatch := Ast.matches_iff.mpr (decodeIn_of_decodeLegal h henc)
    exact ⟨hmatch, w, t, hmatch.1, rfl, h, fun _ => rfl⟩
  · intro t t' h h' u
    exact h.run_eq h' u

end SailRiscv
