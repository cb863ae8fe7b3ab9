/-
# Decoding inverts encoding, family by family

`encode_of_decode`: what a family decodes from a word encodes to that word, and the word belongs
to the family.  `decode_of_encode`: what encodes to a word is decoded from it.
-/
import SailRiscv.RoundTrip

namespace SailRiscv

open Bits Platform

variable [Platform]

/-! ## Conditions of clauses -/

section Conditions

omit [Platform]

variable {l m n k : ℕ} {a a' : BitVec l} {b b' : BitVec m} {c c' : BitVec n} {d d' : BitVec k}
  {g : Bool}

theorem beq_and : (a == a' && g) = true ↔ a = a' ∧ g = true := by simp

theorem beq2_and : (a == a' && b == b' && g) = true ↔ a = a' ∧ b = b' ∧ g = true := by
  simp [and_assoc]

theorem beq3_and :
    (a == a' && b == b' && c == c' && g) = true ↔ a = a' ∧ b = b' ∧ c = c' ∧ g = true := by
  simp [and_assoc]

theorem beq4_and : (a == a' && b == b' && c == c' && d == d' && g) = true ↔
    a = a' ∧ b = b' ∧ c = c' ∧ d = d' ∧ g = true := by
  simp [and_assoc]

variable {α : Type} {i j : α} {g₁ g₂ : Bool}

/-- Of two clauses the first applies. -/
theorem firstClause_of_first (h₁ : g₁ = true) (hi : i = j) {l : List (Option α)} :
    firstClause (clause g₁ i :: l) = some j := by
  subst h₁ hi
  rfl

/-- Of two clauses the second applies. -/
theorem firstClause_of_second {i' : α} (h₁ : g₁ = false) (h₂ : g₂ = true) (hi : i = j)
    {l : List (Option α)} : firstClause (clause g₁ i' :: clause g₂ i :: l) = some j := by
  subst h₁ h₂ hi
  rfl

/-- Clauses are tried one after the other. -/
theorem firstClause_clause {α : Type} (c : Bool) (i : α) (l : List (Option α)) :
    firstClause (clause c i :: l) = if c = true then some i else firstClause l := by
  cases c <;> rfl

theorem firstClause_map {α β : Type} (c : Option α) (f : α → β) (l : List (Option β)) :
    firstClause (c.map f :: l) = (c.map f).or (firstClause l) := by
  cases c <;> rfl

theorem firstClause_ite {α : Type} (p : Prop) [Decidable p] (c : Option α)
    (l : List (Option α)) :
    firstClause ((if p then c else none) :: l) = if p then c.or (firstClause l) else firstClause l := by
  by_cases h : p
  · rw [if_pos h, if_pos h]
    cases c <;> rfl
  · rw [if_neg h, if_neg h]
    rfl

theorem clauses_eq_some {α : Type} {g₁ g₂ : Bool} {i₁ i₂ j : α}
    (h : firstClause [clause g₁ i₁, clause g₂ i₂] = some j) :
    g₁ = true ∧ i₁ = j ∨ g₂ = true ∧ i₂ = j := by
  cases g₁
  · cases g₂
    · exact absurd h nofun
    · exact Or.inr ⟨rfl, Option.some.inj h⟩
  · exact Or.inl ⟨rfl, Option.some.inj h⟩

end Conditions

/-! ## The base instructions -/

theorem encode_utype {w : BitVec 32} {op : Uop} (hop : encodeUop op = bits w 0 7) :
    (BaseInst.UTYPE (bits w 12 20) (rdOf w) op).encode = some w :=
  congrArg some (utypeWord_eq_iff.mpr ⟨rfl, rfl, hop⟩)

theorem encode_jal {w : BitVec 32} (h₀ : bits w 0 7 = 0b1101111#7) :
    (BaseInst.RISCV_JAL
      (bits w 31 1 ++ bits w 12 8 ++ bits w 20 1 ++ bits w 25 6 ++ bits w 21 4 ++ 0#1)
      (rdOf w)).encode = some w := by
  obtain ⟨h₁, h₂, h₃, h₄, h₅, h₆⟩ := jalImm_eq_iff.mp
    (rfl : bits w 31 1 ++ bits w 12 8 ++ bits w 20 1 ++ bits w 25 6 ++ bits w 21 4 ++ 0#1 = _)
  refine clause_eq_some.mpr ⟨beq_iff_eq.mpr h₆.symm, ?_⟩
  rw [← h₁, ← h₂, ← h₃, ← h₄, ← h₅]
  exact jalWord_eq_iff.mpr ⟨rfl, rfl, rfl, rfl, rfl, rfl, h₀.symm⟩

theorem encode_btype {w : BitVec 32} {op : Bop} (h₀ : bits w 0 7 = 0b1100011#7)
    (hop : encodeBop op = bits w 12 3) :
    (BaseInst.BTYPE (bits w 31 1 ++ bits w 7 1 ++ bits w 25 6 ++ bits w 8 4 ++ 0#1) (rs2Of w)
      (rs1Of w) op).encode = some w := by
  obtain ⟨h₁, h₂, h₃, h₄, h₅⟩ := btypeImm_eq_iff.mp
    (rfl : bits w 31 1 ++ bits w 7 1 ++ bits w 25 6 ++ bits w 8 4 ++ 0#1 = _)
  refine clause_eq_some.mpr ⟨beq_iff_eq.mpr h₅.symm, ?_⟩
  rw [← h₁, ← h₂, ← h₃, ← h₄, rtypeWord_eq_iff]
  unfold rdOf
  rw [append_eq_bits (m := 1) (n := 6), append_eq_bits (m := 4) (n := 1)]
  exact ⟨⟨rfl, rfl⟩, rfl, rfl, hop, ⟨rfl, rfl⟩, h₀.symm⟩

theorem encode_load {w : BitVec 32} (h₀ : bits w 0 7 = 0b0000011#7)
    (hsize : decide (sizeBytes (sizeDec (bits w 12 2)) < xlenBytes)
      || (!(bits w 14 1 == 1#1) && decide (sizeBytes (sizeDec (bits w 12 2)) ≤ xlenBytes))) :
    (BaseInst.LOAD (bits w 20 12) (rs1Of w) (rdOf w) (bits w 14 1 == 1#1)
      (sizeDec (bits w 12 2)) false false).encode = some w := by
  refine clause_eq_some.mpr
    ⟨by simpa using hsize, itypeWord_eq_iff.mpr ⟨rfl, rfl, ?_, rfl, h₀.symm⟩⟩
  rw [append_eq_bits (m := 1) (n := 2), boolToBits_beq_one, sizeEnc_sizeDec]
  exact ⟨rfl, rfl⟩

theorem encode_store {w : BitVec 32} (h₁₄ : bits w 14 1 = 0#1) (h₀ : bits w 0 7 = 0b0100011#7)
    (hsize : sizeBytes (sizeDec (bits w 12 2)) ≤ xlenBytes) :
    (BaseInst.STORE (bits w 25 7 ++ rdOf w) (rs2Of w) (rs1Of w) (sizeDec (bits w 12 2)) false
      false).encode = some w := by
  refine clause_eq_some.mpr ⟨by simpa using hsize, ?_⟩
  obtain ⟨h₁, h₂⟩ := storeImm_eq_iff.mp (rfl : bits w 25 7 ++ rdOf w = _)
  rw [← h₁, ← h₂, rtypeWord_eq_iff, append_eq_bits (m := 1) (n := 2), sizeEnc_sizeDec]
  exact ⟨rfl, rfl, rfl, ⟨h₁₄.symm, rfl⟩, rfl, h₀.symm⟩

section Families

-- fields of a word at different places are compared as they stand
attribute [local irreducible] bits

theorem BaseInst.encode_of_decode {w : BitVec 32} {i : BaseInst} (h : BaseInst.decode w = some i) :
    i.encode = some w ∧ owner w = .BASE := by
  unfold BaseInst.decode at h
  refine firstClause_some (P := fun i => BaseInst.encode i = some w ∧ owner w = .BASE) ?_ h
  clear h
  simp only [List.mem_cons, forall_eq_or_imp, clause_eq_some, Option.map_eq_some_iff,
    List.not_mem_nil, false_imp_iff, implies_true, and_true, Option.ite_none_right_eq_some,
    and_imp, forall_exists_index, Bool.and_eq_true, beq_iff_eq, decide_eq_true_eq]
  refine ⟨?utype, ?jal, ?jalr, ?btype, ?itype, ?slli, ?srli, ?srai, ?_⟩
  case utype =>
    rintro _ op hop rfl
    have hop' := decodeUop_eq_some_iff.mp hop
    exact ⟨encode_utype hop', owner_of_opcode hop'.symm (by cases op <;> decide)⟩
  case jal =>
    rintro _ h₀ rfl
    exact ⟨encode_jal h₀, owner_of_opcode h₀ (by decide)⟩
  case jalr =>
    rintro _ h₃ h₀ rfl
    exact ⟨congrArg some (itype_of_bits h₃ h₀), owner_of_opcode h₀ (by decide)⟩
  case btype =>
    rintro _ h₀ op hop rfl
    exact ⟨encode_btype h₀ (decodeBop_eq_some_iff.mp hop), owner_of_opcode h₀ (by decide)⟩
  case itype =>
    rintro _ h₀ op hop rfl
    have hop' := decodeIop_eq_some_iff.mp hop
    refine ⟨congrArg some (itype_of_bits hop'.symm h₀), owner_of_itype h₀ ?_⟩
    rw [← hop']
    cases op <;> decide
  case slli =>
    rintro _ h₆ h₃ h₀ hx rfl
    exact ⟨congrArg some (shift_of_bits h₆ h₃ h₀), owner_of_shift h₀ (Or.inl h₆)⟩
  case srli =>
    rintro _ h₆ h₃ h₀ hx rfl
    exact ⟨congrArg some (shift_of_bits h₆ h₃ h₀), owner_of_shift h₀ (Or.inl h₆)⟩
  case srai =>
    rintro _ h₆ h₃ h₀ hx rfl
    exact ⟨congrArg some (shift_of_bits h₆ h₃ h₀), owner_of_shift h₀ (Or.inr h₆)⟩
  and_intros
  all_goals
    first
      | rintro _ rfl rfl
        exact ⟨rfl, owner_of_system (by decide)⟩
      | rintro _ h₀ hsize rfl
        exact ⟨encode_load h₀ hsize, owner_of_opcode h₀ (by decide)⟩
      | rintro _ (h₁₄ : bits w 14 1 = 0#1) h₀ hsize rfl
        exact ⟨encode_store h₁₄ h₀ hsize, owner_of_opcode h₀ (by decide)⟩
      | rintro _ (h₂₈ : bits w 28 4 = 0b0000#4) h₀ rfl
        exact ⟨congrArg some (fenceWord_of_bits h₂₈ h₀), owner_of_fence (Or.inl h₂₈) h₀⟩
      | rintro _ (h₂₈ : bits w 28 4 = 0b1000#4) h₀ rfl
        exact ⟨congrArg some (fenceWord_of_bits h₂₈ h₀), owner_of_fence (Or.inr h₂₈) h₀⟩
      | rintro _ (h₇ : bits w 25 7 = _) (h₃ : bits w 12 3 = _) (h₀ : bits w 0 7 = _) rfl
        exact ⟨congrArg some (rtype_of_bits h₇ h₃ h₀), owner_op h₇ h₃ h₀ rfl⟩
      | rintro _ hx (h₇ : bits w 25 7 = _) h₃ (h₀ : bits w 0 7 = 0b0111011#7) rfl
        exact ⟨clause_eq_some.mpr ⟨decide_eq_true hx, rtype_of_bits h₇ h₃ h₀⟩,
          owner_op32 h₇ h₃ h₀ rfl⟩
      | rintro _ hx (h₇ : bits w 25 7 = _) h₃ (h₀ : bits w 0 7 = 0b0011011#7) rfl
        exact ⟨clause_eq_some.mpr ⟨decide_eq_true hx, rtype_of_bits h₇ h₃ h₀⟩,
          owner_opImm32 h₇ h₃ h₀ rfl⟩
      | rintro _ hx h₃ (h₀ : bits w 0 7 = 0b0011011#7) rfl
        exact ⟨clause_eq_some.mpr ⟨decide_eq_true hx, itype_of_bits h₃ h₀⟩,
          owner_opImm32 rfl h₃ h₀ rfl⟩
      | rintro _ h₇ (h₀ : bits w 0 15 = _) rfl
        exact ⟨congrArg some (sfenceWord_of_bits h₇ h₀), owner_of_sfence h₇ h₀ rfl⟩

/-! ## Fences, CSR instructions and cache blocks -/

theorem ZifenceiInst.encode_of_decode {s : State} {w : BitVec 32} {i : ZifenceiInst}
    (h : ZifenceiInst.decode s w = some i) : i.encode s = some w ∧ owner w = .ZIFENCEI := by
  unfold ZifenceiInst.decode at h
  rw [clause_eq_some, beq_and] at h
  obtain ⟨⟨rfl, hen⟩, rfl⟩ := h
  exact ⟨clause_eq_some.mpr ⟨hen, rfl⟩, owner_fencei⟩

omit [Platform] in
theorem FenceHintInst.encode_of_decode {w : BitVec 32} {i : FenceHintInst}
    (h : FenceHintInst.decode w = some i) : i.encode = some w ∧ owner w = .FENCE_HINT := by
  unfold FenceHintInst.decode at h
  refine firstClause_some
    (P := fun i => FenceHintInst.encode i = some w ∧ owner w = .FENCE_HINT) ?_ h
  clear h
  simp only [List.mem_cons, forall_eq_or_imp, clause_eq_some, List.not_mem_nil, false_imp_iff,
    implies_true, and_true, and_imp, beq2_and]
  constructor
  · rintro _ h₃ h₀ hres rfl
    refine ⟨clause_eq_some.mpr ⟨hres, itypeWord_eq_iff.mpr ⟨?_, rfl, h₃.symm, rfl, h₀.symm⟩⟩,
      owner_of_fenceReserved h₃ h₀ hres⟩
    rw [append_eq_bits (m := 8) (n := 4), append_eq_bits (m := 4) (n := 4)]
    exact ⟨⟨rfl, rfl⟩, rfl⟩
  · rintro _ h₃ h₀ hres rfl
    exact ⟨clause_eq_some.mpr ⟨hres, itype_of_bits h₃ h₀⟩, owner_of_fenceiReserved h₃ h₀ hres⟩

theorem SvinvalInst.encode_of_decode {s : State} {w : BitVec 32} {i : SvinvalInst}
    (h : SvinvalInst.decode s w = some i) : i.encode s = some w ∧ owner w = .SVINVAL := by
  unfold SvinvalInst.decode at h
  refine firstClause_some
    (P := fun i => SvinvalInst.encode s i = some w ∧ owner w = .SVINVAL) ?_ h
  clear h
  simp only [List.mem_cons, forall_eq_or_imp, clause_eq_some, List.not_mem_nil, false_imp_iff,
    implies_true, and_true, and_imp, beq2_and, beq_and]
  refine ⟨?_, ?_, ?_⟩
  · rintro _ h₇ h₀ hen rfl
    exact ⟨clause_eq_some.mpr ⟨hen, sfenceWord_of_bits h₇ h₀⟩, owner_of_sfence h₇ h₀ rfl⟩
  · rintro _ rfl hen rfl
    exact ⟨clause_eq_some.mpr ⟨hen, rfl⟩, owner_of_inval (Or.inl rfl)⟩
  · rintro _ rfl hen rfl
    exact ⟨clause_eq_some.mpr ⟨hen, rfl⟩, owner_of_inval (Or.inr rfl)⟩

omit [Platform] in
theorem ZicsrInst.encode_of_decode {w : BitVec 32} {i : ZicsrInst}
    (h : ZicsrInst.decode w = some i) : i.encode = some w ∧ owner w = .CSR := by
  unfold ZicsrInst.decode mapped at h
  simp only [Option.ite_none_right_eq_some, Option.map_eq_some_iff, beq_iff_eq] at h
  obtain ⟨h₀, op, hop, rfl⟩ := h
  have hop' := lookup_csrop.mp hop
  refine ⟨congrArg some (itypeWord_eq_iff.mpr ⟨rfl, rfl, ?_, rfl, h₀.symm⟩), ?_⟩
  · rw [append_eq_bits (m := 1) (n := 2), boolToBits_beq_one]
    exact ⟨rfl, hop'⟩
  · exact owner_of_csr (by rw [← hop']; cases op <;> decide) h₀

theorem CacheBlockInst.encode_of_decode {s : State} {w : BitVec 32} {i : CacheBlockInst}
    (h : CacheBlockInst.decode s w = some i) : i.encode s = some w ∧ owner w = .CACHE_BLOCK := by
  unfold CacheBlockInst.decode at h
  refine firstClause_some
    (P := fun i => CacheBlockInst.encode s i = some w ∧ owner w = .CACHE_BLOCK) ?_ h
  clear h
  simp only [List.mem_cons, forall_eq_or_imp, clause_eq_some, Option.map_eq_some_iff,
    List.not_mem_nil, false_imp_iff, implies_true, and_true, Option.ite_none_right_eq_some,
    and_imp, forall_exists_index, Bool.and_eq_true, beq_iff_eq]
  constructor
  · rintro _ h₃ h₅ h₀ hen op hop rfl
    exact ⟨clause_eq_some.mpr ⟨hen, itypeWord_eq_iff.mpr
        ⟨decodeCbop_eq_some_iff.mp hop, rfl, h₃.symm, h₅.symm, h₀.symm⟩⟩,
      owner_of_cbo h₃ h₀⟩
  · rintro _ himm h₃ h₅ h₀ hen rfl
    exact ⟨clause_eq_some.mpr ⟨hen, itypeWord_eq_iff.mpr
        ⟨himm.symm, rfl, h₃.symm, h₅.symm, h₀.symm⟩⟩,
      owner_of_cbo h₃ h₀⟩

/-! ## Atomic instructions -/

theorem AtomicInst.encode_of_decode {s : State} {w : BitVec 32} {i : AtomicInst}
    (h : AtomicInst.decode s w = some i) : i.encode s = some w ∧ owner w = .ATOMIC := by
  have hword {f5 : BitVec 5} {rs2 : Regidx} (h₂₇ : bits w 27 5 = f5) (hrs2 : rs2 = rs2Of w)
      (h₁₄ : bits w 14 1 = 0#1) (h₀ : bits w 0 7 = 0b0101111#7) :
      atomicWord f5 (bits w 26 1 == 1#1) (bits w 25 1 == 1#1) rs2 (rs1Of w) (sizeDec (bits w 12 2))
        (rdOf w) = w := by
    unfold atomicWord
    rw [rtypeWord_eq_iff, append_eq_bits (m := 6) (n := 1), append_eq_bits (m := 5) (n := 1),
      append_eq_bits (m := 1) (n := 2), boolToBits_beq_one, boolToBits_beq_one, sizeEnc_sizeDec]
    exact ⟨⟨⟨h₂₇.symm, rfl⟩, rfl⟩, hrs2, rfl, ⟨h₁₄.symm, rfl⟩, rfl, h₀.symm⟩
  unfold AtomicInst.decode at h
  refine firstClause_some
    (P := fun i => AtomicInst.encode s i = some w ∧ owner w = .ATOMIC) ?_ h
  clear h
  simp only [List.mem_cons, forall_eq_or_imp, clause_eq_some, Option.map_eq_some_iff,
    List.not_mem_nil, false_imp_iff, implies_true, and_true, Option.ite_none_right_eq_some,
    and_imp, forall_exists_index, Bool.and_eq_true, beq_iff_eq]
  refine ⟨?_, ?_, ?_⟩
  · rintro _ h₂₇ h₂₀ h₁₄ h₀ hen hsize rfl
    exact ⟨clause_eq_some.mpr ⟨Bool.and_eq_true_iff.mpr ⟨hen, hsize⟩, hword h₂₇ h₂₀.symm h₁₄ h₀⟩,
      owner_of_atomic h₀⟩
  · rintro _ h₂₇ h₁₄ h₀ hen hsize rfl
    exact ⟨clause_eq_some.mpr ⟨Bool.and_eq_true_iff.mpr ⟨hen, hsize⟩, hword h₂₇ rfl h₁₄ h₀⟩,
      owner_of_atomic h₀⟩
  · rintro _ h₁₄ h₀ hen hsize op hop rfl
    exact ⟨clause_eq_some.mpr ⟨Bool.and_eq_true_iff.mpr ⟨hen, hsize⟩,
        hword (decodeAmoop_eq_some_iff.mp hop).symm rfl h₁₄ h₀⟩,
      owner_of_atomic h₀⟩

/-! ## Multiplication and division -/

theorem MulInst.encode_of_decode {s : State} {w : BitVec 32} {i : MulInst}
    (h : MulInst.decode s w = some i) : i.encode s = some w ∧ owner w = .MUL := by
  have hword {f2 : BitVec 2} {opcode : BitVec 7} (h₇ : bits w 25 7 = 0b0000001#7)
      (h₀ : bits w 0 7 = opcode) (h₁₃ : bits w 13 2 = f2) :
      rtypeWord 0b0000001#7 (rs2Of w) (rs1Of w) (f2 ++ boolNotBits (bits w 12 1 == 0#1)) (rdOf w)
        opcode = w := by
    rw [rtypeWord_eq_iff, append_eq_bits (m := 2) (n := 1), boolNotBits_beq_zero]
    exact ⟨h₇.symm, rfl, rfl, ⟨h₁₃.symm, rfl⟩, rfl, h₀.symm⟩
  unfold MulInst.decode at h
  refine firstClause_some (P := fun i => MulInst.encode s i = some w ∧ owner w = .MUL) ?_ h
  clear h
  simp only [List.mem_cons, forall_eq_or_imp, clause_eq_some, Option.map_eq_some_iff,
    List.not_mem_nil, false_imp_iff, implies_true, and_true, Option.ite_none_right_eq_some,
    and_imp, forall_exists_index, beq2_and, beq3_and]
  refine ⟨?_, ?_, ?_, ?_, ?_, ?_⟩
  · rintro _ h₇ h₀ hen op hop rfl
    refine ⟨(if_pos hen).trans ?_, owner_op h₇ rfl h₀ rfl⟩
    rw [decodeMulOp_eq_some_iff.mp hop]
    exact congrArg some (rtype_of_bits h₇ rfl h₀)
  · rintro _ h₇ h₀ h₁₃ hen rfl
    exact ⟨clause_eq_some.mpr ⟨hen, hword h₇ h₀ h₁₃⟩, owner_op h₇ rfl h₀ rfl⟩
  · rintro _ h₇ h₀ h₁₃ hen rfl
    exact ⟨clause_eq_some.mpr ⟨hen, hword h₇ h₀ h₁₃⟩, owner_op h₇ rfl h₀ rfl⟩
  · rintro _ h₇ h₀ h₃ hen rfl
    exact ⟨clause_eq_some.mpr ⟨hen, rtype_of_bits h₇ h₃ h₀⟩, owner_op32 h₇ rfl h₀ rfl⟩
  · rintro _ h₇ h₀ h₁₃ hen rfl
    exact ⟨clause_eq_some.mpr ⟨hen, hword h₇ h₀ h₁₃⟩, owner_op32 h₇ rfl h₀ rfl⟩
  · rintro _ h₇ h₀ h₁₃ hen rfl
    exact ⟨clause_eq_some.mpr ⟨hen, hword h₇ h₀ h₁₃⟩, owner_op32 h₇ rfl h₀ rfl⟩

/-! ## Bit manipulation -/

theorem ZbaInst.encode_of_decode {s : State} {w : BitVec 32} {i : ZbaInst}
    (h : ZbaInst.decode s w = some i) : i.encode s = some w ∧ owner w = .ZBA := by
  unfold ZbaInst.decode isRtype at h
  refine firstClause_some (P := fun i => ZbaInst.encode s i = some w ∧ owner w = .ZBA) ?_ h
  clear h
  simp only [List.mem_cons, forall_eq_or_imp, clause_eq_some, List.not_mem_nil, false_imp_iff,
    implies_true, and_true, and_imp, beq3_and]
  refine ⟨?_, ?_⟩
  · rintro _ h₆ h₃ h₀ hen rfl
    exact ⟨clause_eq_some.mpr ⟨hen, shift_of_bits h₆ h₃ h₀⟩, owner_of_slliuw h₆ h₃ h₀⟩
  and_intros
  all_goals
    first
      | rintro _ h₇ h₃ (h₀ : bits w 0 7 = 0b0111011#7) hen rfl
        exact ⟨clause_eq_some.mpr ⟨hen, rtype_of_bits h₇ h₃ h₀⟩, owner_op32 h₇ h₃ h₀ rfl⟩
      | rintro _ h₇ h₃ h₀ hen rfl
        exact ⟨clause_eq_some.mpr ⟨hen, rtype_of_bits h₇ h₃ h₀⟩, owner_op h₇ h₃ h₀ rfl⟩

theorem ZbcInst.encode_of_decode {s : State} {w : BitVec 32} {i : ZbcInst}
    (h : ZbcInst.decode s w = some i) : i.encode s = some w ∧ owner w = .ZBC := by
  unfold ZbcInst.decode isRtype at h
  refine firstClause_some (P := fun i => ZbcInst.encode s i = some w ∧ owner w = .ZBC) ?_ h
  clear h
  simp only [List.mem_cons, forall_eq_or_imp, clause_eq_some, List.not_mem_nil, false_imp_iff,
    implies_true, and_true, and_imp, beq3_and]
  refine ⟨?_, ?_, ?_⟩ <;>
    (rintro _ h₇ h₃ h₀ hen rfl
     exact ⟨clause_eq_some.mpr ⟨hen, rtype_of_bits h₇ h₃ h₀⟩, owner_op h₇ h₃ h₀ rfl⟩)

/-- The clauses for `zext.h`. -/
def ZbbInst.FromPacks (w : BitVec 32) (i : ZbbInst) : Prop :=
  i = .ZBB_EXTOP (rs1Of w) (rdOf w) .RISCV_ZEXTH ∧ rs2Of w = 0#5 ∧ owner w = .PACKS
    ∧ (bits w 0 7 = 0b0110011#7 ∧ xlen = 32 ∨ bits w 0 7 = 0b0111011#7 ∧ xlen = 64)

theorem ZbbInst.encode_of_decode {s : State} {w : BitVec 32} {i : ZbbInst}
    (h : ZbbInst.decode s w = some i) :
    i.encode s = some w ∧ (owner w = .ZBB ∨ i.FromPacks w) := by
  unfold ZbbInst.decode isRtype at h
  refine firstClause_some
    (P := fun i => ZbbInst.encode s i = some w ∧ (owner w = .ZBB ∨ i.FromPacks w)) ?_ h
  clear h
  simp only [List.mem_cons, forall_eq_or_imp, clause_eq_some, List.not_mem_nil, false_imp_iff,
    implies_true, and_true, and_imp, beq3_and]
  refine ⟨?roriw, ?rori, ?rolw, ?rorw, ?andn, ?orn, ?xnor, ?max, ?maxu, ?min, ?minu, ?rol, ?ror,
    ?sextb, ?sexth, ?zexth32, ?zexth64, ?rev8_32, ?rev8_64, ?_⟩
  case roriw =>
    rintro _ h₇ h₃ h₀ hen rfl
    exact ⟨clause_eq_some.mpr ⟨hen, rtype_of_bits h₇ h₃ h₀⟩,
      Or.inl (owner_opImm32 h₇ h₃ h₀ rfl)⟩
  case rori =>
    rintro _ h₆ h₃ h₀ hen rfl
    refine ⟨clause_eq_some.mpr ⟨?_, shift_of_bits h₆ h₃ h₀⟩, Or.inl (owner_of_rori h₆ h₃ h₀)⟩
    rw [bits_bits w 20 6 5 1 (by decide)]
    exact hen
  case sextb | sexth =>
    rintro _ h₁₂ h₃ h₀ hen rfl
    exact ⟨clause_eq_some.mpr ⟨hen, rtype12_of_bits h₁₂ (by decide) h₃ h₀⟩,
      Or.inl (owner_opImm12 h₁₂ h₃ h₀ rfl)⟩
  case zexth32 =>
    rintro _ h₁₂ h₃ h₀ hen rfl
    have hx : xlen = 32 := of_decide_eq_true (Bool.and_eq_true_iff.mp hen).2
    obtain ⟨h₇, h₅⟩ := funct12_of_bits h₁₂
    exact ⟨firstClause_of_first hen (rtype12_of_bits h₁₂ (by decide) h₃ h₀),
      Or.inr ⟨rfl, h₅, owner_op h₇ h₃ h₀ rfl, Or.inl ⟨h₀, hx⟩⟩⟩
  case zexth64 =>
    rintro _ h₁₂ h₃ h₀ hen rfl
    have hx : xlen = 64 := of_decide_eq_true (Bool.and_eq_true_iff.mp hen).2
    obtain ⟨h₇, h₅⟩ := funct12_of_bits h₁₂
    exact ⟨firstClause_of_second (by simp [hx]) hen (rtype12_of_bits h₁₂ (by decide) h₃ h₀),
      Or.inr ⟨rfl, h₅, owner_op32 h₇ h₃ h₀ rfl, Or.inr ⟨h₀, hx⟩⟩⟩
  case rev8_32 =>
    rintro _ h₁₂ h₃ h₀ hen rfl
    exact ⟨firstClause_of_first hen (itype12_of_bits h₁₂ h₃ h₀),
      Or.inl (owner_opImm12 h₁₂ h₃ h₀ rfl)⟩
  case rev8_64 =>
    rintro _ h₁₂ h₃ h₀ hen rfl
    have hx : xlen = 64 := of_decide_eq_true (Bool.and_eq_true_iff.mp hen).2
    exact ⟨firstClause_of_second (by simp [hx]) hen (itype12_of_bits h₁₂ h₃ h₀),
      Or.inl (owner_opImm12 h₁₂ h₃ h₀ rfl)⟩
  case rolw | rorw =>
    rintro _ h₇ h₃ h₀ hen rfl
    exact ⟨clause_eq_some.mpr ⟨hen, rtype_of_bits h₇ h₃ h₀⟩, Or.inl (owner_op32 h₇ h₃ h₀ rfl)⟩
  case andn | orn | xnor | max | maxu | min | minu | rol | ror =>
    rintro _ h₇ h₃ h₀ hen rfl
    exact ⟨clause_eq_some.mpr ⟨hen, rtype_of_bits h₇ h₃ h₀⟩, Or.inl (owner_op h₇ h₃ h₀ rfl)⟩
  and_intros
  all_goals
    first
      | rintro _ h₁₂ h₃ (h₀ : bits w 0 7 = 0b0010011#7) hen rfl
        exact ⟨clause_eq_some.mpr ⟨hen, itype12_of_bits h₁₂ h₃ h₀⟩,
          Or.inl (owner_opImm12 h₁₂ h₃ h₀ rfl)⟩
      | rintro _ h₁₂ h₃ h₀ hen rfl
        exact ⟨clause_eq_some.mpr ⟨hen, itype12_of_bits h₁₂ h₃ h₀⟩,
          Or.inl (owner_opImm32 (funct12_of_bits h₁₂).1 h₃ h₀ rfl)⟩

/-! ## Cryptography -/

/-- The clauses for `pack` and `packw`. -/
def ZbkbInst.FromPacks (w : BitVec 32) (i : ZbkbInst) : Prop :=
  owner w = .PACKS ∧
    (i = .ZBKB_RTYPE (rs2Of w) (rs1Of w) (rdOf w) .RISCV_PACK ∧ bits w 0 7 = 0b0110011#7
      ∨ i = .ZBKB_PACKW (rs2Of w) (rs1Of w) (rdOf w) ∧ bits w 0 7 = 0b0111011#7)

theorem ZbkbInst.encode_of_decode {s : State} {w : BitVec 32} {i : ZbkbInst}
    (h : ZbkbInst.decode s w = some i) :
    i.encode s = some w ∧ (owner w = .ZBKB ∨ i.FromPacks w) := by
  unfold ZbkbInst.decode isRtype at h
  refine firstClause_some
    (P := fun i => ZbkbInst.encode s i = some w ∧ (owner w = .ZBKB ∨ i.FromPacks w)) ?_ h
  clear h
  simp only [List.mem_cons, forall_eq_or_imp, clause_eq_some, List.not_mem_nil, false_imp_iff,
    implies_true, and_true, and_imp, beq3_and]
  refine ⟨?pack, ?packh, ?packw, ?zip, ?unzip, ?brev8⟩
  case pack =>
    rintro _ h₇ h₃ h₀ hen rfl
    exact ⟨clause_eq_some.mpr ⟨hen, rtype_of_bits h₇ h₃ h₀⟩,
      Or.inr ⟨owner_op h₇ h₃ h₀ rfl, Or.inl ⟨rfl, h₀⟩⟩⟩
  case packh =>
    rintro _ h₇ h₃ h₀ hen rfl
    exact ⟨clause_eq_some.mpr ⟨hen, rtype_of_bits h₇ h₃ h₀⟩, Or.inl (owner_op h₇ h₃ h₀ rfl)⟩
  case packw =>
    rintro _ h₇ h₃ h₀ hen rfl
    exact ⟨clause_eq_some.mpr ⟨hen, rtype_of_bits h₇ h₃ h₀⟩,
      Or.inr ⟨owner_op32 h₇ h₃ h₀ rfl, Or.inr ⟨rfl, h₀⟩⟩⟩
  case zip | unzip | brev8 =>
    rintro _ h₁₂ h₃ h₀ hen rfl
    exact ⟨clause_eq_some.mpr ⟨hen, itype12_of_bits h₁₂ h₃ h₀⟩,
      Or.inl (owner_opImm12 h₁₂ h₃ h₀ rfl)⟩

theorem ZknInst.encode_of_decode {s : State} {w : BitVec 32} {i : ZknInst}
    (h : ZknInst.decode s w = some i) : i.encode s = some w ∧ owner w = .ZKN := by
  have hunary {f7 : BitVec 7} {f5 : BitVec 5} (h₇ : bits w 25 7 = f7)
      (h₃ : bits w 12 3 = 0b001#3) (h₀ : bits w 0 7 = 0b0010011#7) (h₅ : rs2Of w = f5) :
      rtypeWord f7 f5 (rs1Of w) 0b001#3 (rdOf w) 0b0010011#7 = w := by
    rw [← h₅]
    exact rtype_of_bits h₇ h₃ h₀
  unfold ZknInst.decode isRtype at h
  refine firstClause_some (P := fun i => ZknInst.encode s i = some w ∧ owner w = .ZKN) ?_ h
  clear h
  simp only [List.mem_cons, forall_eq_or_imp, clause_eq_some, List.not_mem_nil, false_imp_iff,
    implies_true, and_true, and_imp, beq3_and, beq4_and]
  and_intros
  all_goals
    first
      | rintro _ h₇ h₃ h₀ (h₅ : rs2Of w = _) hen rfl
        exact ⟨clause_eq_some.mpr ⟨hen, hunary h₇ h₃ h₀ h₅⟩, owner_opImm h₇ h₅ h₃ h₀ rfl⟩
      | rintro _ (h₅ : bits w 25 5 = _) h₃ h₀ hen rfl
        exact ⟨clause_eq_some.mpr ⟨hen, rtype_of_bits (append_eq_bits.mpr ⟨rfl, h₅.symm⟩).symm h₃ h₀⟩,
          owner_of_aes32 h₅ (by decide) h₃ h₀⟩
      | rintro _ h₇ h₃ h₀ (h₂₄ : bits w 24 1 = 0b1#1) hen rfl
        have h₅ : rs2Of w = 0b1#1 ++ bits w 20 4 :=
          ((append_eq_bits (m := 1) (n := 4)).mpr ⟨h₂₄.symm, rfl⟩).symm
        exact ⟨clause_eq_some.mpr ⟨hen, hunary h₇ h₃ h₀ h₅⟩, owner_opImm h₇ rfl h₃ h₀ rfl⟩
      | rintro _ h₇ h₃ h₀ hen rfl
        exact ⟨clause_eq_some.mpr ⟨hen, rtype_of_bits h₇ h₃ h₀⟩, owner_op h₇ h₃ h₀ rfl⟩

end Families

/-! ## What encodes to a word is decoded from it -/

theorem BaseInst.decode_of_encode {w : BitVec 32} {i : BaseInst} (h : i.encode = some w)
    (hdec : i.Decodable) : BaseInst.decode w = some i := by
  unfold BaseInst.decode
  cases i with
  | UTYPE imm rd op =>
      obtain ⟨rfl, rfl, h₀⟩ := utypeWord_eq_iff.mp (Option.some.inj h)
      have hop := decodeUop_eq_some_iff.mpr h₀
      simp only [hop, ↓firstClause_map, Option.map_some, Option.some_or, rdOf]
  | RISCV_JAL imm rd =>
      obtain ⟨heven, hw⟩ := clause_eq_some.mp h
      obtain ⟨h₁, h₂, h₃, h₄, h₅, rfl, h₀⟩ := jalWord_eq_iff.mp hw
      have himm : imm = bits w 31 1 ++ bits w 12 8 ++ bits w 20 1 ++ bits w 25 6 ++ bits w 21 4 ++ 0#1 :=
        (jalImm_eq_iff.mpr ⟨h₁.symm, h₅.symm, h₄.symm, h₂.symm, h₃.symm, (beq_iff_eq.mp heven).symm⟩).symm
      rw [himm]
      simp [↓firstClause_map, ↓firstClause_clause, ← h₀, decodeUop, rdOf]
  | RISCV_JALR imm rs1 rd =>
      obtain ⟨rfl, rfl, h₃, rfl, h₀⟩ := itypeWord_eq_iff.mp (Option.some.inj h)
      simp [↓firstClause_map, ↓firstClause_clause, ← h₀, ← h₃, decodeUop, rdOf, rs1Of]
  | BTYPE imm rs2 rs1 op =>
      obtain ⟨heven, hw⟩ := clause_eq_some.mp h
      obtain ⟨h₇, rfl, rfl, h₃, h₅, h₀⟩ := rtypeWord_eq_iff.mp hw
      obtain ⟨h₁₂, h₅₆⟩ := (append_eq_bits (m := 1) (n := 6)).mp h₇
      obtain ⟨h₁₄, h₁₁⟩ := (append_eq_bits (m := 4) (n := 1)).mp h₅
      have himm : imm = bits w 31 1 ++ bits w 7 1 ++ bits w 25 6 ++ bits w 8 4 ++ 0#1 :=
        (btypeImm_eq_iff.mpr ⟨h₁₂.symm, h₁₁.symm, h₅₆.symm, h₁₄.symm, (beq_iff_eq.mp heven).symm⟩).symm
      rw [himm]
      simp [↓firstClause_map, ↓firstClause_clause, ↓firstClause_ite, ← h₀, decodeBop_eq_some_iff.mpr h₃, decodeUop, rs1Of, rs2Of]
  | ITYPE imm rs1 rd op =>
      obtain ⟨rfl, rfl, h₃, rfl, h₀⟩ := itypeWord_eq_iff.mp (Option.some.inj h)
      simp [↓firstClause_map, ↓firstClause_clause, ↓firstClause_ite, ← h₀, decodeIop_eq_some_iff.mpr h₃, decodeUop, rs1Of, rdOf]
  | SHIFTIOP shamt rs1 rd op =>
      have hshamt : xlen = 64 ∨ bits shamt 5 1 = 0b0#1 := hdec
      cases op
      all_goals
        obtain ⟨⟨h₆, rfl⟩, rfl, h₃, rfl, h₀⟩ := shiftWord_eq_iff.mp (Option.some.inj h)
        rw [bits_bits w 20 6 5 1 (by decide)] at hshamt
        simp [↓firstClause_map, ↓firstClause_clause, ↓firstClause_ite, ← h₀, ← h₃, ← h₆, hshamt, decodeUop, decodeIop, rs1Of, rdOf]
  | RTYPE rs2 rs1 rd op =>
      cases op
      all_goals
        obtain ⟨h₇, rfl, rfl, h₃, rfl, h₀⟩ := rtypeWord_eq_iff.mp (Option.some.inj h)
        simp [↓firstClause_map, ↓firstClause_clause, ↓firstClause_ite, ← h₀, ← h₃, ← h₇, decodeUop, rs1Of, rs2Of, rdOf]
  | LOAD imm rs1 rd isUnsigned size aq rl =>
      obtain ⟨hsize, hw⟩ := clause_eq_some.mp h
      obtain ⟨rfl, rfl, h₃, rfl, h₀⟩ := itypeWord_eq_iff.mp hw
      obtain ⟨h₁₄, h₁₂⟩ := (append_eq_bits (m := 1) (n := 2)).mp h₃
      simp only [Bool.and_eq_true, Bool.not_eq_true'] at hsize
      obtain ⟨⟨rfl, rfl⟩, hsize⟩ := hsize
      simp only [Nat.reduceAdd] at h₁₄
      simp [↓firstClause_map, ↓firstClause_clause, ↓firstClause_ite, ← h₀, ← h₁₄, ← h₁₂, boolToBits_beq, sizeDec_sizeEnc, hsize, decodeUop, rs1Of, rdOf]
  | STORE imm rs2 rs1 size aq rl =>
      obtain ⟨hsize, hw⟩ := clause_eq_some.mp h
      obtain ⟨h₇, rfl, rfl, h₃, h₅, h₀⟩ := rtypeWord_eq_iff.mp hw
      obtain ⟨h₁₄, h₁₂⟩ := (append_eq_bits (m := 1) (n := 2)).mp h₃
      simp only [Bool.and_eq_true, Bool.not_eq_true', decide_eq_true_eq] at hsize
      obtain ⟨⟨rfl, rfl⟩, hsize⟩ := hsize
      have himm : bits w 25 7 ++ bits w 7 5 = imm := storeImm_eq_iff.mpr ⟨h₇.symm, h₅.symm⟩
      simp only [Nat.reduceAdd] at h₁₄
      simp [↓firstClause_map, ↓firstClause_clause, ↓firstClause_ite, ← h₀, ← h₁₄, ← h₁₂, sizeDec_sizeEnc, hsize, himm, decodeUop, rs1Of, rs2Of]
  | ADDIW imm rs1 rd =>
      obtain ⟨hx, hw⟩ := clause_eq_some.mp h
      obtain ⟨rfl, rfl, h₃, rfl, h₀⟩ := itypeWord_eq_iff.mp hw
      simp [↓firstClause_map, ↓firstClause_clause, ↓firstClause_ite, ← h₀, ← h₃, of_decide_eq_true hx, decodeUop, rs1Of, rdOf]
  | RTYPEW rs2 rs1 rd op =>
      cases op
      all_goals
        obtain ⟨hx, hw⟩ := clause_eq_some.mp h
        obtain ⟨h₇, rfl, rfl, h₃, rfl, h₀⟩ := rtypeWord_eq_iff.mp hw
        simp [↓firstClause_map, ↓firstClause_clause, ↓firstClause_ite, ← h₀, ← h₃, ← h₇, of_decide_eq_true hx, decodeUop, rs1Of, rs2Of, rdOf]
  | SHIFTIWOP shamt rs1 rd op =>
      cases op
      all_goals
        obtain ⟨hx, hw⟩ := clause_eq_some.mp h
        obtain ⟨h₇, rfl, rfl, h₃, rfl, h₀⟩ := rtypeWord_eq_iff.mp hw
        simp [↓firstClause_map, ↓firstClause_clause, ↓firstClause_ite, ← h₀, ← h₃, ← h₇, of_decide_eq_true hx, decodeUop, rs1Of, rs2Of, rdOf]
  | FENCE pred succ =>
      obtain ⟨h₁₂, h₁, h₃, h₅, h₀⟩ := itypeWord_eq_iff.mp (Option.some.inj h)
      obtain ⟨h₈, rfl⟩ := (append_eq_bits (m := 8) (n := 4)).mp h₁₂
      obtain ⟨h₂₈, rfl⟩ := (append_eq_bits (m := 4) (n := 4)).mp h₈
      have hlow : 0x0000F#20 = bits w 0 20 := low20_eq_iff.mpr ⟨h₁, h₃, h₅, h₀⟩
      simp only [Nat.reduceAdd] at h₂₈
      simp [↓firstClause_map, ↓firstClause_clause, ↓firstClause_ite, ← h₀, ← hlow, ← h₂₈, decodeUop]
  | FENCE_TSO pred succ =>
      obtain ⟨h₁₂, h₁, h₃, h₅, h₀⟩ := itypeWord_eq_iff.mp (Option.some.inj h)
      obtain ⟨h₈, rfl⟩ := (append_eq_bits (m := 8) (n := 4)).mp h₁₂
      obtain ⟨h₂₈, rfl⟩ := (append_eq_bits (m := 4) (n := 4)).mp h₈
      have hlow : 0x0000F#20 = bits w 0 20 := low20_eq_iff.mpr ⟨h₁, h₃, h₅, h₀⟩
      simp only [Nat.reduceAdd] at h₂₈
      simp [↓firstClause_map, ↓firstClause_clause, ↓firstClause_ite, ← h₀, ← hlow, ← h₂₈, decodeUop]
  | ECALL =>
      obtain rfl : 0x00000073#32 = w := Option.some.inj h
      simp [↓firstClause_map, ↓firstClause_clause, ↓firstClause_ite, bits, decodeUop]
  | MRET =>
      obtain rfl : 0x30200073#32 = w := Option.some.inj h
      simp [↓firstClause_map, ↓firstClause_clause, ↓firstClause_ite, bits, decodeUop]
  | SRET =>
      obtain rfl : 0x10200073#32 = w := Option.some.inj h
      simp [↓firstClause_map, ↓firstClause_clause, ↓firstClause_ite, bits, decodeUop]
  | EBREAK =>
      obtain rfl : 0x00100073#32 = w := Option.some.inj h
      simp [↓firstClause_map, ↓firstClause_clause, ↓firstClause_ite, bits, decodeUop]
  | WFI =>
      obtain rfl : 0x10500073#32 = w := Option.some.inj h
      simp [↓firstClause_map, ↓firstClause_clause, ↓firstClause_ite, bits, decodeUop]
  | SFENCE_VMA rs1 rs2 =>
      obtain ⟨h₇, rfl, rfl, h₃, h₅, h₀⟩ := rtypeWord_eq_iff.mp (Option.some.inj h)
      have hlow : 0x0073#15 = bits w 0 15 := low15_eq_iff.mpr ⟨h₃, h₅, h₀⟩
      have hfence : bits w 0 20 ≠ 0x0000F#20 := by
        intro hlow
        have h := low20_eq_iff.mp (show (0b00000#5 ++ 0b000#3 ++ 0b00000#5 ++ 0b0001111#7
          : BitVec 20) = bits w 0 20 from hlow.symm)
        rw [← h₀] at h
        exact absurd h.2.2.2 (by decide)
      have hne := system_ne h₇.symm
      simp [↓firstClause_map, ↓firstClause_clause, ↓firstClause_ite, ← h₀, ← h₃, ← h₇, ← hlow, hfence, hne, decodeUop, rs1Of, rs2Of]

theorem MulInst.decode_of_encode {s : State} {w : BitVec 32} {i : MulInst}
    (h : i.encode s = some w) : MulInst.decode s w = some i := by
  unfold MulInst.decode
  cases i with
  | MUL rs2 rs1 rd op =>
      obtain ⟨hen, hop⟩ := Option.ite_none_right_eq_some.mp h
      obtain ⟨f3, hf3, hw⟩ := Option.map_eq_some_iff.mp hop
      obtain ⟨h₇, rfl, rfl, rfl, rfl, h₀⟩ := rtypeWord_eq_iff.mp hw
      simp only [Bool.or_eq_true] at hen
      simp [↓firstClause_clause, ↓firstClause_ite, ← h₀, ← h₇, decodeMulOp_eq_some_iff.mpr hf3, hen]
  | DIV rs2 rs1 rd sgn | REM rs2 rs1 rd sgn =>
      obtain ⟨hen, hw⟩ := clause_eq_some.mp h
      obtain ⟨h₇, rfl, rfl, h₃, rfl, h₀⟩ := rtypeWord_eq_iff.mp hw
      obtain ⟨h₁₃, h₁₂⟩ := (append_eq_bits (m := 2) (n := 1)).mp h₃
      have hop := decodeMulOp_append (boolNotBits sgn)
      simp only [Nat.reduceAdd] at h₁₃ h₃
      rw [h₃] at hop
      simp [↓firstClause_clause, ↓firstClause_ite, ← h₀, ← h₇, ← h₁₃, ← h₁₂, hop, hen, boolNotBits_beq]
  | MULW rs2 rs1 rd =>
      obtain ⟨hen, hw⟩ := clause_eq_some.mp h
      obtain ⟨h₇, rfl, rfl, h₃, rfl, h₀⟩ := rtypeWord_eq_iff.mp hw
      simp only [Bool.and_eq_true, Bool.or_eq_true, decide_eq_true_eq] at hen
      simp [↓firstClause_clause, ↓firstClause_ite, ← h₀, ← h₇, ← h₃, hen]
  | DIVW rs2 rs1 rd sgn | REMW rs2 rs1 rd sgn =>
      obtain ⟨hen, hw⟩ := clause_eq_some.mp h
      obtain ⟨h₇, rfl, rfl, h₃, rfl, h₀⟩ := rtypeWord_eq_iff.mp hw
      obtain ⟨h₁₃, h₁₂⟩ := (append_eq_bits (m := 2) (n := 1)).mp h₃
      simp only [Bool.and_eq_true, decide_eq_true_eq] at hen
      simp only [Nat.reduceAdd] at h₁₃
      have hne : bits w 12 3 ≠ 0b000#3 := by
        rw [← h₃]
        cases sgn <;> decide
      simp [↓firstClause_clause, ↓firstClause_ite, ← h₀, ← h₇, ← h₁₃, ← h₁₂, hen, boolNotBits_beq, hne]

theorem ZifenceiInst.decode_of_encode {s : State} {w : BitVec 32} {i : ZifenceiInst}
    (h : i.encode s = some w) : ZifenceiInst.decode s w = some i := by
  cases i
  obtain ⟨hen, hw⟩ := clause_eq_some.mp h
  exact clause_eq_some.mpr ⟨beq_and.mpr ⟨hw.symm, hen⟩, rfl⟩

omit [Platform] in
theorem FenceHintInst.decode_of_encode {w : BitVec 32} {i : FenceHintInst}
    (h : i.encode = some w) : FenceHintInst.decode w = some i := by
  unfold FenceHintInst.decode
  cases i with
  | FENCE_RESERVED fm pred succ rs rd =>
      obtain ⟨hres, hw⟩ := clause_eq_some.mp h
      obtain ⟨h₁₂, rfl, h₃, rfl, h₀⟩ := itypeWord_eq_iff.mp hw
      obtain ⟨h₈, rfl⟩ := (append_eq_bits (m := 8) (n := 4)).mp h₁₂
      obtain ⟨h₂₈, rfl⟩ := (append_eq_bits (m := 4) (n := 4)).mp h₈
      rw [h₂₈] at hres ⊢
      exact firstClause_of_first (beq2_and.mpr ⟨h₃.symm, h₀.symm, hres⟩) rfl
  | FENCEI_RESERVED imm rs rd =>
      obtain ⟨hres, hw⟩ := clause_eq_some.mp h
      obtain ⟨rfl, rfl, h₃, rfl, h₀⟩ := itypeWord_eq_iff.mp hw
      exact firstClause_of_second (by rw [← h₃]; rfl) (beq2_and.mpr ⟨h₃.symm, h₀.symm, hres⟩) rfl

theorem SvinvalInst.decode_of_encode {s : State} {w : BitVec 32} {i : SvinvalInst}
    (h : i.encode s = some w) : SvinvalInst.decode s w = some i := by
  unfold SvinvalInst.decode
  cases i with
  | SINVAL_VMA rs1 rs2 =>
      obtain ⟨hen, hw⟩ := clause_eq_some.mp h
      obtain ⟨h₇, rfl, rfl, h₃, h₅, h₀⟩ := rtypeWord_eq_iff.mp hw
      have hlow : 0x0073#15 = bits w 0 15 := low15_eq_iff.mpr ⟨h₃, h₅, h₀⟩
      exact firstClause_of_first (beq2_and.mpr ⟨h₇.symm, hlow.symm, hen⟩) rfl
  | SFENCE_W_INVAL =>
      obtain ⟨hen, hw⟩ := clause_eq_some.mp h
      obtain rfl : 0x18000073#32 = w := hw
      simp [↓firstClause_clause, bits, hen]
  | SFENCE_INVAL_IR =>
      obtain ⟨hen, hw⟩ := clause_eq_some.mp h
      obtain rfl : 0x18100073#32 = w := hw
      simp [↓firstClause_clause, bits, hen]

omit [Platform] in
theorem ZicsrInst.decode_of_encode {w : BitVec 32} {i : ZicsrInst} (h : i.encode = some w) :
    ZicsrInst.decode w = some i := by
  obtain ⟨h₁₂, h₁, h₃, h₅, h₀⟩ := itypeWord_eq_iff.mp (Option.some.inj h)
  obtain ⟨h₁₄, hop⟩ := (append_eq_bits (m := 1) (n := 2)).mp h₃
  simp only [Nat.reduceAdd] at h₁₄
  unfold ZicsrInst.decode mapped
  rw [← h₀, if_pos (by decide), lookup_csrop.mpr hop, Option.map_some, ← h₁₂, ← h₁, ← h₅, ← h₁₄,
    boolToBits_beq]

theorem CacheBlockInst.decode_of_encode {s : State} {w : BitVec 32} {i : CacheBlockInst}
    (h : i.encode s = some w) : CacheBlockInst.decode s w = some i := by
  unfold CacheBlockInst.decode
  cases i with
  | RISCV_ZICBOM cbop rs1 =>
      obtain ⟨hen, hw⟩ := clause_eq_some.mp h
      obtain ⟨h₁₂, rfl, h₃, h₅, h₀⟩ := itypeWord_eq_iff.mp hw
      unfold rdOf at h₅
      simp [↓firstClause_clause, ↓firstClause_ite, decodeCbop_eq_some_iff.mpr h₁₂, ← h₃, ← h₅, ← h₀, hen]
  | RISCV_ZICBOZ rs1 =>
      obtain ⟨hen, hw⟩ := clause_eq_some.mp h
      obtain ⟨h₁₂, rfl, h₃, h₅, h₀⟩ := itypeWord_eq_iff.mp hw
      unfold rdOf at h₅
      simp [↓firstClause_clause, ↓firstClause_ite, decodeCbop, ← h₁₂, ← h₃, ← h₅, ← h₀, hen]

omit [Platform] in
/-- The fields of the word of an atomic instruction. -/
theorem atomicWord_eq_iff {f5 : BitVec 5} {aq rl : Bool} {rs2 rs1 : Regidx} {size : WordWidth}
    {rd : Regidx} {w : BitVec 32} : atomicWord f5 aq rl rs2 rs1 size rd = w ↔
      (f5 = bits w 27 5 ∧ boolToBits aq = bits w 26 1 ∧ boolToBits rl = bits w 25 1)
        ∧ rs2 = rs2Of w ∧ rs1 = rs1Of w ∧ (0b0#1 = bits w 14 1 ∧ sizeEnc size = bits w 12 2)
        ∧ rd = rdOf w ∧ 0b0101111#7 = bits w 0 7 := by
  unfold atomicWord
  rw [rtypeWord_eq_iff, append_eq_bits (m := 6) (n := 1), append_eq_bits (m := 5) (n := 1),
    append_eq_bits (m := 1) (n := 2)]
  simp only [and_assoc, Nat.reduceAdd]

theorem AtomicInst.decode_of_encode {s : State} {w : BitVec 32} {i : AtomicInst}
    (h : i.encode s = some w) : AtomicInst.decode s w = some i := by
  unfold AtomicInst.decode
  cases i with
  | LOADRES aq rl rs1 size rd =>
      obtain ⟨hen, hw⟩ := clause_eq_some.mp h
      obtain ⟨⟨h₂₇, h₂₆, h₂₅⟩, hrs2, rfl, ⟨h₁₄, h₁₂⟩, rfl, h₀⟩ := atomicWord_eq_iff.mp hw
      unfold rs2Of at hrs2
      simp [↓firstClause_clause, ← h₀, ← h₁₂, ← h₁₄, ← h₂₅, ← h₂₆, ← h₂₇, ← hrs2, boolToBits_beq,
        sizeDec_sizeEnc, Bool.and_eq_true_iff.mp hen]
  | STORECON aq rl rs2 rs1 size rd =>
      obtain ⟨hen, hw⟩ := clause_eq_some.mp h
      obtain ⟨⟨h₂₇, h₂₆, h₂₅⟩, rfl, rfl, ⟨h₁₄, h₁₂⟩, rfl, h₀⟩ := atomicWord_eq_iff.mp hw
      simp [↓firstClause_clause, ← h₀, ← h₁₂, ← h₁₄, ← h₂₅, ← h₂₆, ← h₂₇, boolToBits_beq, sizeDec_sizeEnc,
        Bool.and_eq_true_iff.mp hen]
  | AMO op aq rl rs2 rs1 size rd =>
      obtain ⟨hen, hw⟩ := clause_eq_some.mp h
      obtain ⟨⟨h₂₇, h₂₆, h₂₅⟩, rfl, rfl, ⟨h₁₄, h₁₂⟩, rfl, h₀⟩ := atomicWord_eq_iff.mp hw
      have hop := decodeAmoop_eq_some_iff.mpr h₂₇
      have hne : bits w 27 5 ≠ 0b00010#5 ∧ bits w 27 5 ≠ 0b00011#5 := by
        rw [← h₂₇]
        cases op <;> decide
      simp [↓firstClause_clause, ↓firstClause_ite, ← h₀, ← h₁₂, ← h₁₄, ← h₂₅, ← h₂₆, hop, hne, boolToBits_beq, sizeDec_sizeEnc,
        Bool.and_eq_true_iff.mp hen]

theorem ZbaInst.decode_of_encode {s : State} {w : BitVec 32} {i : ZbaInst}
    (h : i.encode s = some w) : ZbaInst.decode s w = some i := by
  unfold ZbaInst.decode isRtype
  cases i with
  | RISCV_SLLIUW shamt rs1 rd =>
      obtain ⟨hen, hw⟩ := clause_eq_some.mp h
      obtain ⟨⟨h₆, rfl⟩, rfl, h₃, rfl, h₀⟩ := shiftWord_eq_iff.mp hw
      simp [↓firstClause_clause, ↓beq3_and, ← h₀, ← h₃, ← h₆, hen]
  | ZBA_RTYPEUW rs2 rs1 rd op | ZBA_RTYPE rs2 rs1 rd op =>
      cases op
      all_goals
        obtain ⟨hen, hw⟩ := clause_eq_some.mp h
        obtain ⟨h₇, rfl, rfl, h₃, rfl, h₀⟩ := rtypeWord_eq_iff.mp hw
        simp [↓firstClause_clause, ↓beq3_and, ← h₀, ← h₃, ← h₇, hen]

theorem ZbcInst.decode_of_encode {s : State} {w : BitVec 32} {i : ZbcInst}
    (h : i.encode s = some w) : ZbcInst.decode s w = some i := by
  unfold ZbcInst.decode isRtype
  cases i with
  | RISCV_CLMUL rs2 rs1 rd | RISCV_CLMULH rs2 rs1 rd | RISCV_CLMULR rs2 rs1 rd =>
      obtain ⟨hen, hw⟩ := clause_eq_some.mp h
      obtain ⟨h₇, rfl, rfl, h₃, rfl, h₀⟩ := rtypeWord_eq_iff.mp hw
      simp [↓firstClause_clause, ↓beq3_and, ← h₀, ← h₃, ← h₇, hen]

theorem ZbbInst.decode_of_encode {s : State} {w : BitVec 32} {i : ZbbInst}
    (h : i.encode s = some w) : ZbbInst.decode s w = some i := by
  unfold ZbbInst.decode isRtype
  cases i with
  | RISCV_RORIW shamt rs1 rd =>
      obtain ⟨hen, hw⟩ := clause_eq_some.mp h
      obtain ⟨h₇, rfl, rfl, h₃, rfl, h₀⟩ := rtypeWord_eq_iff.mp hw
      simp [↓firstClause_clause, ↓beq3_and, ← h₀, ← h₃, ← h₇, hen]
  | RISCV_RORI shamt rs1 rd =>
      obtain ⟨hen, hw⟩ := clause_eq_some.mp h
      obtain ⟨⟨h₆, rfl⟩, rfl, h₃, rfl, h₀⟩ := shiftWord_eq_iff.mp hw
      rw [bits_bits w 20 6 5 1 (by decide)] at hen
      simp [↓firstClause_clause, ↓beq3_and, ← h₀, ← h₃, ← h₆, hen]
  | ZBB_RTYPEW rs2 rs1 rd op | ZBB_RTYPE rs2 rs1 rd op =>
      cases op
      all_goals
        obtain ⟨hen, hw⟩ := clause_eq_some.mp h
        obtain ⟨h₇, rfl, rfl, h₃, rfl, h₀⟩ := rtypeWord_eq_iff.mp hw
        simp [↓firstClause_clause, ↓beq3_and, ← h₀, ← h₃, ← h₇, hen]
  | ZBB_EXTOP rs1 rd op =>
      cases op with
      | RISCV_SEXTB | RISCV_SEXTH =>
          obtain ⟨hen, hw⟩ := clause_eq_some.mp h
          obtain ⟨h₇, h₅, rfl, h₃, rfl, h₀⟩ := rtypeWord_eq_iff.mp hw
          have h₁₂ := (append_eq_bits (m := 7) (n := 5)).mpr ⟨h₇, h₅⟩
          simp [↓firstClause_clause, ↓beq3_and, ← h₀, ← h₃, ← h₇, ← h₁₂, hen]
      | RISCV_ZEXTH =>
          rcases clauses_eq_some h with ⟨hen, hw⟩ | ⟨hen, hw⟩
          all_goals
            obtain ⟨h₇, h₅, rfl, h₃, rfl, h₀⟩ := rtypeWord_eq_iff.mp hw
            have h₁₂ := (append_eq_bits (m := 7) (n := 5)).mpr ⟨h₇, h₅⟩
            simp [↓firstClause_clause, ↓beq3_and, ← h₀, ← h₃, ← h₇, ← h₁₂, hen]
  | RISCV_REV8 rs1 rd =>
      rcases clauses_eq_some h with ⟨hen, hw⟩ | ⟨hen, hw⟩
      all_goals
        obtain ⟨h₁₂, rfl, h₃, rfl, h₀⟩ := itypeWord_eq_iff.mp hw
        have h₆ := funct6_of_funct12 h₁₂.symm
        simp [↓firstClause_clause, ↓beq3_and, ← h₀, ← h₃, h₆, ← h₁₂, hen]
  | RISCV_ORCB rs1 rd | RISCV_CPOP rs1 rd | RISCV_CPOPW rs1 rd | RISCV_CLZ rs1 rd
  | RISCV_CLZW rs1 rd | RISCV_CTZ rs1 rd | RISCV_CTZW rs1 rd =>
      obtain ⟨hen, hw⟩ := clause_eq_some.mp h
      obtain ⟨h₁₂, rfl, h₃, rfl, h₀⟩ := itypeWord_eq_iff.mp hw
      have h₆ := funct6_of_funct12 h₁₂.symm
      simp [↓firstClause_clause, ↓beq3_and, ← h₀, ← h₃, h₆, ← h₁₂, hen]

theorem ZbkbInst.decode_of_encode {s : State} {w : BitVec 32} {i : ZbkbInst}
    (h : i.encode s = some w) : ZbkbInst.decode s w = some i := by
  unfold ZbkbInst.decode isRtype
  cases i with
  | ZBKB_RTYPE rs2 rs1 rd op =>
      cases op
      all_goals
        obtain ⟨hen, hw⟩ := clause_eq_some.mp h
        obtain ⟨h₇, rfl, rfl, h₃, rfl, h₀⟩ := rtypeWord_eq_iff.mp hw
        simp [↓firstClause_clause, ↓beq3_and, ← h₀, ← h₃, ← h₇, hen]
  | ZBKB_PACKW rs2 rs1 rd =>
      obtain ⟨hen, hw⟩ := clause_eq_some.mp h
      obtain ⟨h₇, rfl, rfl, h₃, rfl, h₀⟩ := rtypeWord_eq_iff.mp hw
      simp [↓firstClause_clause, ↓beq3_and, ← h₀, ← h₃, ← h₇, hen]
  | RISCV_ZIP rs1 rd | RISCV_UNZIP rs1 rd | RISCV_BREV8 rs1 rd =>
      obtain ⟨hen, hw⟩ := clause_eq_some.mp h
      obtain ⟨h₁₂, rfl, h₃, rfl, h₀⟩ := itypeWord_eq_iff.mp hw
      simp [↓firstClause_clause, ↓beq3_and, ← h₀, ← h₃, ← h₁₂, hen]

theorem ZknInst.decode_of_encode {s : State} {w : BitVec 32} {i : ZknInst}
    (h : i.encode s = some w) : ZknInst.decode s w = some i := by
  unfold ZknInst.decode isRtype
  cases i with
  | AES32ESMI bs rs2 rs1 rd | AES32ESI bs rs2 rs1 rd | AES32DSMI bs rs2 rs1 rd
  | AES32DSI bs rs2 rs1 rd =>
      obtain ⟨hen, hw⟩ := clause_eq_some.mp h
      obtain ⟨h₇, rfl, rfl, h₃, rfl, h₀⟩ := rtypeWord_eq_iff.mp hw
      obtain ⟨rfl, h₅⟩ := (append_eq_bits (m := 2) (n := 5)).mp h₇
      simp [↓firstClause_clause, ↓beq3_and, ↓beq4_and, ← h₀, ← h₃, ← h₅, hen]
  | AES64KS1I rnum rs1 rd =>
      obtain ⟨hen, hw⟩ := clause_eq_some.mp h
      obtain ⟨h₇, h₅, rfl, h₃, rfl, h₀⟩ := rtypeWord_eq_iff.mp hw
      obtain ⟨h₂₄, rfl⟩ := (append_eq_bits (m := 1) (n := 4)).mp h₅
      simp only [Nat.reduceAdd] at h₂₄
      simp [↓firstClause_clause, ↓beq3_and, ↓beq4_and, ← h₀, ← h₃, ← h₇, ← h₂₄, hen]
  | AES64IM rs1 rd =>
      obtain ⟨hen, hw⟩ := clause_eq_some.mp h
      obtain ⟨h₇, h₅, rfl, h₃, rfl, h₀⟩ := rtypeWord_eq_iff.mp hw
      obtain ⟨h₂₄, -⟩ := (append_eq_bits (m := 1) (n := 4)).mp
        (show (0b0#1 ++ 0b0000#4 : BitVec 5) = bits w 20 5 from h₅)
      simp only [Nat.reduceAdd] at h₂₄
      simp [↓firstClause_clause, ↓beq3_and, ↓beq4_and, ← h₀, ← h₃, ← h₇, ← h₅, ← h₂₄, hen]
  | SHA256SIG0 rs1 rd | SHA256SIG1 rs1 rd | SHA256SUM0 rs1 rd | SHA256SUM1 rs1 rd
  | SHA512SIG0 rs1 rd | SHA512SIG1 rs1 rd | SHA512SUM0 rs1 rd
  | SHA512SUM1 rs1 rd =>
      obtain ⟨hen, hw⟩ := clause_eq_some.mp h
      obtain ⟨h₇, h₅, rfl, h₃, rfl, h₀⟩ := rtypeWord_eq_iff.mp hw
      simp [↓firstClause_clause, ↓beq3_and, ↓beq4_and, ← h₀, ← h₃, ← h₇, ← h₅, hen]
  | SHA512SIG0L rs2 rs1 rd | SHA512SIG0H rs2 rs1 rd | SHA512SIG1L rs2 rs1 rd
  | SHA512SIG1H rs2 rs1 rd | SHA512SUM0R rs2 rs1 rd | SHA512SUM1R rs2 rs1 rd
  | AES64KS2 rs2 rs1 rd | AES64ESM rs2 rs1 rd | AES64ES rs2 rs1 rd | AES64DSM rs2 rs1 rd
  | AES64DS rs2 rs1 rd =>
      obtain ⟨hen, hw⟩ := clause_eq_some.mp h
      obtain ⟨h₇, rfl, rfl, h₃, rfl, h₀⟩ := rtypeWord_eq_iff.mp hw
      have h₅ := ((append_eq_bits (m := 2) (n := 5)).mp h₇).2
      simp [↓firstClause_clause, ↓beq3_and, ↓beq4_and, ← h₀, ← h₃, ← h₇, ← h₅, hen]

end SailRiscv
