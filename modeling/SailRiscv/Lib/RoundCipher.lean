/-
# Ciphers of rounds

A block goes through rounds, each of which substitutes, mixes and adds a key; the last round does
not mix.  The inverse cipher has rounds of the same shape: it mixes the keys, because its mixing
comes before the key is added.
-/
import Mathlib

/-- The parts of a round, with what makes them invertible. -/
structure RoundCipher (X : Type*) where
  sub : X → X
  subInv : X → X
  mix : X → X
  mixInv : X → X
  add : X → X → X
  subInv_sub : ∀ x, subInv (sub x) = x
  mixInv_mix : ∀ x, mixInv (mix x) = x
  mixInv_add : ∀ x k, mixInv (add x k) = add (mixInv x) (mixInv k)
  add_add : ∀ x k, add (add x k) k = x

namespace RoundCipher

variable {X : Type*} (C : RoundCipher X)

/-- A round. -/
def forward (x k : X) : X := C.add (C.mix (C.sub x)) k

/-- A round of the inverse cipher. -/
def backward (y k : X) : X := C.add (C.mixInv (C.subInv y)) (C.mixInv k)

/-- The cipher with the first key, the keys of the rounds and the last key. -/
def encrypt (first : X) (keys : List X) (last x : X) : X :=
  C.add (C.sub (keys.foldl C.forward (C.add x first))) last

/-- The inverse cipher, with the same keys. -/
def decrypt (first : X) (keys : List X) (last y : X) : X :=
  C.add (C.subInv (keys.reverse.foldl C.backward (C.add y last))) first

/-- A round of the inverse cipher undoes a round, up to a substitution. -/
theorem backward_sub_forward (x k : X) : C.backward (C.sub (C.forward x k)) k = C.sub x := by
  unfold backward forward
  rw [C.subInv_sub, C.mixInv_add, C.mixInv_mix, C.add_add]

/-- So do all the rounds. -/
theorem foldl_backward_sub (keys : List X) (x : X) :
    keys.reverse.foldl C.backward (C.sub (keys.foldl C.forward x)) = C.sub x := by
  induction keys using List.reverseRecOn with
  | nil => rfl
  | append_singleton keys k ih =>
      -- the last round of the one is the first of the other
      rw [List.foldl_append, List.reverse_append, List.foldl_append]
      show keys.reverse.foldl C.backward (C.backward (C.sub (C.forward _ k)) k) = _
      rw [C.backward_sub_forward, ih]

/-- **The inverse cipher gives the block back.** -/
theorem decrypt_encrypt (first : X) (keys : List X) (last x : X) :
    C.decrypt first keys last (C.encrypt first keys last x) = x := by
  unfold decrypt encrypt
  rw [C.add_add, C.foldl_backward_sub, C.subInv_sub, C.add_add]

end RoundCipher
