/-
# Computations that neither see nor touch a part of the state

A computation that commutes with the maps of a family `G` on the states neither reads nor
writes the part of the state that these maps change: `Commutes (G i) m`.  `Plain R G e m` says
this of `m`, that every completed run of `m` is an `R`-step, and that `m` never aborts with
`e`.  For a reflexive and transitive `R` the class is closed under the constructs of a
program, so that the three facts about a program follow together from facts about its primitive
operations.
-/
import SailRiscv.Lib.Exec

namespace Exec

variable {σ ε α β ι : Type}

/-! ## Commuting with a change of the state -/

/-- The value of `f` does not depend on what the maps of the family change. -/
class Indep (G : ι → σ → σ) (f : σ → α) : Prop where
  free : ∀ i s, f (G i s) = f s

/-- Run `m` before or after the change `g`: the result is the same. -/
class Commutes (g : σ → σ) (m : Exec σ ε α) : Prop where
  run_comm : ∀ s, m.run (g s) = (m.run s).map (fun p => (p.1, g p.2))

/-- A completed run in a changed state. -/
theorem Commutes.run_ok {g : σ → σ} {m : Exec σ ε α} (h : Commutes g m) {s s' : σ} {a : α}
    (hm : m.run s = .ok (a, s')) : m.run (g s) = .ok (a, g s') := by
  rw [h.run_comm, hm]
  rfl

/-- An aborted run in a changed state. -/
theorem Commutes.run_error {g : σ → σ} {m : Exec σ ε α} (h : Commutes g m) {s : σ} {e : ε}
    (hm : m.run s = .error e) : m.run (g s) = .error e := by
  rw [h.run_comm, hm]
  rfl

section Commutes

variable {g : σ → σ}

theorem commutes_pure (a : α) : Commutes g (pure a : Exec σ ε α) := ⟨fun _ => rfl⟩

theorem commutes_reads {f : σ → α} (h : ∀ s, f (g s) = f s) :
    Commutes g (reads f : Exec σ ε α) where
  run_comm s := by
    rw [run_reads, run_reads, h]
    rfl

theorem commutes_checks {f : σ → Except ε α} (h : ∀ s, f (g s) = f s) :
    Commutes g (checks f) where
  run_comm s := by
    rw [run_checks, run_checks, h]
    cases f s <;> rfl

theorem commutes_update {f : σ → σ} (h : ∀ s, f (g s) = g (f s)) :
    Commutes g (update f : Exec σ ε Unit) where
  run_comm s := by
    rw [run_update, run_update, h]
    rfl

theorem commutes_abort (e : ε) : Commutes g (abort e : Exec σ ε α) := ⟨fun _ => rfl⟩

theorem commutes_bind {m : Exec σ ε α} {f : α → Exec σ ε β} (hm : Commutes g m)
    (hf : ∀ a, Commutes g (f a)) : Commutes g (m >>= f) where
  run_comm s := by
    cases h : m.run s with
    | error e => rw [run_bind_of_error (hm.run_error h), run_bind_of_error h]; rfl
    | ok p => rw [run_bind_of_ok (hm.run_ok h), run_bind_of_ok h, (hf p.1).run_comm]

end Commutes

/-! ## The class -/

/-- Completed runs of `m` are `R`-steps, `m` commutes with `G`, and `m` never aborts with an
error of `E`. -/
class Plain (R : σ → σ → Prop) (G : ι → σ → σ) (E : ε → Prop) (m : Exec σ ε α) : Prop where
  keeps : Keeps R m
  comm : ∀ i, Commutes (G i) m
  avoids : ∀ s e, E e → m.run s ≠ .error e

section Plain

variable {R : σ → σ → Prop} {G : ι → σ → σ} {E : ε → Prop}

/-- The class for a weaker relation. -/
theorem Plain.mono {R' : σ → σ → Prop} {m : Exec σ ε α} (h : ∀ {s s'}, R s s' → R' s s')
    (hm : Plain R G E m) : Plain R' G E m :=
  ⟨hm.keeps.mono h, hm.comm, hm.avoids⟩

instance plain_pure [Std.Refl R] (a : α) : Plain R G E (pure a : Exec σ ε α) :=
  ⟨inferInstance, fun _ => commutes_pure a, fun _ _ _ => nofun⟩

instance plain_reads [Std.Refl R] (f : σ → α) [h : Indep G f] :
    Plain R G E (reads f : Exec σ ε α) :=
  ⟨inferInstance, fun i => commutes_reads (h.free i), fun _ _ _ => nofun⟩

/-- A check that reads other parts of the state and fails with other errors. -/
theorem plain_checks [Std.Refl R] {f : σ → Except ε α} (hG : ∀ i s, f (G i s) = f s)
    (he : ∀ s e, E e → f s ≠ .error e) : Plain R G E (checks f) where
  keeps := inferInstance
  comm i := commutes_checks (hG i)
  avoids s e hE h := by
    rw [run_checks] at h
    cases hf : f s with
    | error e' =>
        rw [hf] at h
        cases h
        exact he s e hE hf
    | ok a =>
        rw [hf] at h
        cases h

/-- An update of other parts of the state. -/
theorem plain_update {f : σ → σ} (hR : ∀ s, R s (f s)) (hG : ∀ i s, f (G i s) = G i (f s)) :
    Plain R G E (update f : Exec σ ε Unit) :=
  ⟨keeps_update hR, fun i => commutes_update (hG i), fun _ _ _ => nofun⟩

/-- An abort with another error. -/
theorem plain_abort {e' : ε} (h : ¬ E e') : Plain R G E (abort e' : Exec σ ε α) where
  keeps := inferInstance
  comm _ := commutes_abort e'
  avoids _ _ hE hr := by
    cases hr
    exact h hE

instance plain_bind [IsTrans σ R] (m : Exec σ ε α) (f : α → Exec σ ε β) [hm : Plain R G E m]
    [hf : ∀ a, Plain R G E (f a)] : Plain R G E (m >>= f) where
  keeps := @keeps_bind _ _ _ _ _ _ m f hm.keeps (fun a => (hf a).keeps)
  comm i := commutes_bind (hm.comm i) (fun a => (hf a).comm i)
  avoids s e hE h := by
    cases hr : m.run s with
    | error e' =>
        rw [run_bind_of_error hr] at h
        cases h
        exact hm.avoids s e hE hr
    | ok p =>
        rw [run_bind_of_ok hr] at h
        exact (hf p.1).avoids p.2 e hE h

/-- A computation that depends on other parts of the state. -/
theorem plain_get_bind {k : σ → Exec σ ε α} (hk : ∀ s, Plain R G E (k s))
    (hG : ∀ i s, k (G i s) = k s) : Plain R G E (get >>= k) where
  keeps := ⟨fun {s _ _} h => (hk s).keeps.rel h⟩
  comm i := ⟨fun s => by
    change (k (G i s)).run (G i s) = ((k s).run s).map _
    rw [hG, ((hk s).comm i).run_comm]⟩
  avoids s := (hk s).avoids s

instance plain_ite (c : Prop) [Decidable c] (m n : Exec σ ε α) [Plain R G E m]
    [Plain R G E n] : Plain R G E (if c then m else n) := by
  split <;> infer_instance

/-- A conditional, each branch of which may use its condition. -/
theorem plain_of_ite {c : Prop} [Decidable c] {m n : Exec σ ε α} (hm : c → Plain R G E m)
    (hn : ¬ c → Plain R G E n) : Plain R G E (if c then m else n) := by
  by_cases hc : c
  · rw [if_pos hc]
    exact hm hc
  · rw [if_neg hc]
    exact hn hc

variable [Std.Refl R] [IsTrans σ R]

instance plain_foreach (start n : ℕ) (acc : α) (body : ℕ → α → Exec σ ε α)
    [h : ∀ i a, Plain R G E (body i a)] : Plain R G E (foreach start n acc body) := by
  induction n generalizing start acc with
  | zero => rw [foreach]; infer_instance
  | succ n ih =>
      rw [foreach]
      have := fun a => ih (start + 1) a
      infer_instance

instance plain_foreachUntil (start n : ℕ) (body : ℕ → Exec σ ε (Option α))
    [h : ∀ i, Plain R G E (body i)] : Plain R G E (foreachUntil start n body) := by
  induction n generalizing start with
  | zero => rw [foreachUntil]; infer_instance
  | succ n ih =>
      rw [foreachUntil]
      have : ∀ r : Option α, Plain R G E (match r with
          | some a => (pure (some a) : Exec σ ε (Option α))
          | none => foreachUntil (start + 1) n body) := by
        intro r
        rcases r with _ | a
        · exact ih (start + 1)
        · infer_instance
      infer_instance

instance plain_foreachTry (start n : ℕ) (acc : α) (body : ℕ → α → Exec σ ε (Option α))
    [h : ∀ i a, Plain R G E (body i a)] : Plain R G E (foreachTry start n acc body) := by
  induction n generalizing start acc with
  | zero => rw [foreachTry]; infer_instance
  | succ n ih =>
      rw [foreachTry]
      have : ∀ r : Option α, Plain R G E (match r with
          | some acc' => foreachTry (start + 1) n acc' body
          | none => (pure none : Exec σ ε (Option α))) := by
        intro r
        rcases r with _ | acc'
        · infer_instance
        · exact ih (start + 1) acc'
      infer_instance

end Plain

end Exec
