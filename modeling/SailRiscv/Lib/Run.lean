/-
# Runs of labelled steps

A system is a relation `step l s s'` between states, labelled by what the environment
asks for.  `Run step P s₀ s` says that `s` is reached from `s₀` by steps each of which
meets `P` in the state it starts from; `Free` is the condition that every step meets.  `Trace` keeps
the list of the steps.
-/
import Mathlib

variable {σ L : Type}

/-- `s` is reached from `s₀` by steps that meet `P`. -/
inductive Run (step : L → σ → σ → Prop) (P : σ → L → Prop) (s₀ : σ) : σ → Prop
  | start : Run step P s₀ s₀
  | next {s s' : σ} {l : L} : Run step P s₀ s → P s l → step l s s' → Run step P s₀ s'

/-- The steps that lead from `s₀` to a state, the last one first, each with the states before and
after it. -/
inductive Trace (step : L → σ → σ → Prop) (s₀ : σ) : List (σ × L × σ) → σ → Prop
  | nil : Trace step s₀ [] s₀
  | cons {path : List (σ × L × σ)} {s s' : σ} {l : L} : Trace step s₀ path s → step l s s' →
      Trace step s₀ ((s, l, s') :: path) s'

namespace Trace

variable {step : L → σ → σ → Prop} {s₀ s : σ} {path : List (σ × L × σ)}

/-- What holds of every step holds along every trace. -/
theorem forall_of_step {P : σ × L × σ → Prop} (h : Trace step s₀ path s)
    (hstep : ∀ {s l s'}, step l s s' → P (s, l, s')) : ∀ x ∈ path, P x := by
  induction h with
  | nil => nofun
  | cons _ hs ih =>
      intro x hx
      rcases List.mem_cons.mp hx with rfl | hx
      · exact hstep hs
      · exact ih x hx

/-- An invariant of the start that every step of the trace keeps. -/
theorem invariant {I : σ → Prop} (h : Trace step s₀ path s) (hstart : I s₀)
    (hstep : ∀ {s l s'}, (s, l, s') ∈ path → I s → step l s s' → I s') : I s := by
  induction h with
  | nil => exact hstart
  | cons _ hs ih =>
      refine hstep (List.mem_cons_self ..) (ih ?_) hs
      intro s l s' hx
      exact hstep (List.mem_cons_of_mem _ hx)

/-- What holds of the start and after every step holds of the end. -/
theorem of_forall {I : σ → Prop} (h : Trace step s₀ path s) (hstart : I s₀)
    (hpath : ∀ x ∈ path, I x.2.2) : I s := by
  cases h with
  | nil => exact hstart
  | cons _ _ => exact hpath _ (List.mem_cons_self ..)

/-- An invariant that every good step keeps and every bad step breaks holds throughout exactly
if no step is bad. -/
theorem forall_iff {I : σ → Prop} {B : σ × L × σ → Prop} (h : Trace step s₀ path s)
    (hstart : I s₀) (hkeep : ∀ {s l s'}, step l s s' → ¬ B (s, l, s') → I s → I s')
    (hbreak : ∀ {s l s'}, step l s s' → B (s, l, s') → ¬ I s') :
    (∀ x ∈ path, I x.2.2) ↔ ∀ x ∈ path, ¬ B x := by
  induction h with
  | nil => simp
  | cons htrace hs ih =>
      rw [List.forall_mem_cons, List.forall_mem_cons, ← ih]
      constructor
      · rintro ⟨hI, hpath⟩
        exact ⟨fun hB => hbreak hs hB hI, hpath⟩
      · rintro ⟨hB, hpath⟩
        exact ⟨hkeep hs hB (htrace.of_forall hstart hpath), hpath⟩

end Trace

namespace Run

variable {step : L → σ → σ → Prop} {P Q : σ → L → Prop} {s₀ s₁ s : σ}

/-- The condition that every step meets. -/
def Free : σ → L → Prop := fun _ _ => True

/-- An invariant of the start that every step keeps holds in every state of a run. -/
theorem invariant {I : σ → Prop} (hrun : Run step P s₀ s) (hstart : I s₀)
    (hstep : ∀ {s l s'}, I s → P s l → step l s s' → I s') : I s := by
  induction hrun with
  | start => exact hstart
  | next _ hP hs ih => exact hstep ih hP hs

/-- A run under a stronger condition is a run under a weaker one. -/
theorem mono (hPQ : ∀ s l, P s l → Q s l) (hrun : Run step P s₀ s) : Run step Q s₀ s := by
  induction hrun with
  | start => exact .start
  | next _ hP hs ih => exact .next ih (hPQ _ _ hP) hs

/-- Runs compose. -/
theorem trans (h₁ : Run step P s₀ s₁) (h₂ : Run step P s₁ s) : Run step P s₀ s := by
  induction h₂ with
  | start => exact h₁
  | next _ hP hs ih => exact .next ih hP hs

/-- Every run is a run under no condition. -/
theorem free (hrun : Run step P s₀ s) : Run step Free s₀ s :=
  hrun.mono (fun _ _ _ => trivial)

end Run
