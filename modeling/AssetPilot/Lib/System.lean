import Mathlib.Data.List.Basic
import Mathlib.Data.List.Induction

/-!
# Labelled systems and their guarded runs

`Run step ok s s'`: a finite sequence of events leads from `s` to `s'`, and `ok` allowed each event in
the state it happened in. An invariant of the run is proved once, from what one allowed step preserves
(`Run.inv`). `Recorded` is the system with a history variable beside its state.
-/

namespace System

variable {σ ε : Type}

/-- Finitely many steps from the first state to the second, each allowed by `ok`. -/
inductive Run (step : σ → ε → σ → Prop) (ok : σ → ε → Prop) (s : σ) : σ → Prop
  | refl : Run step ok s s
  | step {s₁ s₂ : σ} (run : Run step ok s s₁) (e : ε) (allowed : ok s₁ e) (h : step s₁ e s₂) :
      Run step ok s s₂

variable {step : σ → ε → σ → Prop} {ok : σ → ε → Prop} {s s₁ : σ}

/-- **The invariant rule**: what every allowed step preserves holds in every state a run reaches. -/
theorem Run.inv {P : σ → Prop} (hstep : ∀ s e s', P s → ok s e → step s e s' → P s')
    (h : Run step ok s s₁) (hs : P s) : P s₁ := by
  induction h with
  | refl => exact hs
  | step _ e allowed h ih => exact hstep _ _ _ ih allowed h

theorem Run.foldl {f : σ → ε → σ} (hstep : ∀ s e, step s e (f s e)) (hok : ∀ s e, ok s e) (events : List ε) :
    Run step ok s (events.foldl f s) := by
  induction events using List.reverseRecOn with
  | nil => exact .refl
  | append_singleton events e ih =>
    rw [List.foldl_concat]
    exact .step ih e (hok _ _) (hstep _ _)

/-! ### History variables -/

variable {ρ : Type} {record : σ → ε → List ρ}

/-- The same system, with a variable that collects what `record` says of each step. -/
def Recorded (step : σ → ε → σ → Prop) (record : σ → ε → List ρ) (s : σ × List ρ) (e : ε) (s' : σ × List ρ) :
    Prop :=
  step s.1 e s'.1 ∧ s'.2 = s.2 ++ record s.1 e

/-- **The rule for history variables**: what holds of everything that an allowed step records holds of the
whole history. -/
theorem Run.forall_recorded {P : ρ → Prop} {allowed : σ × List ρ → ε → Prop} {s s₁ : σ × List ρ}
    (hstep : ∀ s e, allowed s e → ∀ x ∈ record s.1 e, P x) (h : Run (Recorded step record) allowed s s₁)
    (hs : ∀ x ∈ s.2, P x) : ∀ x ∈ s₁.2, P x := by
  refine h.inv (P := fun s => ∀ x ∈ s.2, P x) (fun s e s' hold hallowed hrecorded x hx => ?_) hs
  rw [hrecorded.2] at hx
  rcases List.mem_append.mp hx with hx | hx
  · exact hold x hx
  · exact hstep s e hallowed x hx

end System
