import AssetPilot.Lib.Transaction

/-!
# Two runs of a transaction

`Coupled Q x y r s s'`: `x` from `s` and `y` from `s'` fail with the same error, or both succeed, and `Q` relates
their values and the stores they leave. A program is `Blind` to a relation of stores when it cannot tell related
stores apart: it ends in the same way, with the same value, and leaves related stores. What is built from blind
programs is blind.
-/

namespace Txn

variable {ρ σ ε α β γ δ : Type} {Q : α → β → σ → σ → Prop} {r : ρ} {s s' : σ}

/-- The two programs end alike. -/
def Coupled (Q : α → β → σ → σ → Prop) (x : Txn ρ σ ε α) (y : Txn ρ σ ε β) (r : ρ) (s s' : σ) : Prop :=
  match x r s, y r s' with
  | .ok (a, t), .ok (b, t') => Q a b t t'
  | .error e, .error e' => e = e'
  | _, _ => False

theorem coupled_iff {x : Txn ρ σ ε α} {y : Txn ρ σ ε β} : Coupled Q x y r s s' ↔
    (∃ a t b t', x.Runs r s a t ∧ y.Runs r s' b t' ∧ Q a b t t') ∨ ∃ e, x.Fails r s e ∧ y.Fails r s' e := by
  unfold Coupled Runs Fails
  rcases x r s with e | ⟨a, t⟩ <;> rcases y r s' with e' | ⟨b, t'⟩
  · simp [eq_comm]
  · simp
  · simp
  · simp only [Except.ok.injEq, Prod.mk.injEq, reduceCtorEq, and_self, exists_false, or_false]
    constructor
    · exact fun h => ⟨a, t, b, t', ⟨rfl, rfl⟩, ⟨rfl, rfl⟩, h⟩
    · rintro ⟨_, _, _, _, ⟨rfl, rfl⟩, ⟨rfl, rfl⟩, h⟩
      exact h

namespace Coupled

theorem of_runs {x : Txn ρ σ ε α} {y : Txn ρ σ ε β} {a : α} {b : β} {t t' : σ} (hx : x.Runs r s a t)
    (hy : y.Runs r s' b t') (hQ : Q a b t t') : Coupled Q x y r s s' :=
  coupled_iff.mpr (.inl ⟨a, t, b, t', hx, hy, hQ⟩)

theorem of_fails {x : Txn ρ σ ε α} {y : Txn ρ σ ε β} {e : ε} (hx : x.Fails r s e) (hy : y.Fails r s' e) :
    Coupled Q x y r s s' :=
  coupled_iff.mpr (.inr ⟨e, hx, hy⟩)

theorem mono {P : α → β → σ → σ → Prop} {x : Txn ρ σ ε α} {y : Txn ρ σ ε β} (h : Coupled P x y r s s')
    (hPQ : ∀ {a b t t'}, P a b t t' → Q a b t t') : Coupled Q x y r s s' := by
  rcases coupled_iff.mp h with ⟨a, t, b, t', hx, hy, hab⟩ | ⟨e, hx, hy⟩
  · exact of_runs hx hy (hPQ hab)
  · exact of_fails hx hy

/-- **The rule of sequence.** -/
theorem bind {Q : γ → δ → σ → σ → Prop} {P : α → β → σ → σ → Prop} {x : Txn ρ σ ε α} {y : Txn ρ σ ε β}
    {f : α → Txn ρ σ ε γ} {g : β → Txn ρ σ ε δ} (h : Coupled P x y r s s')
    (hfg : ∀ a b t t', P a b t t' → Coupled Q (f a) (g b) r t t') : Coupled Q (x >>= f) (y >>= g) r s s' := by
  rcases coupled_iff.mp h with ⟨a, t, b, t', hx, hy, hab⟩ | ⟨e, hx, hy⟩
  · rcases coupled_iff.mp (hfg a b t t' hab) with ⟨c, u, d, u', hf, hg, hcd⟩ | ⟨e, hf, hg⟩
    · exact of_runs (runs_bind.mpr ⟨a, t, hx, hf⟩) (runs_bind.mpr ⟨b, t', hy, hg⟩) hcd
    · exact of_fails (fails_bind.mpr (.inr ⟨a, t, hx, hf⟩)) (fails_bind.mpr (.inr ⟨b, t', hy, hg⟩))
  · exact of_fails (fails_bind.mpr (.inl hx)) (fails_bind.mpr (.inl hy))

theorem pure {a : α} {b : β} (h : Q a b s s') : Coupled Q (Pure.pure a : Txn ρ σ ε α) (Pure.pure b) r s s' := h

theorem raiseIf {Q : Unit → Unit → σ → σ → Prop} {c : Prop} [Decidable c] {e : ε} (h : Q () () s s') :
    Coupled Q (Txn.raiseIf c e) (Txn.raiseIf c e) r s s' := by
  unfold Txn.raiseIf
  split
  · exact of_fails rfl rfl
  · exact pure h

theorem embed {ε' : Type} {f : ε → ε'} {x : Txn ρ σ ε α} {y : Txn ρ σ ε β} (h : Coupled Q x y r s s') :
    Coupled Q (Txn.embed f x) (Txn.embed f y) r s s' := by
  rcases coupled_iff.mp h with ⟨a, t, b, t', hx, hy, hab⟩ | ⟨e, hx, hy⟩
  · exact of_runs (runs_embed.mpr hx) (runs_embed.mpr hy) hab
  · exact of_fails (fails_embed.mpr ⟨e, hx, rfl⟩) (fails_embed.mpr ⟨e, hy, rfl⟩)

end Coupled

/-! ### Programs that cannot tell -/

variable {R : σ → σ → Prop}

/-- The program cannot tell related stores apart. -/
def Blind (R : σ → σ → Prop) (x : Txn ρ σ ε α) : Prop :=
  ∀ r s s', R s s' → Coupled (fun a b t t' => a = b ∧ R t t') x x r s s'

namespace Blind

theorem pure (a : α) : Blind R (Pure.pure a : Txn ρ σ ε α) := fun _ _ _ h => Coupled.pure ⟨rfl, h⟩

theorem bind {x : Txn ρ σ ε α} {f : α → Txn ρ σ ε β} (hx : Blind R x) (hf : ∀ a, Blind R (f a)) :
    Blind R (x >>= f) := by
  intro r s s' h
  refine (hx r s s' h).bind fun a b t t' hab => ?_
  obtain ⟨rfl, ht⟩ := hab
  exact hf a r t t' ht

theorem read {f : σ → α} (hf : ∀ s s', R s s' → f s = f s') :
    Blind R (do let s ← get; return f s : Txn ρ σ ε α) := by
  intro r s s' h
  have hruns (s : σ) : (do let s ← get; return f s : Txn ρ σ ε α).Runs r s (f s) s := rfl
  exact .of_runs (hruns s) (hruns s') ⟨hf s s' h, h⟩

theorem ask : Blind R (Txn.ask : Txn ρ σ ε ρ) := by
  intro r s s' h
  have hruns (s : σ) : (Txn.ask : Txn ρ σ ε ρ).Runs r s r s := rfl
  exact .of_runs (hruns s) (hruns s') ⟨rfl, h⟩

theorem raise (e : ε) : Blind R (Txn.raise e : Txn ρ σ ε α) := fun _ _ _ _ => rfl

theorem raiseIf (c : Prop) [Decidable c] (e : ε) : Blind R (Txn.raiseIf c e : Txn ρ σ ε Unit) :=
  fun _ _ _ h => Coupled.raiseIf ⟨rfl, h⟩

theorem orRaise (o : Option α) (e : ε) : Blind R (Txn.orRaise o e : Txn ρ σ ε α) := by
  cases o with
  | none => exact raise e
  | some a => exact pure a

theorem mapFailure {x : Txn ρ σ ε α} (f : ε → ε) (hx : Blind R x) : Blind R (Txn.mapFailure f x) := by
  intro r s s' h
  rcases coupled_iff.mp (hx r s s' h) with ⟨a, t, b, t', hrun, hrun', hab⟩ | ⟨e, hfail, hfail'⟩
  · exact .of_runs (runs_mapFailure.mpr hrun) (runs_mapFailure.mpr hrun') hab
  · exact .of_fails (fails_mapFailure.mpr ⟨e, hfail, rfl⟩) (fails_mapFailure.mpr ⟨e, hfail', rfl⟩)

theorem embed {ε' : Type} {x : Txn ρ σ ε α} (f : ε → ε') (hx : Blind R x) : Blind R (Txn.embed f x) :=
  fun r s s' h => (hx r s s' h).embed

theorem forEach {f : Nat → α → Txn ρ σ ε Unit} (hf : ∀ n a, Blind R (f n a)) (as : List α) (n : Nat) :
    Blind R (Txn.forEach f n as) := by
  induction as generalizing n with
  | nil => exact pure ()
  | cons a as ih => exact (hf n a).bind fun _ => ih (n + 1)

theorem exec {x : Txn ρ σ ε α} (hx : Blind R x) (h : R s s') : R (x.exec r s) (x.exec r s') := by
  rcases coupled_iff.mp (hx r s s' h) with ⟨a, t, b, t', hrun, hrun', -, ht⟩ | ⟨e, hfail, hfail'⟩
  · rwa [hrun.exec, hrun'.exec]
  · rwa [hfail.exec, hfail'.exec]

end Blind

end Txn
