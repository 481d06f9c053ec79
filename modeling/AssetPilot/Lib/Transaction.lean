import Mathlib.Logic.Basic
import Mathlib.Tactic.TypeStar

/-!
# Transactions

`Txn ρ σ ε α` is a computation that reads an environment `ρ`, reads and writes a store `σ`, and ends
with a value or with a failure. `Runs` says that it succeeds and what it leaves behind, `Fails` that it
fails; both are computed through `bind` by the simp lemmas below, so a program is inverted once into
the guards it passed and the store it wrote. `exec` is the transaction boundary: a failure restores
the store the transaction started from.
-/

/-- A computation over a store that may fail. -/
def Txn (ρ σ ε α : Type) : Type := ρ → σ → Except ε (α × σ)

namespace Txn

variable {ρ σ ε α β : Type}

instance : Monad (Txn ρ σ ε) where
  pure a := fun _ s => .ok (a, s)
  bind x f := fun r s =>
    match x r s with
    | .ok (a, s₁) => f a r s₁
    | .error e => .error e

protected theorem pure_bind (a : α) (f : α → Txn ρ σ ε β) : pure a >>= f = f a := rfl

protected theorem bind_assoc {γ : Type} (x : Txn ρ σ ε α) (f : α → Txn ρ σ ε β) (g : β → Txn ρ σ ε γ) :
    x >>= f >>= g = x >>= fun a => f a >>= g := by
  funext r s
  show (match (match x r s with | .ok (a, s₁) => f a r s₁ | .error e => .error e) with
    | .ok (b, s₁) => g b r s₁ | .error e => .error e) = _
  rcases hx : x r s with e | ⟨a, s₁⟩ <;> simp only [bind, hx]

/-- The environment of the call. -/
def ask : Txn ρ σ ε ρ := fun r s => .ok (r, s)

/-- The current store. -/
def get : Txn ρ σ ε σ := fun _ s => .ok (s, s)

/-- Change the store. -/
def modify (f : σ → σ) : Txn ρ σ ε Unit := fun _ s => .ok ((), f s)

/-- Fail. -/
def raise (e : ε) : Txn ρ σ ε α := fun _ _ => .error e

/-- The guard of a program: fail when `c` holds. -/
def raiseIf (c : Prop) [Decidable c] (e : ε) : Txn ρ σ ε Unit := if c then raise e else pure ()

/-- The value of an optional result, or a failure. -/
def orRaise (o : Option α) (e : ε) : Txn ρ σ ε α := o.elim (raise e) pure

/-- A check that has been computed already. -/
def check (c : Except ε Unit) : Txn ρ σ ε Unit := fun _ s => c.map fun _ => ((), s)

/-- Translate the failures of `x`. -/
def mapFailure (f : ε → ε) (x : Txn ρ σ ε α) : Txn ρ σ ε α := fun r s => (x r s).mapError f

/-- `x`, with its failures among others. -/
def embed {ε' : Type} (f : ε → ε') (x : Txn ρ σ ε α) : Txn ρ σ ε' α := fun r s => (x r s).mapError f

/-- Run `f` on each element with its position, in order. -/
def forEach (f : Nat → α → Txn ρ σ ε Unit) : Nat → List α → Txn ρ σ ε Unit
  | _, [] => pure ()
  | n, a :: as => do
    f n a
    forEach f (n + 1) as

/-- `x` succeeds from `s` with value `a` and leaves `s'`. -/
def Runs (x : Txn ρ σ ε α) (r : ρ) (s : σ) (a : α) (s' : σ) : Prop := x r s = .ok (a, s')

/-- `x` fails from `s` with `e`. -/
def Fails (x : Txn ρ σ ε α) (r : ρ) (s : σ) (e : ε) : Prop := x r s = .error e

/-- The store after the transaction: what it wrote, or what it started from when it failed. -/
def exec (x : Txn ρ σ ε α) (r : ρ) (s : σ) : σ :=
  match x r s with
  | .ok (_, s') => s'
  | .error _ => s

/-- The program succeeds. -/
def succeeds (x : Txn ρ σ ε α) (r : ρ) (s : σ) : Bool := (x r s).isOk

/-! ### Success -/

variable {r : ρ} {s s' : σ}

@[simp] theorem runs_pure {a b : α} : (pure a : Txn ρ σ ε α).Runs r s b s' ↔ b = a ∧ s' = s := by
  show Except.ok (a, s) = Except.ok (b, s') ↔ _
  simp [eq_comm]

@[simp] theorem runs_bind {x : Txn ρ σ ε α} {f : α → Txn ρ σ ε β} {b : β} :
    (x >>= f).Runs r s b s' ↔ ∃ a s₁, x.Runs r s a s₁ ∧ (f a).Runs r s₁ b s' := by
  show (match x r s with | .ok (a, s₁) => f a r s₁ | .error e => .error e) = _ ↔ _
  unfold Runs
  rcases x r s with e | ⟨a, s₁⟩ <;> simp [and_assoc]

@[simp] theorem runs_ask {a : ρ} : (ask : Txn ρ σ ε ρ).Runs r s a s' ↔ a = r ∧ s' = s := by
  simp [Runs, ask, eq_comm]

@[simp] theorem runs_get {a : σ} : (get : Txn ρ σ ε σ).Runs r s a s' ↔ a = s ∧ s' = s := by
  simp [Runs, get, eq_comm]

@[simp] theorem runs_modify {f : σ → σ} {a : Unit} :
    (modify f : Txn ρ σ ε Unit).Runs r s a s' ↔ s' = f s := by
  simp [Runs, modify, eq_comm]

@[simp] theorem runs_raise {e : ε} {a : α} : (raise e : Txn ρ σ ε α).Runs r s a s' ↔ False := by
  simp [Runs, raise]

@[simp] theorem runs_raiseIf {c : Prop} [Decidable c] {e : ε} {a : Unit} :
    (raiseIf c e : Txn ρ σ ε Unit).Runs r s a s' ↔ ¬ c ∧ s' = s := by
  by_cases h : c <;> simp [raiseIf, h]

@[simp] theorem runs_orRaise {o : Option α} {e : ε} {a : α} :
    (orRaise o e : Txn ρ σ ε α).Runs r s a s' ↔ o = some a ∧ s' = s := by
  cases o <;> simp [orRaise, eq_comm]

@[simp] theorem runs_check {c : Except ε Unit} {a : Unit} :
    (check c : Txn ρ σ ε Unit).Runs r s a s' ↔ c = .ok () ∧ s' = s := by
  cases c <;> simp [Runs, check, Except.map, eq_comm]

@[simp] theorem runs_mapFailure {f : ε → ε} {x : Txn ρ σ ε α} {a : α} :
    (mapFailure f x).Runs r s a s' ↔ x.Runs r s a s' := by
  unfold Runs mapFailure
  rcases x r s with e | p
  · show Except.error (f e) = Except.ok (a, s') ↔ _
    simp
  · exact Iff.rfl

@[simp] theorem runs_embed {ε' : Type} {f : ε → ε'} {x : Txn ρ σ ε α} {a : α} :
    (embed f x).Runs r s a s' ↔ x.Runs r s a s' := by
  unfold Runs embed
  rcases x r s with e | p
  · show Except.error (f e) = Except.ok (a, s') ↔ _
    simp
  · show Except.ok p = Except.ok (a, s') ↔ _
    simp

/-- What every turn of a loop preserves, the loop preserves. -/
theorem forEach_inv {P : σ → Prop} {f : Nat → α → Txn ρ σ ε Unit}
    (hf : ∀ n a s u s', P s → (f n a).Runs r s u s' → P s') {as : List α} {n : Nat} {u : Unit} {s s' : σ}
    (hs : P s) (h : (forEach f n as).Runs r s u s') : P s' := by
  induction as generalizing n s with
  | nil =>
    obtain ⟨-, rfl⟩ := runs_pure.mp h
    exact hs
  | cons a as ih =>
    obtain ⟨_, s₁, h₁, h₂⟩ := runs_bind.mp h
    exact ih (hf n a s _ s₁ hs h₁) h₂

/-- Two programs go on alike after `x`, when they do so from what `x` can leave. -/
theorem bind_congr_runs {x : Txn ρ σ ε α} {f g : α → Txn ρ σ ε β}
    (h : ∀ a s', x.Runs r s a s' → f a r s' = g a r s') : (x >>= f) r s = (x >>= g) r s := by
  show (match x r s with | .ok (a, s₁) => f a r s₁ | .error e => .error e) =
    match x r s with | .ok (a, s₁) => g a r s₁ | .error e => .error e
  cases hx : x r s with
  | ok p => exact h p.1 p.2 hx
  | error e => rfl

theorem bind_congr_left {x y : Txn ρ σ ε α} {f : α → Txn ρ σ ε β} (h : x r s = y r s) :
    (x >>= f) r s = (y >>= f) r s := by
  show (match x r s with | .ok (a, s₁) => f a r s₁ | .error e => .error e) = _
  rw [h]
  rfl

theorem mapFailure_congr {f : ε → ε} {x y : Txn ρ σ ε α} (h : x r s = y r s) :
    mapFailure f x r s = mapFailure f y r s := by
  rw [mapFailure, mapFailure, h]

/-! ### Failure -/

variable {e : ε}

@[simp] theorem fails_pure {a : α} : (pure a : Txn ρ σ ε α).Fails r s e ↔ False := by
  show Except.ok (a, s) = Except.error e ↔ _
  simp

@[simp] theorem fails_bind {x : Txn ρ σ ε α} {f : α → Txn ρ σ ε β} :
    (x >>= f).Fails r s e ↔ x.Fails r s e ∨ ∃ a s₁, x.Runs r s a s₁ ∧ (f a).Fails r s₁ e := by
  show (match x r s with | .ok (a, s₁) => f a r s₁ | .error e => .error e) = _ ↔ _
  unfold Runs Fails
  rcases x r s with e' | ⟨a, s₁⟩ <;> simp [and_assoc]

@[simp] theorem fails_ask : (ask : Txn ρ σ ε ρ).Fails r s e ↔ False := by simp [Fails, ask]

@[simp] theorem fails_get : (get : Txn ρ σ ε σ).Fails r s e ↔ False := by simp [Fails, get]

@[simp] theorem fails_modify {f : σ → σ} : (modify f : Txn ρ σ ε Unit).Fails r s e ↔ False := by
  simp [Fails, modify]

@[simp] theorem fails_raise {e' : ε} : (raise e' : Txn ρ σ ε α).Fails r s e ↔ e = e' := by
  simp [Fails, raise, eq_comm]

@[simp] theorem fails_raiseIf {c : Prop} [Decidable c] {e' : ε} :
    (raiseIf c e' : Txn ρ σ ε Unit).Fails r s e ↔ c ∧ e = e' := by
  by_cases h : c <;> simp [raiseIf, h]

@[simp] theorem fails_orRaise {o : Option α} {e' : ε} :
    (orRaise o e' : Txn ρ σ ε α).Fails r s e ↔ o = none ∧ e = e' := by
  cases o <;> simp [orRaise]

@[simp] theorem fails_check {c : Except ε Unit} :
    (check c : Txn ρ σ ε Unit).Fails r s e ↔ c = .error e := by
  cases c <;> simp [Fails, check, Except.map]

@[simp] theorem fails_mapFailure {f : ε → ε} {x : Txn ρ σ ε α} :
    (mapFailure f x).Fails r s e ↔ ∃ e', x.Fails r s e' ∧ e = f e' := by
  unfold Fails mapFailure
  rcases x r s with e' | p
  · show Except.error (f e') = Except.error e ↔ _
    simp [eq_comm]
  · show Except.ok p = Except.error e ↔ _
    simp

@[simp] theorem fails_embed {ε' : Type} {f : ε → ε'} {x : Txn ρ σ ε α} {e' : ε'} :
    (embed f x).Fails r s e' ↔ ∃ e, x.Fails r s e ∧ e' = f e := by
  unfold Fails embed
  rcases x r s with e | p
  · show Except.error (f e) = Except.error e' ↔ _
    simp [eq_comm]
  · show Except.ok p = Except.error e' ↔ _
    simp

/-- Every failure of the program satisfies `P`. -/
def FailsOnly (P : ε → Prop) (x : Txn ρ σ ε α) : Prop := ∀ r s e, x.Fails r s e → P e

theorem FailsOnly.bind {P : ε → Prop} {x : Txn ρ σ ε α} {f : α → Txn ρ σ ε β} (hx : FailsOnly P x)
    (hf : ∀ a, FailsOnly P (f a)) : FailsOnly P (x >>= f) := by
  intro r s e h
  rcases fails_bind.mp h with h | ⟨a, s₁, -, h⟩
  · exact hx r s e h
  · exact hf a r s₁ e h

theorem failsOnly_pure {P : ε → Prop} (a : α) : FailsOnly P (pure a : Txn ρ σ ε α) :=
  fun _ _ _ h => (fails_pure.mp h).elim

theorem failsOnly_raiseIf {P : ε → Prop} {c : Prop} [Decidable c] (h : P e) :
    FailsOnly P (raiseIf c e : Txn ρ σ ε Unit) :=
  fun _ _ _ hf => (fails_raiseIf.mp hf).2 ▸ h

theorem failsOnly_orRaise {P : ε → Prop} {o : Option α} (h : P e) :
    FailsOnly P (orRaise o e : Txn ρ σ ε α) :=
  fun _ _ _ hf => (fails_orRaise.mp hf).2 ▸ h

/-! ### The transaction boundary -/

theorem Runs.exec {x : Txn ρ σ ε α} {a : α} (h : x.Runs r s a s') : x.exec r s = s' := by
  rw [Runs] at h
  rw [Txn.exec, h]

/-- **A transaction that fails changes nothing.** -/
theorem Fails.exec {x : Txn ρ σ ε α} (h : x.Fails r s e) : x.exec r s = s := by
  rw [Fails] at h
  rw [Txn.exec, h]

theorem Runs.succeeds {x : Txn ρ σ ε α} {a : α} (h : x.Runs r s a s') : x.succeeds r s = true := by
  rw [Runs] at h
  rw [Txn.succeeds, h]
  rfl

theorem Fails.not_succeeds {x : Txn ρ σ ε α} (h : x.Fails r s e) : x.succeeds r s = false := by
  rw [Fails] at h
  rw [Txn.succeeds, h]
  rfl

theorem runs_or_fails (x : Txn ρ σ ε α) (r : ρ) (s : σ) :
    (∃ a s', x.Runs r s a s') ∨ ∃ e, x.Fails r s e := by
  unfold Runs Fails
  rcases x r s with e | ⟨a, s'⟩
  · exact .inr ⟨e, rfl⟩
  · exact .inl ⟨a, s', rfl⟩

theorem succeeds_iff {x : Txn ρ σ ε α} : x.succeeds r s = true ↔ ∃ a s', x.Runs r s a s' := by
  constructor
  · intro h
    rcases x.runs_or_fails r s with hruns | ⟨e, hfails⟩
    · exact hruns
    · exact absurd (hfails.not_succeeds.symm.trans h) Bool.false_ne_true
  · rintro ⟨a, s', hruns⟩
    exact hruns.succeeds

theorem map_fst_ok {x : Txn ρ σ ε α} {a : α} : (x r s).map Prod.fst = .ok a ↔ ∃ s', x.Runs r s a s' := by
  unfold Runs
  rcases x r s with e | ⟨a', s'⟩ <;> simp [Except.map]

theorem map_fst_error {x : Txn ρ σ ε α} {e : ε} : (x r s).map Prod.fst = .error e ↔ x.Fails r s e := by
  unfold Fails
  rcases x r s with e' | ⟨a, s'⟩ <;> simp [Except.map]

theorem exec_cases (x : Txn ρ σ ε α) (r : ρ) (s : σ) :
    x.exec r s = s ∨ ∃ a, x.Runs r s a (x.exec r s) := by
  rcases x.runs_or_fails r s with ⟨a, s', h⟩ | ⟨e, h⟩
  · exact .inr ⟨a, h.exec ▸ h⟩
  · exact .inl h.exec

end Txn
