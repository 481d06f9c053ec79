import AssetPilot.Lib.Transaction

/-!
# Weakest preconditions of transactions

`wp E Q x r s`: from the store `s` the program `x` fails with an error in `E`, or succeeds with a value and
a store in `Q`. The rules are equivalences, so a precondition that they compute is the weakest one: what it
asks for is needed, and not only enough.
-/

namespace Txn

variable {ρ σ ε α β : Type} {E : ε → Prop} {Q Q' : α → σ → Prop} {r : ρ} {s : σ}

/-- Every outcome of `x` from `s` is good. -/
def wp (E : ε → Prop) (Q : α → σ → Prop) (x : Txn ρ σ ε α) (r : ρ) (s : σ) : Prop :=
  match x r s with
  | .ok (a, s') => Q a s'
  | .error e => E e

theorem wp_iff {x : Txn ρ σ ε α} :
    wp E Q x r s ↔ (∀ e, x.Fails r s e → E e) ∧ ∀ a s', x.Runs r s a s' → Q a s' := by
  unfold wp Fails Runs
  rcases x r s with e | ⟨a, s'⟩ <;> simp

theorem wp_true_iff {x : Txn ρ σ ε α} :
    wp E (fun _ _ => True) x r s ↔ ∀ e, x.Fails r s e → E e := by
  simp [wp_iff]

theorem exists_fails_of_wp {x : Txn ρ σ ε α} (h : wp E (fun _ _ => False) x r s) : ∃ e, E e ∧ x.Fails r s e := by
  obtain ⟨hfails, hruns⟩ := wp_iff.mp h
  rcases runs_or_fails x r s with ⟨a, s', hx⟩ | ⟨e, hx⟩
  · exact absurd hx (hruns a s')
  · exact ⟨e, hfails e hx, hx⟩

theorem fails_of_wp {x : Txn ρ σ ε α} {e : ε} (h : wp (· = e) (fun _ _ => False) x r s) : x.Fails r s e := by
  obtain ⟨e', rfl, hx⟩ := exists_fails_of_wp h
  exact hx

theorem exists_runs_of_wp {x : Txn ρ σ ε α} (h : wp (fun _ => False) Q x r s) : ∃ a s', x.Runs r s a s' ∧ Q a s' := by
  obtain ⟨hfails, hruns⟩ := wp_iff.mp h
  rcases runs_or_fails x r s with ⟨a, s', hx⟩ | ⟨e, hx⟩
  · exact ⟨a, s', hx, hruns a s' hx⟩
  · exact (hfails e hx).elim

theorem wp_of_runs {x : Txn ρ σ ε α} {a : α} {s' : σ} (h : x.Runs r s a s') (hQ : Q a s') : wp E Q x r s := by
  rw [Runs] at h
  rw [wp, h]
  exact hQ

/-! ### Rules -/

@[simp] theorem wp_pure {a : α} : wp E Q (pure a) r s ↔ Q a s := Iff.rfl

@[simp] theorem wp_bind {Q : β → σ → Prop} {x : Txn ρ σ ε α} {f : α → Txn ρ σ ε β} :
    wp E Q (x >>= f) r s ↔ wp E (fun a s' => wp E Q (f a) r s') x r s := by
  show (match (match x r s with | .ok (a, s₁) => f a r s₁ | .error e => .error e) with
    | .ok (a, s') => Q a s' | .error e => E e) ↔ _
  unfold wp
  rcases x r s with e | ⟨a, s₁⟩ <;> rfl

@[simp] theorem wp_ask {Q : ρ → σ → Prop} : wp E Q ask r s ↔ Q r s := Iff.rfl

@[simp] theorem wp_get {Q : σ → σ → Prop} : wp E Q get r s ↔ Q s s := Iff.rfl

@[simp] theorem wp_modify {Q : Unit → σ → Prop} {f : σ → σ} : wp E Q (modify f) r s ↔ Q () (f s) := Iff.rfl

@[simp] theorem wp_raiseIf {Q : Unit → σ → Prop} {c : Prop} [Decidable c] {e : ε} :
    wp E Q (raiseIf c e) r s ↔ (c → E e) ∧ (¬ c → Q () s) := by
  by_cases h : c <;> simp [raiseIf, h, wp, raise, pure]

@[simp] theorem wp_orRaise {o : Option α} {e : ε} :
    wp E Q (orRaise o e) r s ↔ (o = none → E e) ∧ ∀ a, o = some a → Q a s := by
  cases o with
  | none => exact ⟨fun h => ⟨fun _ => h, nofun⟩, fun h => h.1 rfl⟩
  | some a =>
    constructor
    · intro h
      refine ⟨nofun, fun b hb => ?_⟩
      obtain rfl := Option.some.inj hb
      exact h
    · exact fun h => h.2 a rfl

@[simp] theorem wp_check {Q : Unit → σ → Prop} {c : Except ε Unit} :
    wp E Q (check c) r s ↔ (∀ e, c = .error e → E e) ∧ (c = .ok () → Q () s) := by
  rcases c with e | ⟨⟨⟩⟩ <;> simp [check, wp, Except.map]

@[simp] theorem wp_mapFailure {f : ε → ε} {x : Txn ρ σ ε α} :
    wp E Q (mapFailure f x) r s ↔ wp (fun e => E (f e)) Q x r s := by
  unfold wp mapFailure
  rcases x r s with e | ⟨a, s'⟩ <;> rfl

@[simp] theorem wp_embed {ε' : Type} {E : ε' → Prop} {f : ε → ε'} {x : Txn ρ σ ε α} :
    wp E Q (embed f x) r s ↔ wp (fun e => E (f e)) Q x r s := by
  unfold wp embed
  rcases x r s with e | ⟨a, s'⟩ <;> rfl

/-- **The rule of the loop**: an invariant that every turn keeps without a bad failure. -/
theorem wp_forEach {P : σ → Prop} {f : Nat → α → Txn ρ σ ε Unit} {as : List α}
    (hf : ∀ n, ∀ a ∈ as, ∀ s, P s → wp E (fun _ s' => P s') (f n a) r s) (hs : P s) (n : Nat) :
    wp E (fun _ s' => P s') (forEach f n as) r s := by
  induction as generalizing n s with
  | nil => exact hs
  | cons a as ih =>
    rw [forEach, wp_bind]
    have hturn := wp_iff.mp (hf n a List.mem_cons_self s hs)
    refine wp_iff.mpr ⟨hturn.1, fun u s' hu => ?_⟩
    exact ih (fun n b hb => hf n b (List.mem_cons_of_mem a hb)) (hturn.2 u s' hu) (n + 1)

/-! ### Programs that only read -/

/-- `x` leaves the store as it is, or fails with an error in `E`. -/
def Reads (E : ε → Prop) (x : Txn ρ σ ε α) (r : ρ) (s : σ) : Prop := wp E (fun _ s' => s' = s) x r s

theorem Reads.bind {x : Txn ρ σ ε α} {f : α → Txn ρ σ ε β} (hx : Reads E x r s) (hf : ∀ a, Reads E (f a) r s) :
    Reads E (x >>= f) r s := by
  obtain ⟨hfails, hruns⟩ := wp_iff.mp hx
  refine wp_bind.mpr (wp_iff.mpr ⟨hfails, fun a s' h => ?_⟩)
  obtain rfl := hruns a s' h
  exact hf a

theorem reads_pure (a : α) : Reads E (pure a) r s := rfl

theorem reads_raiseIf {c : Prop} [Decidable c] {e : ε} (h : c → E e) : Reads E (raiseIf c e) r s :=
  wp_raiseIf.mpr ⟨h, fun _ => rfl⟩

theorem reads_orRaise {o : Option α} {e : ε} (h : E e) : Reads E (orRaise o e) r s :=
  wp_orRaise.mpr ⟨fun _ => h, fun _ _ => rfl⟩

theorem Reads.runs {x : Txn ρ σ ε α} {a : α} {s' : σ} (h : Reads E x r s) (hruns : x.Runs r s a s') : s' = s :=
  (wp_iff.mp h).2 a s' hruns

theorem Reads.fails {x : Txn ρ σ ε α} {e : ε} (h : Reads E x r s) (hfails : x.Fails r s e) : E e :=
  (wp_iff.mp h).1 e hfails

theorem Reads.exec {x : Txn ρ σ ε α} (h : Reads E x r s) : x.exec r s = s := by
  rcases exec_cases x r s with hexec | ⟨a, hruns⟩
  · exact hexec
  · exact h.runs hruns

end Txn
