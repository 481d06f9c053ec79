import Mathlib.Logic.Function.Basic
import Mathlib.Data.Bool.Count
import Mathlib.Data.List.Basic

/-!
# Interleaved two-step calls

A family of calls on one store. Each call first reads: it sees the store at one moment and either fails
or stages what it is going to write. Later it commits: it writes what it has staged into the store as it
is by then, or fails and writes nothing. `Calls.exec` runs the steps of all calls in any order.

`Outline` is the proof rule for such families, after Owicki and Gries: an invariant of the store, an
assertion for each call in each phase, and the obligation that no commit of one call invalidates the
assertion of another.
-/

namespace Interleaving

/-- The two steps of each call. -/
structure Calls (ι σ π ε α : Type) where
  read : ι → σ → Except ε π
  commit : ι → π → σ → Except ε (α × σ)

/-- How far a call has come. -/
inductive Phase (π ε α : Type)
  | waiting
  | ready (staged : π)
  | done (result : Except ε α)

/-- The call has committed. -/
def Phase.succeeded {π ε α : Type} : Phase π ε α → Bool
  | .done (.ok _) => true
  | _ => false

/-- The steps the call can still take. -/
def Phase.remaining {π ε α : Type} : Phase π ε α → Nat
  | .waiting => 2
  | .ready _ => 1
  | .done _ => 0

theorem Phase.remaining_eq_zero {π ε α : Type} {φ : Phase π ε α} (h : φ.remaining = 0) :
    ∃ result, φ = .done result := by
  cases φ with
  | waiting => exact absurd h (Nat.succ_ne_zero 1)
  | ready => exact absurd h Nat.one_ne_zero
  | done result => exact ⟨result, rfl⟩

theorem Phase.succeeded_iff {π ε α : Type} {φ : Phase π ε α} :
    φ.succeeded ↔ ∃ a, φ = .done (.ok a) := by
  constructor
  · intro h
    match φ, h with
    | .done (.ok a), _ => exact ⟨a, rfl⟩
  · rintro ⟨a, rfl⟩
    rfl

/-- The store, and how far each call has come. -/
structure State (ι σ π ε α : Type) where
  store : σ
  phase : ι → Phase π ε α

variable {ι σ π ε α : Type}

/-- No call has begun. -/
def State.start (s : σ) : State ι σ π ε α := ⟨s, fun _ => .waiting⟩

variable [DecidableEq ι]

/-- The call enters its next phase and leaves the store alone. -/
def State.enter (st : State ι σ π ε α) (i : ι) (φ : Phase π ε α) : State ι σ π ε α :=
  { st with phase := Function.update st.phase i φ }

namespace Calls

variable (c : Calls ι σ π ε α)

/-- The next step of call `i`; a call that is done takes no further step. -/
def step (st : State ι σ π ε α) (i : ι) : State ι σ π ε α :=
  match st.phase i with
  | .waiting =>
    match c.read i st.store with
    | .ok staged => st.enter i (.ready staged)
    | .error e => st.enter i (.done (.error e))
  | .ready staged =>
    match c.commit i staged st.store with
    | .ok (a, s) => { st.enter i (.done (.ok a)) with store := s }
    | .error e => st.enter i (.done (.error e))
  | .done _ => st

/-- The steps of the calls in the order of the schedule. -/
def exec (st : State ι σ π ε α) (schedule : List ι) : State ι σ π ε α := schedule.foldl c.step st

@[simp] theorem exec_nil (st : State ι σ π ε α) : c.exec st [] = st := rfl

@[simp] theorem exec_cons (st : State ι σ π ε α) (i : ι) (schedule : List ι) :
    c.exec st (i :: schedule) = c.exec (c.step st i) schedule := rfl

variable {c}

/-- What one step of call `i` can do. -/
inductive Move (c : Calls ι σ π ε α) (st : State ι σ π ε α) (i : ι) : State ι σ π ε α → Prop
  | stage {staged : π} (hphase : st.phase i = .waiting) (hread : c.read i st.store = .ok staged) :
      Move c st i (st.enter i (.ready staged))
  | refuse {e : ε} (hphase : st.phase i = .waiting) (hread : c.read i st.store = .error e) :
      Move c st i (st.enter i (.done (.error e)))
  | commit {staged : π} {a : α} {s : σ} (hphase : st.phase i = .ready staged)
      (hcommit : c.commit i staged st.store = .ok (a, s)) :
      Move c st i { st.enter i (.done (.ok a)) with store := s }
  | rollBack {staged : π} {e : ε} (hphase : st.phase i = .ready staged)
      (hcommit : c.commit i staged st.store = .error e) :
      Move c st i (st.enter i (.done (.error e)))
  | rest {result : Except ε α} (hphase : st.phase i = .done result) : Move c st i st

theorem move (st : State ι σ π ε α) (i : ι) : Move c st i (c.step st i) := by
  unfold step
  split
  · next hphase =>
    split
    · next hread => exact .stage hphase hread
    · next hread => exact .refuse hphase hread
  · next hphase =>
    split
    · next hcommit => exact .commit hphase hcommit
    · next hcommit => exact .rollBack hphase hcommit
  · next hphase => exact .rest hphase

/-- What every step preserves, every schedule preserves. -/
theorem exec_inv {P : State ι σ π ε α → Prop} (hstep : ∀ {st i st'}, P st → Move c st i st' → P st')
    (schedule : List ι) {st : State ι σ π ε α} (h : P st) : P (c.exec st schedule) := by
  induction schedule generalizing st with
  | nil => exact h
  | cons i schedule ih => exact ih (hstep h (move st i))

theorem Move.phase_of_ne {st st' : State ι σ π ε α} {i j : ι} (h : Move c st i st') (hj : j ≠ i) :
    st'.phase j = st.phase j := by
  cases h <;> simp [State.enter, hj]

theorem Move.succeeded {st st' : State ι σ π ε α} {i j : ι} (h : Move c st i st')
    (hj : (st.phase j).succeeded) : (st'.phase j).succeeded := by
  by_cases hji : j = i
  · subst hji
    cases h with
    | rest => exact hj
    | stage hphase | refuse hphase | commit hphase | rollBack hphase =>
      rw [hphase] at hj
      exact absurd hj Bool.false_ne_true
  · rwa [h.phase_of_ne hji]

theorem exec_succeeded (schedule : List ι) {st : State ι σ π ε α} {j : ι}
    (hj : (st.phase j).succeeded) : ((c.exec st schedule).phase j).succeeded :=
  exec_inv (fun h hmove => hmove.succeeded h) schedule hj

theorem Move.remaining_le {st st' : State ι σ π ε α} {i : ι} (h : Move c st i st') (j : ι) :
    (st'.phase j).remaining ≤ (st.phase j).remaining - if i = j then 1 else 0 := by
  by_cases hj : j = i
  · subst hj
    rw [if_pos rfl]
    cases h with
    | stage hphase | refuse hphase | commit hphase | rollBack hphase | rest hphase =>
      simp [State.enter, Phase.remaining, hphase]
  · rw [h.phase_of_ne hj, if_neg (Ne.symm hj)]
    exact Nat.le_refl _

theorem exec_remaining_le (schedule : List ι) (st : State ι σ π ε α) (j : ι) :
    ((c.exec st schedule).phase j).remaining ≤ (st.phase j).remaining - schedule.count j := by
  induction schedule generalizing st with
  | nil => exact Nat.le_refl _
  | cons i schedule ih =>
    have hstep := (c.move st i).remaining_le j
    have hrest := ih (c.step st i)
    simp only [List.count_cons, beq_iff_eq, exec_cons]
    omega

theorem exec_done {schedule : List ι} {j : ι} (h : 2 ≤ schedule.count j) (s : σ) :
    ∃ result, (c.exec (.start s) schedule).phase j = .done result := by
  have hle := c.exec_remaining_le schedule (.start s) j
  have htwo : ((State.start s : State ι σ π ε α).phase j).remaining = 2 := rfl
  exact Phase.remaining_eq_zero (by omega)

theorem Move.store_eq {st st' : State ι σ π ε α} {i : ι} (h : Move c st i st')
    (hi : ¬ (st'.phase i).succeeded) : st'.store = st.store := by
  cases h with
  | commit => exact absurd (by simp [State.enter, Phase.succeeded]) hi
  | stage | refuse | rollBack | rest => rfl

theorem step_congr {st₁ st₂ : State ι σ π ε α} {i : ι} (hstore : st₁.store = st₂.store)
    (hi : st₁.phase i = st₂.phase i) :
    (c.step st₁ i).store = (c.step st₂ i).store ∧
      ∀ j, st₁.phase j = st₂.phase j → (c.step st₁ i).phase j = (c.step st₂ i).phase j := by
  have hupdate : ∀ (φ : Phase π ε α) (j : ι), st₁.phase j = st₂.phase j →
      Function.update st₁.phase i φ j = Function.update st₂.phase i φ j := fun φ j hj => by
    rw [Function.update_apply, Function.update_apply, hj]
  unfold step
  rw [hi, hstore]
  split
  · split <;> exact ⟨hstore, hupdate _⟩
  · split
    · exact ⟨rfl, hupdate _⟩
    · exact ⟨hstore, hupdate _⟩
  · exact ⟨hstore, fun _ hj => hj⟩

/-- **A call that does not commit leaves no trace**: without the steps of such calls, the schedule
leaves the same store. -/
theorem exec_filter_store {keep : ι → Bool} (schedule : List ι) {st : State ι σ π ε α}
    (h : ∀ i, keep i = false → ¬ ((c.exec st schedule).phase i).succeeded) :
    (c.exec st (schedule.filter keep)).store = (c.exec st schedule).store := by
  suffices key : ∀ st₁ st₂ : State ι σ π ε α, st₁.store = st₂.store →
      (∀ i, keep i → st₁.phase i = st₂.phase i) →
      (∀ i, keep i = false → ¬ ((c.exec st₂ schedule).phase i).succeeded) →
      (c.exec st₁ (schedule.filter keep)).store = (c.exec st₂ schedule).store from
    key st st rfl (fun _ _ => rfl) h
  clear h st
  induction schedule with
  | nil => exact fun _ _ hstore _ _ => hstore
  | cons i schedule ih =>
    intro st₁ st₂ hstore hphase h
    rw [List.filter_cons]
    have hmove := c.move st₂ i
    cases hkeep : keep i with
    | true =>
      obtain ⟨hstore', hphase'⟩ := c.step_congr hstore (hphase i hkeep)
      exact ih _ _ hstore' (fun j hj => hphase' j (hphase j hj)) h
    | false =>
      refine ih _ _ (hstore.trans (hmove.store_eq fun hi => ?_).symm) (fun j hj => ?_) h
      · exact h i hkeep (exec_succeeded schedule hi)
      · have hne : j ≠ i := fun he => Bool.false_ne_true (hkeep.symm.trans (he ▸ hj))
        exact (hphase j hj).trans (hmove.phase_of_ne hne).symm

end Calls

/-! ### Proof outlines -/

/-- A store invariant and an assertion for each phase of each call, with the obligations that make them
hold throughout: what the steps of a call establish, and that its commit disturbs no other call. -/
structure Outline (c : Calls ι σ π ε α) where
  Inv : σ → Prop
  Holds : ι → Phase π ε α → σ → Prop
  read_ok {i s staged} : Inv s → c.read i s = .ok staged → Holds i (.ready staged) s
  read_error {i s e} : Inv s → c.read i s = .error e → Holds i (.done (.error e)) s
  commit_ok {i s staged a s'} : Inv s → Holds i (.ready staged) s → c.commit i staged s = .ok (a, s') →
    Inv s' ∧ Holds i (.done (.ok a)) s'
  commit_error {i s staged e} : Inv s → Holds i (.ready staged) s → c.commit i staged s = .error e →
    Holds i (.done (.error e)) s
  undisturbed {i j s staged a s' φ} : i ≠ j → Inv s → Holds i (.ready staged) s → Holds j φ s →
    c.commit i staged s = .ok (a, s') → Holds j φ s'

namespace Outline

variable {c : Calls ι σ π ε α} (o : Outline c)

/-- The invariant holds of the store, and each call's assertion holds in its phase. -/
def Valid (st : State ι σ π ε α) : Prop := o.Inv st.store ∧ ∀ i, o.Holds i (st.phase i) st.store

variable {o}

theorem Valid.enter {st : State ι σ π ε α} {i : ι} {φ : Phase π ε α} (h : o.Valid st)
    (hφ : o.Holds i φ st.store) : o.Valid (st.enter i φ) := by
  refine ⟨h.1, fun j => ?_⟩
  by_cases hj : j = i
  · subst hj
    simpa [State.enter] using hφ
  · simpa [State.enter, hj] using h.2 j

theorem Valid.move {st st' : State ι σ π ε α} {i : ι} (h : o.Valid st) (hmove : c.Move st i st') :
    o.Valid st' := by
  have hi := h.2 i
  cases hmove with
  | stage hphase hread => exact h.enter (o.read_ok h.1 hread)
  | refuse hphase hread => exact h.enter (o.read_error h.1 hread)
  | commit hphase hcommit =>
    rw [hphase] at hi
    have hdone := o.commit_ok h.1 hi hcommit
    refine ⟨hdone.1, fun j => ?_⟩
    by_cases hj : j = i
    · subst hj
      simpa [State.enter] using hdone.2
    · simpa [State.enter, hj] using o.undisturbed (Ne.symm hj) h.1 hi (h.2 j) hcommit
  | rollBack hphase hcommit =>
    rw [hphase] at hi
    exact h.enter (o.commit_error h.1 hi hcommit)
  | rest => exact h

/-- **The outline holds throughout**, in whatever order the calls take their steps. -/
theorem Valid.exec {st : State ι σ π ε α} (h : o.Valid st) (schedule : List ι) :
    o.Valid (c.exec st schedule) :=
  Calls.exec_inv Valid.move schedule h

/-- A relation between any two calls that have committed: the later one establishes it. -/
theorem Valid.exec_pairwise (R : ι → ι → Prop) (hsymm : ∀ {i j}, R i j → R j i)
    (hlater : ∀ {i j s staged a s' b}, i ≠ j → o.Inv s → o.Holds i (.ready staged) s →
      o.Holds j (.done (.ok b)) s → c.commit i staged s = .ok (a, s') → R i j)
    {s : σ} (h : o.Valid (.start s)) (schedule : List ι) {i j : ι} (hij : i ≠ j)
    (hi : ((c.exec (.start s) schedule).phase i).succeeded)
    (hj : ((c.exec (.start s) schedule).phase j).succeeded) : R i j := by
  have key := @Calls.exec_inv _ _ _ _ _ _ c (fun st => o.Valid st ∧ ∀ i j, i ≠ j →
    (st.phase i).succeeded → (st.phase j).succeeded → R i j) ?_ schedule (.start s)
    ⟨h, fun _ _ _ hi => absurd hi Bool.false_ne_true⟩
  · exact key.2 i j hij hi hj
  · intro st k st' ⟨hvalid, hpairs⟩ hmove
    refine ⟨hvalid.move hmove, fun i j hij hi hj => ?_⟩
    -- only a commit of `k` makes a new pair
    have hold : ∀ l, l ≠ k → (st'.phase l).succeeded → (st.phase l).succeeded := fun l hl h => by
      rwa [hmove.phase_of_ne hl] at h
    have hnew : ∀ l, k ≠ l → (st'.phase k).succeeded → (st.phase l).succeeded → R k l := by
      intro l hl hk hlphase
      obtain ⟨b, hb⟩ := Phase.succeeded_iff.mp hlphase
      cases hmove with
      | commit hphase hcommit =>
        exact hlater hl hvalid.1 (hphase ▸ hvalid.2 k) (hb ▸ hvalid.2 l) hcommit
      | rest => exact hpairs k l hl hk hlphase
      | stage | refuse | rollBack => simp [State.enter, Phase.succeeded] at hk
    by_cases hik : i = k
    · subst hik
      exact hnew j hij hi (hold j hij.symm hj)
    · by_cases hjk : j = k
      · subst hjk
        exact hsymm (hnew i hij.symm hj (hold i hij hi))
      · exact hpairs i j hij (hold i hik hi) (hold j hjk hj)

end Outline

/-! ### Two calls -/

section Two

/-- Each of two calls takes both its steps. -/
def Complete (schedule : List Bool) : Prop := schedule.count false = 2 ∧ schedule.count true = 2

/-- Both calls read before either commits. -/
def Overlap : List Bool → Prop
  | i :: j :: _ => i ≠ j
  | _ => False

/-- The call that is done first. -/
def firstDone : List Bool → Bool
  | i :: j :: k :: _ => if i = j then i else k
  | _ => false

instance (schedule : List Bool) : Decidable (Complete schedule) := inferInstanceAs (Decidable (_ ∧ _))

instance : DecidablePred Overlap
  | i :: j :: _ => inferInstanceAs (Decidable (i ≠ j))
  | [] | [_] => isFalse id

/-- What becomes of call `i` when it reads at `read` and commits at `write`. -/
def Calls.settle (c : Calls ι σ π ε α) (i : ι) (read write : σ) : Phase π ε α × σ :=
  match c.read i read with
  | .ok staged =>
    match c.commit i staged write with
    | .ok (a, s) => (.done (.ok a), s)
    | .error e => (.done (.error e), write)
  | .error e => (.done (.error e), write)

omit [DecidableEq ι] in
theorem Calls.settle_cases (c : Calls ι σ π ε α) (i : ι) (read write : σ) :
    (∃ staged a s, c.read i read = .ok staged ∧ c.commit i staged write = .ok (a, s) ∧
      c.settle i read write = (.done (.ok a), s)) ∨
    ∃ e, c.settle i read write = (.done (.error e), write) ∧
      ∀ staged a s, c.read i read = .ok staged → c.commit i staged write ≠ .ok (a, s) := by
  unfold settle
  cases hread : c.read i read with
  | error e => exact .inr ⟨e, rfl, fun _ _ _ h => by cases h⟩
  | ok staged =>
    cases hcommit : c.commit i staged write with
    | ok p => exact .inl ⟨staged, p.1, p.2, rfl, hcommit, by simp only [hcommit]⟩
    | error e =>
      refine .inr ⟨e, by simp only [hcommit], fun staged' a s h => ?_⟩
      cases h
      rw [hcommit]
      exact fun h => by cases h

variable {c : Calls ι σ π ε α} {st : State ι σ π ε α} {i : ι}

/-- The phase of a call that has read at `read`. -/
def Calls.afterRead (c : Calls ι σ π ε α) (i : ι) (read : σ) : Phase π ε α :=
  match c.read i read with
  | .ok staged => .ready staged
  | .error e => .done (.error e)

theorem Calls.step_of_waiting (h : st.phase i = .waiting) :
    c.step st i = st.enter i (c.afterRead i st.store) := by
  unfold step afterRead
  rw [h]
  cases c.read i st.store <;> rfl

/-- Call `i` is done. -/
def State.settled (st : State ι σ π ε α) (i : ι) (p : Phase π ε α × σ) : State ι σ π ε α :=
  ⟨p.2, Function.update st.phase i p.1⟩

theorem State.settled_self (p : Phase π ε α × σ) : (st.settled i p).phase i = p.1 :=
  Function.update_self ..

theorem State.settled_of_ne {j : ι} (p : Phase π ε α × σ) (h : j ≠ i) :
    (st.settled i p).phase j = st.phase j :=
  Function.update_of_ne h ..

theorem State.enter_self (φ : Phase π ε α) : (st.enter i φ).phase i = φ := Function.update_self ..

theorem State.enter_of_ne {j : ι} (φ : Phase π ε α) (h : j ≠ i) :
    (st.enter i φ).phase j = st.phase j :=
  Function.update_of_ne h ..

theorem Calls.step_of_read {read : σ} (h : st.phase i = c.afterRead i read) :
    c.step st i = st.settled i (c.settle i read st.store) := by
  have hdone : ∀ φ, st.phase i = φ → st.enter i φ = st := by
    rintro φ rfl
    simp [State.enter]
  cases hread : c.read i read with
  | error e =>
    simp only [afterRead, hread] at h
    simp only [step, settle, h, hread]
    exact (hdone _ h).symm
  | ok staged =>
    simp only [afterRead, hread] at h
    cases hcommit : c.commit i staged st.store <;>
    · simp only [step, settle, h, hread, hcommit]
      rfl

theorem Calls.step_twice (h : st.phase i = .waiting) :
    c.step (c.step st i) i = st.settled i (c.settle i st.store st.store) := by
  rw [step_of_waiting h, step_of_read (State.enter_self (c.afterRead i st.store))]
  simp [State.enter, State.settled]

theorem Calls.both_read (c : Calls Bool σ π ε α) (s : σ) (j : Bool) :
    (c.step (c.step (.start s) j) (!j)).store = s ∧
      ∀ k, (c.step (c.step (.start s) j) (!j)).phase k = c.afterRead k s := by
  have hj : (!j) ≠ j := by simp
  rw [c.step_of_waiting (show (State.start s).phase j = .waiting from rfl),
    c.step_of_waiting ((State.enter_of_ne _ hj).trans rfl)]
  refine ⟨rfl, fun k => ?_⟩
  rcases eq_or_ne k (!j) with rfl | hk
  · exact State.enter_self _
  · obtain rfl : k = j := by simpa using hk
    exact (State.enter_of_ne _ hk).trans (State.enter_self _)

theorem Complete.cases {schedule : List Bool} (h : Complete schedule) :
    ∃ i, schedule = [i, i, !i, !i] ∨ schedule = [i, !i, i, !i] ∨ schedule = [!i, i, i, !i] := by
  have hlength : schedule.length = 4 := by
    have := List.count_false_add_count_true schedule
    have := h.1
    have := h.2
    omega
  match schedule, hlength with
  | [i, j, k, l], _ =>
    revert h
    cases i <;> cases j <;> cases k <;> cases l <;> decide

/-- **Every interleaving of two calls** comes down to this: one call is done first, as if it were alone;
the other reads before that or after it, and commits last. -/
theorem Calls.exec_complete (c : Calls Bool σ π ε α) {schedule : List Bool} (h : Complete schedule) (s : σ) :
    let first := c.settle (firstDone schedule) s s
    let second := c.settle (!firstDone schedule) (if Overlap schedule then s else first.2) first.2
    (c.exec (.start s) schedule).phase (firstDone schedule) = first.1 ∧
      (c.exec (.start s) schedule).phase (!firstDone schedule) = second.1 ∧
      (c.exec (.start s) schedule).store = second.2 := by
  obtain ⟨i, hschedule⟩ := h.cases
  intro first second
  have hother : (!i) ≠ i := by simp
  have hfinal : ∀ (st : State Bool σ π ε α) (p q : Phase π ε α × σ),
      ((st.settled i p).settled (!i) q).phase i = p.1 ∧ (((st.settled i p).settled (!i) q).phase !i) = q.1 ∧
        ((st.settled i p).settled (!i) q).store = q.2 := fun st p q =>
    ⟨(State.settled_of_ne _ hother.symm).trans (State.settled_self _), State.settled_self _, rfl⟩
  rcases hschedule with rfl | hschedule
  · have hfirst : firstDone [i, i, !i, !i] = i := if_pos rfl
    have hoverlap : ¬ Overlap [i, i, !i, !i] := fun hne => hne rfl
    simp only [first, second, hfirst, if_neg hoverlap, exec_cons, exec_nil]
    rw [c.step_twice (show (State.start s).phase i = .waiting from rfl),
      c.step_twice ((State.settled_of_ne _ hother).trans rfl)]
    exact hfinal _ _ _
  · -- both have read `s`, in either order; the commits are left
    have hoverlap : Overlap schedule := by rcases hschedule with rfl | rfl <;> simp [Overlap]
    have hfirst : firstDone schedule = i := by rcases hschedule with rfl | rfl <;> simp [firstDone]
    obtain ⟨st, hstore, hphase, hexec⟩ : ∃ st : State Bool σ π ε α, st.store = s ∧
        (∀ j, st.phase j = c.afterRead j s) ∧
        c.exec (.start s) schedule = c.step (c.step st i) (!i) := by
      rcases hschedule with rfl | rfl
      · obtain ⟨hstore, hphase⟩ := c.both_read s i
        exact ⟨_, hstore, hphase, rfl⟩
      · obtain ⟨hstore, hphase⟩ := c.both_read s !i
        rw [Bool.not_not] at hstore hphase
        exact ⟨_, hstore, hphase, rfl⟩
    simp only [first, second, hfirst, if_pos hoverlap]
    rw [hexec, c.step_of_read (hphase i), hstore,
      c.step_of_read ((State.settled_of_ne _ hother).trans (hphase !i))]
    exact hfinal _ _ _

end Two

/-! ### Claims on keys -/

/-- Calls that each take a key which nobody has yet, and which may be another than the one they ask for: what a
call relies on, what it stages, by which of its failures the read says that somebody has the key it asks for, and by
which the commit says so of the key it takes. -/
structure Claims (c : Calls ι σ π ε α) (κ : Type) where
  asked : ι → κ
  key : ι → κ
  Has : σ → κ → Prop
  Relies : ι → σ → Prop
  Staged : ι → π → Prop
  Denies : ι → ε → Prop
  Late : ε → Prop
  read_ok {i s staged} : Relies i s → c.read i s = .ok staged → Staged i staged ∧ ¬ Has s (asked i)
  read_error {i s e} : c.read i s = .error e → (Denies i e → Has s (asked i)) ∧ ¬ Late e
  commit_ok {i s staged a s'} : Staged i staged → c.commit i staged s = .ok (a, s') →
    ¬ Has s (key i) ∧ (∀ k, Has s' k ↔ Has s k ∨ k = key i) ∧ ∀ j, j ≠ i → Relies j s → Relies j s'
  commit_error {i s staged e} : Relies i s → Staged i staged → c.commit i staged s = .error e →
    ¬ Denies i e ∧ (Late e → Has s (key i))

namespace Claims

variable {c : Calls ι σ π ε α} {κ : Type} (m : Claims c κ)

/-- The keys that are taken are those that were, and one for each call that has committed; a call that goes on to its
commit has found the key it asks for free; and both kinds of denial are justified. -/
structure Holds (s : σ) (st : State ι σ π ε α) : Prop where
  has : ∀ k, m.Has st.store k ↔ m.Has s k ∨ ∃ i, (st.phase i).succeeded ∧ m.key i = k
  unique : ∀ i j, (st.phase i).succeeded → (st.phase j).succeeded → m.key i = m.key j → i = j
  free : ∀ i, (st.phase i).succeeded → ¬ m.Has s (m.key i)
  relies : ∀ i, ¬ (st.phase i).succeeded → m.Relies i st.store
  staged : ∀ i staged, st.phase i = .ready staged → m.Staged i staged ∧ ¬ m.Has s (m.asked i)
  denied : ∀ i e, st.phase i = .done (.error e) → m.Denies i e → m.Has st.store (m.asked i)
  late : ∀ i e, st.phase i = .done (.error e) → m.Late e → ¬ m.Has s (m.asked i) ∧ m.Has st.store (m.key i)

variable {m} {s : σ} {st st' : State ι σ π ε α} {i : ι}

theorem Holds.enter (h : m.Holds s st) {φ : Phase π ε α} (hbefore : ¬ (st.phase i).succeeded)
    (hφ : ¬ φ.succeeded) (hstaged : ∀ staged, φ = .ready staged → m.Staged i staged ∧ ¬ m.Has s (m.asked i))
    (herror : ∀ e, φ = .done (.error e) → (m.Denies i e → m.Has st.store (m.asked i)) ∧
      (m.Late e → ¬ m.Has s (m.asked i) ∧ m.Has st.store (m.key i))) :
    m.Holds s (st.enter i φ) := by
  have hsame : ∀ j, ((st.enter i φ).phase j).succeeded ↔ (st.phase j).succeeded := by
    intro j
    by_cases hj : j = i
    · subst hj
      simp [State.enter, hφ, hbefore]
    · simp [State.enter, hj]
  refine ⟨fun k => ?_, fun j k hj hk => ?_, fun j hj => ?_, fun j hj => ?_, fun j staged hj => ?_,
    fun j e hj => ?_, fun j e hj => ?_⟩
  · simp only [hsame]
    exact h.has k
  · exact h.unique j k ((hsame j).mp hj) ((hsame k).mp hk)
  · exact h.free j ((hsame j).mp hj)
  · exact h.relies j ((hsame j).not.mp hj)
  · by_cases hji : j = i
    · subst hji
      exact hstaged staged (by simpa [State.enter] using hj)
    · exact h.staged j staged (by simpa [State.enter, hji] using hj)
  · by_cases hji : j = i
    · subst hji
      exact (herror e (by simpa [State.enter] using hj)).1
    · exact h.denied j e (by simpa [State.enter, hji] using hj)
  · by_cases hji : j = i
    · subst hji
      exact (herror e (by simpa [State.enter] using hj)).2
    · exact h.late j e (by simpa [State.enter, hji] using hj)

theorem Holds.commit (h : m.Holds s st) {staged : π} {a : α} {s' : σ} (hphase : st.phase i = .ready staged)
    (hcommit : c.commit i staged st.store = .ok (a, s')) :
    m.Holds s { st.enter i (.done (.ok a)) with store := s' } := by
  obtain ⟨hnot, hhas, hrelies⟩ := m.commit_ok (h.staged i staged hphase).1 hcommit
  have hdone : (st.enter i (.done (.ok a))).phase i = .done (.ok a) := State.enter_self _
  have hself : ((st.enter i (.done (.ok a))).phase i).succeeded := by
    rw [hdone]
    rfl
  have hother : ∀ j, j ≠ i → (st.enter i (.done (.ok a))).phase j = st.phase j := fun j hj => State.enter_of_ne _ hj
  -- nobody who has committed has the key of this call
  have hnone : ∀ j, (st.phase j).succeeded → m.key j ≠ m.key i := fun j hj hkey =>
    hnot ((h.has _).mpr (.inr ⟨j, hj, hkey⟩))
  refine ⟨fun k => ?_, fun j k hj hk hkey => ?_, fun j hj => ?_, fun j hj => ?_, fun j staged' hj => ?_,
    fun j e hj hdenies => ?_, fun j e hj => ?_⟩
  · rw [hhas, h.has]
    constructor
    · rintro ((hs | ⟨j, hj, hkey⟩) | rfl)
      · exact .inl hs
      · have hji : j ≠ i := fun he => by
          rw [he, hphase] at hj
          exact Bool.false_ne_true hj
        exact .inr ⟨j, (hother j hji).symm ▸ hj, hkey⟩
      · exact .inr ⟨i, hself, rfl⟩
    · rintro (hs | ⟨j, hj, hkey⟩)
      · exact .inl (.inl hs)
      · by_cases hji : j = i
        · exact .inr (hji ▸ hkey.symm)
        · exact .inl (.inr ⟨j, hother j hji ▸ hj, hkey⟩)
  · by_cases hji : j = i
    · by_cases hki : k = i
      · exact hji.trans hki.symm
      · exact absurd (hkey.symm.trans (congrArg m.key hji)) (hnone k (hother k hki ▸ hk))
    · by_cases hki : k = i
      · exact absurd (hkey.trans (congrArg m.key hki)) (hnone j (hother j hji ▸ hj))
      · exact h.unique j k (hother j hji ▸ hj) (hother k hki ▸ hk) hkey
  · by_cases hji : j = i
    · exact hji ▸ fun hs => hnot ((h.has _).mpr (.inl hs))
    · exact h.free j (hother j hji ▸ hj)
  · have hji : j ≠ i := fun he => hj (he ▸ hself)
    exact hrelies j hji (h.relies j fun hj' => hj ((hother j hji).symm ▸ hj'))
  · have hji : j ≠ i := by
      rintro rfl
      exact nomatch hdone.symm.trans hj
    exact h.staged j staged' ((hother j hji).symm.trans hj)
  · have hji : j ≠ i := by
      rintro rfl
      exact nomatch hdone.symm.trans hj
    exact (hhas _).mpr (.inl (h.denied j e ((hother j hji).symm.trans hj) hdenies))
  · have hji : j ≠ i := by
      rintro rfl
      exact nomatch hdone.symm.trans hj
    exact fun hlate => (h.late j e ((hother j hji).symm.trans hj) hlate).imp_right fun hs => (hhas _).mpr (.inl hs)

theorem Holds.move (h : m.Holds s st) (hmove : c.Move st i st') : m.Holds s st' := by
  have hwaiting : ∀ {φ : Phase π ε α}, st.phase i = φ → φ.succeeded = false → ¬ (st.phase i).succeeded := by
    rintro φ rfl hφ
    simp [hφ]
  cases hmove with
  | stage hphase hread =>
    obtain ⟨hstaged, hfree⟩ := m.read_ok (h.relies i (hwaiting hphase rfl)) hread
    refine h.enter (hwaiting hphase rfl) Bool.false_ne_true (fun staged he => ?_) (fun e he => by cases he)
    cases he
    exact ⟨hstaged, fun hs => hfree ((h.has _).mpr (.inl hs))⟩
  | refuse hphase hread =>
    refine h.enter (hwaiting hphase rfl) Bool.false_ne_true (fun staged he => by cases he) (fun e he => ?_)
    cases he
    obtain ⟨hdenies, hlate⟩ := m.read_error hread
    exact ⟨hdenies, fun he => absurd he hlate⟩
  | commit hphase hcommit => exact h.commit hphase hcommit
  | rollBack hphase hcommit =>
    refine h.enter (hwaiting hphase rfl) Bool.false_ne_true (fun staged he => by cases he) (fun e he => ?_)
    cases he
    obtain ⟨hstaged, hfree⟩ := h.staged i _ hphase
    obtain ⟨hnot, hlate⟩ := m.commit_error (h.relies i (hwaiting hphase rfl)) hstaged hcommit
    exact ⟨fun hdenies => absurd hdenies hnot, fun he => ⟨hfree, hlate he⟩⟩
  | rest => exact h

omit [DecidableEq ι] in
/-- A call whose commit is denied has asked for another key than it takes, which somebody had from the start, or it
has been overtaken by another one for the same key. -/
theorem Holds.overtaken (h : m.Holds s st) {e : ε} (hi : st.phase i = .done (.error e)) (he : m.Late e) :
    (m.key i ≠ m.asked i ∧ m.Has s (m.key i)) ∨
      ¬ m.Has s (m.key i) ∧ ∃ j, j ≠ i ∧ (st.phase j).succeeded ∧ m.key j = m.key i := by
  obtain ⟨hasked, hkey⟩ := h.late i e hi he
  by_cases hs : m.Has s (m.key i)
  · exact .inl ⟨fun heq => hasked (heq ▸ hs), hs⟩
  · obtain ⟨j, hj, hkey⟩ := ((h.has _).mp hkey).resolve_left hs
    refine .inr ⟨hs, j, fun he => ?_, hj, hkey⟩
    rw [he, hi] at hj
    exact Bool.false_ne_true hj

/-- **Each key is taken once**, in whatever order the calls take their steps. -/
theorem holds_exec (m : Claims c κ) (hrelies : ∀ i, m.Relies i s) (schedule : List ι) :
    m.Holds s (c.exec (.start s) schedule) := by
  refine Calls.exec_inv (fun h hmove => h.move hmove) schedule ⟨fun k => ?_, fun i j hi => ?_, fun i hi => ?_,
    fun i _ => hrelies i, fun i staged hi => ?_, fun i e hi => ?_, fun i e hi => ?_⟩
  · simp [State.start, Phase.succeeded]
  all_goals cases hi

end Claims

end Interleaving
