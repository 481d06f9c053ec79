import Mathlib.Data.Option.Basic

/-!
# Replaying a log

An entry of a log may say what a value was before it and what the value is after it. `replay` walks a
log from a starting value: an entry that says what was before must agree with the value so far, and an
entry that says what is after sets it.
-/

namespace Replay

variable {ε ν : Type} [DecidableEq ν] {before after : ε → Option ν}

/-- The value after the log, if every entry agrees with the value it finds. -/
def replay (before after : ε → Option ν) : ν → List ε → Option ν
  | v, [] => some v
  | v, e :: es =>
    if before e = none ∨ before e = some v then replay before after ((after e).getD v) es else none

/-- The entry says nothing about the value. -/
def Silent (before after : ε → Option ν) (e : ε) : Prop := before e = none ∧ after e = none

theorem replay_cons_change {v w : ν} {e : ε} (es : List ε) (hb : before e = some v)
    (ha : after e = some w) : replay before after v (e :: es) = replay before after w es := by
  rw [replay, if_pos (.inr hb), ha, Option.getD_some]

theorem replay_cons_silent {v : ν} {e : ε} (es : List ε) (he : Silent before after e) :
    replay before after v (e :: es) = replay before after v es := by
  rw [replay, if_pos (.inl he.1), he.2, Option.getD_none]

theorem replay_append {v w : ν} {xs : List ε} (ys : List ε) (h : replay before after v xs = some w) :
    replay before after v (xs ++ ys) = replay before after w ys := by
  induction xs generalizing v with
  | nil =>
    obtain rfl := Option.some.inj h
    rfl
  | cons e xs ih =>
    rw [replay] at h
    rw [List.cons_append, replay]
    split at h
    · next hb =>
      rw [if_pos hb]
      exact ih h
    · exact absurd h (Option.some_ne_none w).symm

theorem replay_silent {v : ν} {es : List ε} (h : ∀ e ∈ es, Silent before after e) :
    replay before after v es = some v := by
  induction es with
  | nil => rfl
  | cons e es ih =>
    rw [replay_cons_silent es (h e List.mem_cons_self)]
    exact ih fun x hx => h x (List.mem_cons_of_mem _ hx)

end Replay
