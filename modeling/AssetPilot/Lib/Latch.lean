import AssetPilot.Lib.Interleaving

/-!
# Calls that race for a latch

Check-then-act without a lock: every call may go ahead that has read before the first commit, and the commits
then follow one another. `Latch.holds_exec` says exactly which calls succeed, and describes the store by the order
in which they commit.
-/

namespace Interleaving

variable {ι σ π ε α : Type} [DecidableEq ι]

/-! ### The order of the steps -/

/-- Call `i` takes its first step before call `j` has taken its second. -/
def ReadsBefore (schedule : List ι) (i j : ι) : Prop := (schedule.takeWhile (· ≠ i)).count j < 2

instance (schedule : List ι) (i j : ι) : Decidable (ReadsBefore schedule i j) := inferInstanceAs (Decidable (_ < _))

/-- What comes after the first step of `i` makes no difference to it. -/
theorem readsBefore_append {before after : List ι} {i j : ι} (hi : i ∈ before) :
    ReadsBefore (before ++ after) i j ↔ ReadsBefore before i j := by
  have hstops : (before ++ after).takeWhile (· ≠ i) = before.takeWhile (· ≠ i) := by
    induction before with
    | nil => cases hi
    | cons k before ih =>
      by_cases hk : k = i
      · simp [hk]
      · have hmem : i ∈ before := (List.mem_cons.mp hi).resolve_left (Ne.symm hk)
        simpa [hk] using ih hmem
  rw [ReadsBefore, ReadsBefore, hstops]

theorem readsBefore_concat {before : List ι} {i j : ι} (hi : i ∉ before) :
    ReadsBefore (before ++ [i]) i j ↔ before.count j < 2 := by
  have hall : ∀ k ∈ before, (decide (k ≠ i)) = true := fun k hk => decide_eq_true fun he => hi (he ▸ hk)
  rw [ReadsBefore, List.takeWhile_append_of_pos hall]
  simp

namespace Calls

variable (c : Calls ι σ π ε α)

theorem exec_append (st : State ι σ π ε α) (before after : List ι) :
    c.exec st (before ++ after) = c.exec (c.exec st before) after :=
  List.foldl_append

/-- Call `i`, if it has committed in this step. -/
def committed (st st' : State ι σ π ε α) (i : ι) : List ι :=
  if ¬ (st.phase i).succeeded ∧ (st'.phase i).succeeded then [i] else []

omit c in
theorem committed_enter {st : State ι σ π ε α} {i : ι} {φ : Phase π ε α} (hφ : φ.succeeded = false) :
    committed st (st.enter i φ) i = [] := by
  simp [committed, State.enter, hφ]

/-- The calls in the order in which they commit. -/
def commits (st : State ι σ π ε α) : List ι → List ι
  | [] => []
  | i :: schedule => committed st (c.step st i) i ++ commits (c.step st i) schedule

theorem commits_append (st : State ι σ π ε α) (before after : List ι) :
    c.commits st (before ++ after) = c.commits st before ++ c.commits (c.exec st before) after := by
  induction before generalizing st with
  | nil => rfl
  | cons i before ih =>
    simp only [List.cons_append, commits, ih, List.append_assoc, exec_cons]

variable {c}

/-- Induction on the steps taken, with the steps and the commits so far. -/
theorem exec_induction {P : List ι → List ι → State ι σ π ε α → Prop} {st : State ι σ π ε α} (hstart : P [] [] st)
    (hstep : ∀ {before won st i st'}, P before won st → Move c st i st' →
      P (before ++ [i]) (won ++ committed st st' i) st') (schedule : List ι) :
    P schedule (c.commits st schedule) (c.exec st schedule) := by
  induction schedule using List.reverseRecOn with
  | nil => exact hstart
  | append_singleton before i ih =>
    rw [commits_append, exec_append]
    have hlast : c.commits (c.exec st before) [i] = committed (c.exec st before) (c.step (c.exec st before) i) i :=
      List.append_nil _
    rw [hlast]
    exact hstep ih (c.move _ i)

end Calls

/-! ### Latches -/

/-- Calls that race for one latch: a call reads successfully while nobody has committed, and not after that; what it
stages then always commits. -/
structure Latch (c : Calls ι σ π ε α) where
  Can : ι → Prop
  stage : ι → π
  After : List ι → σ → Prop
  read_ok {i s} : After [] s → Can i → c.read i s = .ok (stage i)
  read_error {i won s} : After won s → (won ≠ [] ∨ ¬ Can i) → ∃ e, c.read i s = .error e
  commit_ok {i won s} : After won s → Can i → ∃ a s', c.commit i (stage i) s = .ok (a, s') ∧ After (won ++ [i]) s'

namespace Latch

variable {c : Calls ι σ π ε α} (l : Latch c)

/-- Call `i` can succeed, and has come in time for all that have. -/
def InTime (before : List ι) (st : State ι σ π ε α) (i : ι) : Prop :=
  l.Can i ∧ ∀ j, (st.phase j).succeeded → ReadsBefore before i j

/-- The store is that of the commits so far, and each call is where its timing has brought it. -/
structure Holds (before won : List ι) (st : State ι σ π ε α) : Prop where
  after : l.After won st.store
  nodup : won.Nodup
  won : ∀ i, i ∈ won ↔ (st.phase i).succeeded
  waiting : ∀ i, i ∈ before ↔ st.phase i ≠ .waiting
  ready : ∀ i staged, st.phase i = .ready staged → staged = l.stage i ∧ before.count i = 1 ∧ l.InTime before st i
  succeeded : ∀ i, (st.phase i).succeeded → 2 ≤ before.count i ∧ l.InTime before st i
  refused : ∀ i e, st.phase i = .done (.error e) → ¬ l.InTime before st i

variable {l} {before won : List ι} {st st' : State ι σ π ε α} {i k : ι}

theorem inTime_append (hi : i ∈ before) (hsame : ∀ j, (st'.phase j).succeeded ↔ (st.phase j).succeeded) :
    l.InTime (before ++ [k]) st' i ↔ l.InTime before st i := by
  simp only [InTime, hsame, readsBefore_append hi]

theorem count_concat_of_ne (hne : i ≠ k) : (before ++ [k]).count i = before.count i := by
  simp [List.count_append, Ne.symm hne]

theorem Holds.quiet (h : l.Holds before won st) {φ : Phase π ε α} (hk : ¬ (st.phase k).succeeded)
    (hφ : φ.succeeded = false) (hφ' : φ ≠ .waiting)
    (hready : ∀ staged, φ = .ready staged → staged = l.stage k ∧ (before ++ [k]).count k = 1 ∧
      l.InTime (before ++ [k]) (st.enter k φ) k)
    (hrefused : ∀ e, φ = .done (.error e) → ¬ l.InTime (before ++ [k]) (st.enter k φ) k) :
    l.Holds (before ++ [k]) won (st.enter k φ) := by
  have hself : (st.enter k φ).phase k = φ := State.enter_self _
  have hother : ∀ j, j ≠ k → (st.enter k φ).phase j = st.phase j := fun j hj => State.enter_of_ne _ hj
  have hsame : ∀ j, ((st.enter k φ).phase j).succeeded ↔ (st.phase j).succeeded := by
    intro j
    by_cases hj : j = k
    · rw [hj, hself, hφ]
      simpa using hk
    · rw [hother j hj]
  have hbefore : ∀ i, i ≠ k → st.phase i ≠ .waiting →
      (l.InTime (before ++ [k]) (st.enter k φ) i ↔ l.InTime before st i) := fun i _ hi =>
    inTime_append ((h.waiting i).mpr hi) hsame
  refine ⟨h.after, h.nodup, fun i => (h.won i).trans (hsame i).symm, fun i => ?_, fun i staged hi => ?_, fun i hi => ?_,
    fun i e hi => ?_⟩
  · by_cases hik : i = k
    · subst hik
      simp [hself, hφ']
    · simp [hother i hik, hik, h.waiting i]
  · by_cases hik : i = k
    · subst hik
      exact hready staged (hself.symm.trans hi)
    · have hphase := (hother i hik).symm.trans hi
      obtain ⟨hstaged, hcount, htime⟩ := h.ready i staged hphase
      refine ⟨hstaged, (count_concat_of_ne hik).trans hcount, (hbefore i hik ?_).mpr htime⟩
      simp [hphase]
  · have hdone := (hsame i).mp hi
    obtain ⟨hcount, htime⟩ := h.succeeded i hdone
    have hik : i ≠ k := fun he => hk (he ▸ hdone)
    refine ⟨(count_concat_of_ne hik).symm ▸ hcount, (hbefore i hik fun hw => ?_).mpr htime⟩
    rw [hw] at hdone
    exact Bool.false_ne_true hdone
  · by_cases hik : i = k
    · subst hik
      exact hrefused e (hself.symm.trans hi)
    · have hphase := (hother i hik).symm.trans hi
      refine fun htime => h.refused i e hphase ((hbefore i hik ?_).mp htime)
      simp [hphase]

theorem Holds.commit (h : l.Holds before won st) {a : α} {s : σ} (hphase : st.phase k = .ready (l.stage k))
    (hafter : l.After (won ++ [k]) s) :
    l.Holds (before ++ [k]) (won ++ [k]) { st.enter k (.done (.ok a)) with store := s } := by
  obtain ⟨-, hone, hintime⟩ := h.ready k _ hphase
  have hk : ¬ (st.phase k).succeeded := by simp [hphase, Phase.succeeded]
  have hself : (st.enter k (.done (.ok a))).phase k = .done (.ok a) := State.enter_self _
  have hother : ∀ j, j ≠ k → (st.enter k (.done (.ok a))).phase j = st.phase j := fun j hj => State.enter_of_ne _ hj
  have hsucceeded : ∀ j, ((st.enter k (.done (.ok a))).phase j).succeeded ↔ (st.phase j).succeeded ∨ j = k := by
    intro j
    by_cases hj : j = k
    · simp [hj, hself, Phase.succeeded]
    · simp [hother j hj, hj]
  -- who has read so far has come in time for `k`, which commits only now
  have hbefore : ∀ i, i ∈ before →
      (l.InTime (before ++ [k]) (st.enter k (.done (.ok a))) i ↔ l.InTime before st i) := by
    intro i hi
    have hin : ReadsBefore before i k := by
      have hle := (List.takeWhile_prefix (p := fun x => decide (x ≠ i)) (l := before)).sublist.count_le k
      simp only [ReadsBefore]
      omega
    simp only [InTime, hsucceeded, readsBefore_append hi, or_imp, forall_and, forall_eq, hin, and_true]
  have hread : ∀ i, st.phase i ≠ .waiting → i ∈ before := fun i => (h.waiting i).mpr
  refine ⟨hafter, ?_, fun i => ?_, fun i => ?_, fun i staged hi => ?_, fun i hi => ?_, fun i e hi => ?_⟩
  · refine List.nodup_append.mpr ⟨h.nodup, by simp, fun x hx y hy hxy => hk ((h.won k).mp ?_)⟩
    exact List.mem_singleton.mp hy ▸ hxy ▸ hx
  · simp [hsucceeded, h.won]
  · by_cases hik : i = k
    · subst hik
      simp [hself]
    · simp [hother i hik, hik, h.waiting i]
  · have hik : i ≠ k := by
      rintro rfl
      cases hself.symm.trans hi
    have hold := (hother i hik).symm.trans hi
    obtain ⟨hstaged, hcount, htime⟩ := h.ready i staged hold
    exact ⟨hstaged, (count_concat_of_ne hik).trans hcount, (hbefore i (hread i (by simp [hold]))).mpr htime⟩
  · by_cases hik : i = k
    · subst hik
      refine ⟨by simp [hone], (hbefore i (hread i (by simp [hphase]))).mpr hintime⟩
    · have hold := ((hsucceeded i).mp hi).resolve_right hik
      obtain ⟨hcount, htime⟩ := h.succeeded i hold
      refine ⟨(count_concat_of_ne hik).symm ▸ hcount, (hbefore i (hread i fun hw => ?_)).mpr htime⟩
      rw [hw] at hold
      exact Bool.false_ne_true hold
  · have hik : i ≠ k := by
      rintro rfl
      cases hself.symm.trans hi
    have hold := (hother i hik).symm.trans hi
    exact fun htime => h.refused i e hold ((hbefore i (hread i (by simp [hold]))).mp htime)

theorem Holds.move (h : l.Holds before won st) (hmove : c.Move st k st') :
    l.Holds (before ++ [k]) (won ++ Calls.committed st st' k) st' := by
  have hself : ∀ φ, (st.enter k φ).phase k = φ := fun φ => State.enter_self φ
  have hwaiting : st.phase k = .waiting → k ∉ before ∧ ¬ (st.phase k).succeeded := by
    intro hphase
    exact ⟨fun hk => (h.waiting k).mp hk hphase, by simp [hphase, Phase.succeeded]⟩
  -- in time exactly when it can succeed and nobody has committed yet
  have hfirst : st.phase k = .waiting → ∀ φ : Phase π ε α, φ.succeeded = false →
      (l.InTime (before ++ [k]) (st.enter k φ) k ↔ l.Can k ∧ won = []) := by
    intro hphase φ hφ
    obtain ⟨hbefore, hk⟩ := hwaiting hphase
    have hsame : ∀ j, ((st.enter k φ).phase j).succeeded ↔ j ∈ won := by
      intro j
      by_cases hj : j = k
      · simp [hj, hself, hφ, h.won, hk]
      · rw [State.enter_of_ne φ hj, h.won]
    simp only [InTime, hsame, readsBefore_concat hbefore, List.eq_nil_iff_forall_not_mem]
    refine and_congr_right fun _ => forall_congr' fun j => ⟨fun hlt hj => ?_, fun hnot hj => absurd hj hnot⟩
    exact absurd (hlt hj) (Nat.not_lt.mpr (h.succeeded j ((h.won j).mp hj)).1)
  cases hmove with
  | stage hphase hread =>
    obtain ⟨hbefore, hk⟩ := hwaiting hphase
    have hready : won = [] ∧ l.Can k := by
      by_contra hnot
      obtain ⟨e, he⟩ := l.read_error h.after (not_and_or.mp hnot)
      rw [hread] at he
      cases he
    obtain ⟨rfl, hcan⟩ := hready
    have hstaged := Except.ok.inj (hread.symm.trans (l.read_ok h.after hcan))
    rw [Calls.committed_enter rfl, List.append_nil]
    refine h.quiet hk rfl (by simp) (fun staged he => ?_) fun e he => by cases he
    cases he
    exact ⟨hstaged, by simp [List.count_eq_zero_of_not_mem hbefore], (hfirst hphase _ rfl).mpr ⟨hcan, rfl⟩⟩
  | refuse hphase hread =>
    obtain ⟨hbefore, hk⟩ := hwaiting hphase
    rw [Calls.committed_enter rfl, List.append_nil]
    refine h.quiet hk rfl (by simp) (fun staged he => by cases he) fun e he htime => ?_
    obtain ⟨hcan, rfl⟩ := (hfirst hphase _ rfl).mp htime
    rw [l.read_ok h.after hcan] at hread
    cases hread
  | commit hphase hcommit =>
    obtain ⟨rfl, -, hintime⟩ := h.ready k _ hphase
    obtain ⟨a, s, hok, hafter⟩ := l.commit_ok h.after hintime.1
    obtain ⟨rfl, rfl⟩ := Prod.mk.inj (Except.ok.inj (hok.symm.trans hcommit))
    have hnew : Calls.committed st { st.enter k (.done (.ok a)) with store := s } k = [k] := by
      simp [Calls.committed, hself, hphase, Phase.succeeded]
    rw [hnew]
    exact h.commit hphase hafter
  | rollBack hphase hcommit =>
    obtain ⟨rfl, -, hintime⟩ := h.ready k _ hphase
    obtain ⟨a, s, hok, -⟩ := l.commit_ok h.after hintime.1
    rw [hok] at hcommit
    cases hcommit
  | rest hphase =>
    have hk : k ∈ before := (h.waiting k).mpr (by simp [hphase])
    have hquiet : Calls.committed st st k = [] := by simp [Calls.committed]
    rw [hquiet, List.append_nil]
    have hread : ∀ i, st.phase i ≠ .waiting → (l.InTime (before ++ [k]) st i ↔ l.InTime before st i) := fun i hi =>
      inTime_append ((h.waiting i).mpr hi) fun _ => Iff.rfl
    refine ⟨h.after, h.nodup, h.won, fun i => ?_, fun i staged hi => ?_, fun i hi => ?_, fun i e hi htime => ?_⟩
    · rw [← h.waiting i]
      by_cases hik : i = k
      · simp [hik, hk]
      · simp [hik]
    · obtain ⟨hstaged, hcount, htime⟩ := h.ready i staged hi
      have hik : i ≠ k := by
        rintro rfl
        cases hphase.symm.trans hi
      exact ⟨hstaged, (count_concat_of_ne hik).trans hcount, (hread i (by simp [hi])).mpr htime⟩
    · obtain ⟨hcount, htime⟩ := h.succeeded i hi
      refine ⟨?_, (hread i fun hw => ?_).mpr htime⟩
      · rw [List.count_append]
        exact Nat.le_add_right_of_le hcount
      · rw [hw] at hi
        exact Bool.false_ne_true hi
    · exact h.refused i e hi ((hread i (by simp [hi])).mp htime)

/-- **Who wins a latch**: a call succeeds exactly when it can, and has read before any that succeed have committed. -/
theorem holds_exec (l : Latch c) {s : σ} (h : l.After [] s) (schedule : List ι) :
    l.Holds schedule (c.commits (.start s) schedule) (c.exec (.start s) schedule) := by
  refine Calls.exec_induction (P := fun before won st => l.Holds before won st) ?_ (fun h hmove => h.move hmove)
    schedule
  refine ⟨h, List.nodup_nil, fun i => ?_, fun i => ?_, fun i _ hi => ?_, fun i hi => ?_, fun i _ hi => ?_⟩
  · simp [State.start, Phase.succeeded]
  · simp [State.start]
  all_goals cases hi

theorem succeeded_iff (l : Latch c) {s : σ} (h : l.After [] s) {schedule : List ι} {i : ι}
    (hcount : 2 ≤ schedule.count i) :
    ((c.exec (.start s) schedule).phase i).succeeded ↔
      l.Can i ∧ ∀ j, ((c.exec (.start s) schedule).phase j).succeeded → ReadsBefore schedule i j := by
  have hholds := l.holds_exec h schedule
  refine ⟨fun hi => (hholds.succeeded i hi).2, fun htime => ?_⟩
  obtain ⟨result, hdone⟩ := Calls.exec_done hcount s
  rcases result with e | a
  · exact absurd htime (hholds.refused i e hdone)
  · exact Phase.succeeded_iff.mpr ⟨a, hdone⟩

end Latch
end Interleaving
